import StorageGateway.Proofs.Gateway.Opening
import StorageGateway.Proofs.Release.Again

/-!
# Listed files can be downloaded

A link is looked for by the name of the file, in another listing of its directory, which takes what is
kept as it is. It leads to the file that was listed, as long as the backend tells no other file of the
name. After a refresh it can: what a source has refused is left out then, but it is still kept. Main
statement: `listed_file_links`.
-/

namespace StorageGateway

/-- The files of a name among some entries. -/
def filesNamed (n : String) (es : List Entry) : List Entry := (filesOf es).filter fun e => e.name == n

section Named

variable {n : String} {es : List Entry} {e : Entry}

theorem mem_filesNamed : e ∈ filesNamed n es ↔ e ∈ es ∧ e.isDirectory = false ∧ e.name = n := by
  rw [filesNamed, List.mem_filter, mem_filesOf, beq_iff_eq, and_assoc]

/-- The first file of a name is the one that is found. -/
theorem find?_eq_head?_filesNamed (n : String) (es : List Entry) :
    (es.find? fun e => e.name == n && !e.isDirectory) = (filesNamed n es).head? := by
  rw [filesNamed, filesOf, List.filter_filter, List.head?_filter]

theorem filesNamed_map_shownIn (n : String) (dir : Path) (es : List Entry) :
    filesNamed n (es.map (Gateway.shownIn dir)) = (filesNamed n es).map (Gateway.shownIn dir) := by
  unfold filesNamed filesOf
  rw [List.filter_map, List.filter_map]
  rfl

/-- No file is merged in from directories. -/
theorem filesOf_mergeEntries {own below : List Entry} (distinct : (directoryNames own).Nodup)
    (directories : ∀ d ∈ below, d.isDirectory = true) :
    filesOf (mergeEntries own below) = filesOf own := by
  have none : below.filter (fun e => !e.isDirectory) = [] := by
    rw [List.filter_eq_nil_iff]
    intro d among
    simp [directories d among]
  have files := (indexed_ofEntries distinct).files_extend below
  rw [none, List.append_nil] at files
  exact files

theorem filesNamed_mergeEntries {own below : List Entry} (n : String)
    (distinct : (directoryNames own).Nodup) (directories : ∀ d ∈ below, d.isDirectory = true) :
    filesNamed n (mergeEntries own below) = filesNamed n own :=
  congrArg (List.filter _) (filesOf_mergeEntries distinct directories)

/-- To pick by the name keeps all files of a name or none. -/
theorem filesNamed_filter (n : String) (picks : String → Bool) (es : List Entry) :
    filesNamed n (es.filter fun e => picks e.name) = if picks n then filesNamed n es else [] := by
  unfold filesNamed filesOf
  rw [List.filter_filter, List.filter_filter, List.filter_filter]
  split
  · next picked =>
    apply List.filter_congr
    intro e _
    by_cases named : e.name = n
    · simp [named, picked]
    · simp [named]
  · next left =>
    rw [List.filter_eq_nil_iff]
    intro e _
    by_cases named : e.name = n
    · simp [named, left]
    · simp [named]

/-- If files of a name are visible, all files of the name are. -/
theorem Standing.filesNamed_visibleEntries (s : Standing)
    (visible : e ∈ filesNamed n (s.visibleEntries es)) :
    filesNamed n (s.visibleEntries es) = filesNamed n es := by
  rw [Standing.visibleEntries, Clearance.visibleEntries_eq_filter, filesNamed_filter] at visible ⊢
  cases shown : s.clearance.shows s.rules s.path n with
  | true => rfl
  | false =>
    rw [shown] at visible
    contradiction

end Named

namespace Backend

variable {b : Backend} {source : Source} {dir place : Path} {refresh : Bool} {patience : Patience}
  {own : List Entry} {e : Entry} {l : Link}

/-- A link leads to the content of an entry that a backend has at a place: to where the entry says that
it is; in a tree otherwise to the place in memory, and from a repository through the proxy. -/
def LinksTo (b : Backend) (place : Path) (e : Entry) (l : Link) : Prop :=
  match b with
  | memory _ => l = ⟨e.locator.getD ("memory://" ++ place.text)⟩
  | releases r => ∃ url, e.locator = some url ∧ l = ⟨Releases.throughProxy url r.settings.proxy⟩

theorem not_isSpent_of_list_ok (listed : (b.list source dir refresh patience).answer = .ok own) :
    patience.isSpent = false := by
  by_contra spent
  unfold list at listed
  rw [if_pos (by simpa using spent)] at listed
  contradiction

/-- A file that was listed is listed again; without a refresh no other files are. -/
theorem list_again (listed : (b.list source dir refresh patience).answer = .ok own) (among : e ∈ own)
    (file : e.isDirectory = false) :
    ∃ again, ((b.list source dir refresh patience).backend.list source dir false .unlimited).answer =
        .ok again ∧ e ∈ again ∧ (refresh = false → (filesOf own).Perm (filesOf again)) := by
  have waited := not_isSpent_of_list_ok listed
  unfold list at listed ⊢
  rw [waited] at listed ⊢
  cases b with
  | memory tree => exact ⟨own, listed, among, fun _ => .refl _⟩
  | releases r => exact Releases.list_again listed among file

/-- A listing leaves all links as they are. -/
theorem link_list (b : Backend) (source : Source) (dir : Path) (refresh : Bool) (patience : Patience)
    (e : Entry) : (b.list source dir refresh patience).backend.link e = b.link e := by
  unfold list
  cases patience.isSpent <;> cases b <;> rfl

/-- There is a link for every file that is listed, and it leads to the content of the file. -/
theorem link_of_listed (listed : (b.list source dir refresh patience).answer = .ok own)
    (among : e ∈ own) (file : e.isDirectory = false) (child : place.IsChild dir e.name) :
    ∃ l, b.link e = .ok l ∧ b.LinksTo place e l := by
  cases b with
  | memory tree =>
    refine ⟨⟨e.locator.getD ("memory://" ++ e.path.text)⟩, if_neg (by simp [file]), ?_⟩
    obtain ⟨node, -, here⟩ :=
      MemoryTree.entry_of_listed (list_of_answer_memory listed) among child
    rw [here, MemoryTree.path_entry]
    rfl
  | releases r =>
    have waited := not_isSpent_of_list_ok listed
    unfold list at listed
    rw [waited] at listed
    obtain ⟨url, located⟩ := Releases.locator_of_listed listed among file
    refine ⟨⟨Releases.throughProxy url r.settings.proxy⟩, ?_, url, located, rfl⟩
    unfold link Releases.link
    rw [located]

end Backend

namespace Gateway

variable {g h : Gateway} {d : Destination} {path : Path} {options : ListingOptions} {own : List Entry}
  {e : Entry} {n : String}

theorem link_afterListing (g : Gateway) (d : Destination) (refresh : Bool) (patience : Patience)
    (e : Entry) :
    ((g.afterListing d refresh patience).pool.backend d.mount.backend).link e =
      (g.pool.backend d.mount.backend).link e := by
  unfold afterListing
  dsimp only
  rw [Pool.backend_afterServing, if_pos rfl]
  exact Backend.link_list _ _ _ _ _ e

/-- Repositories that are asked in turn tell what they reply, in the order of the points. -/
theorem answer_served_inTurn {r : Releases} (kept : g.pool.backend d.mount.backend = .releases r)
    (inTurn : r.settings.options.asksAtOnce
      ((RepositoryView.kind g.pool.source).related r.points d.place) = false) (refresh : Bool) :
    (g.served d refresh .unlimited).answer = (Tally.ofReplies
      ((RepositoryView.kind g.pool.source).finalReplies r.points d.place refresh)).answer := by
  rw [served, kept]
  exact Releases.answer_inTurn inTurn

/-- What follows on a listing of the owner of a path, as far as mounts and backends go. -/
structure Follows (g : Gateway) (d : Destination) (options : ListingOptions) (h : Gateway) : Prop where
  routes : h.routes = g.routes
  pool : h.pool = (g.afterListing d options.refresh options.patience).pool

/-- The only file of a name that the owner has told is told again, and no other one if there was no
refresh or the owner tells one file of the name at most. -/
theorem Follows.told_again (follows : g.Follows d options h) (leads : g.routes.resolve? path = some d)
    (answer : (g.served d options.refresh options.patience).answer = .ok own)
    (alone : filesNamed n own = [e])
    (once : options.refresh = true →
      ∀ others, h.Contributes path .default others → (filesNamed n others).length ≤ 1) :
    ∃ again, (h.served d false .unlimited).answer = .ok again ∧ filesNamed n again = [e] := by
  obtain ⟨among, file, named⟩ := mem_filesNamed.mp (alone ▸ List.mem_singleton_self e)
  obtain ⟨again, told, still, same⟩ := Backend.list_again answer among file
  have served : (h.served d false .unlimited).answer = .ok again := by
    unfold Gateway.served
    rw [follows.pool]
    unfold afterListing
    dsimp only
    rw [Pool.backend_afterServing, if_pos rfl]
    exact told
  have few : (filesNamed n again).length ≤ 1 := by
    cases refresh : options.refresh with
    | true => exact once refresh again (.answered (follows.routes ▸ leads) served)
    | false =>
      have alike : (filesNamed n own).Perm (filesNamed n again) := (same refresh).filter _
      rw [← alike.length_eq, alone]
      exact Nat.le_refl 1
  have present : e ∈ filesNamed n again := mem_filesNamed.mpr ⟨still, file, named⟩
  refine ⟨again, served, ?_⟩
  obtain ⟨x, one⟩ := List.length_eq_one_iff.mp (Nat.le_antisymm few (List.length_pos_of_mem present))
  rw [one] at present
  rw [one, List.mem_singleton.mp present]

/-- An entry was told by the owner of a path when it was listed. -/
structure Tells (g : Gateway) (path : Path) (options : ListingOptions) (d : Destination) (e : Entry) :
    Prop where
  leads : g.routes.resolve? path = some d
  among : ∃ entries, (g.served d options.refresh options.patience).answer = .ok entries ∧ e ∈ entries

end Gateway

namespace Serving

variable {g g₁ h : Gateway} {u : User} {d request n password : String} {s : Standing} {path : Path}
  {dst : Destination} {options : ListingOptions} {entries own again : List Entry} {e : Entry} {l : Link}

theorem storage_link_run (id : BackendId) (e : Entry) (g : Gateway) :
    storage (Pool.link id e) g =
      match (g.pool.backend id).link e with
      | .ok l => .ok l g
      | .error e => .error (.storage e) g := by
  have got : (get : Pool.Request Pool) g.pool = .ok g.pool g.pool := rfl
  unfold storage Pool.link
  rw [bind_of_ok got]
  cases (g.pool.backend id).link e <;> rfl

/-- Whoever may enter is shown what the owner of a directory tells, together with the directories that
lead to mounts, but for what is hidden. -/
theorem list_of_answer (stands : standing u request g = .ok s g₁)
    (enters : s.mayEnter options.password = true)
    (fresh : (!options.refresh || s.allows .http .refresh) = true)
    (leads : g.routes.resolve? s.path = some dst)
    (answer : (g.served dst options.refresh options.patience).answer = .ok own) :
    list u request options g =
      .ok (s.visibleEntries
        ((mergeEntries own (g.routes.impliedDirectories g.pool.usage s.path)).map
          (Gateway.shownIn s.path)))
        (g₁.afterListing dst options.refresh options.patience) := by
  obtain ⟨-, accounts, rfl⟩ := of_standing_ok stands
  have told : (({ g with accounts } : Gateway).served dst options.refresh options.patience).answer =
      .ok own := answer
  have run (below : Bool) :
      backendEntries s.path below options.refresh options.patience { g with accounts } =
        .ok own (({ g with accounts } : Gateway).afterListing dst options.refresh options.patience) := by
    rw [backendEntries_run, leads]
    dsimp only
    rw [told]
  rw [list_run stands, enters, fresh, Bool.and_self, if_pos rfl]
  dsimp only
  rw [run]

/-- Whoever may enter gets the link of the first file of the name that the directory lists. -/
theorem link_run (stands : standing u request g = .ok s g₁) (enters : s.mayEnter password = true)
    (leads : g₁.routes.resolve? s.path = some dst) (beneath : dst.place ≠ .root)
    (answered : (g₁.served ⟨dst.mount, dst.place.parent⟩ false .unlimited).answer = .ok again)
    (first : (filesNamed dst.place.lastSegment again).head? = some e)
    (linked : (g₁.pool.backend dst.mount.backend).link e = .ok l) :
    link u request password g =
      .ok l (g₁.afterListing ⟨dst.mount, dst.place.parent⟩ false .unlimited) := by
  have got : (get : Serving Gateway) g₁ = .ok g₁ g₁ := rfl
  have listed := storage_list_run ⟨dst.mount, dst.place.parent⟩ false .unlimited g₁
  rw [answered] at listed
  unfold link
  rw [bind_of_ok stands, enters, bind_of_ok (require_run s true g₁), bind_of_ok got, leads]
  dsimp only
  rw [if_neg beneath, bind_of_ok listed, find?_eq_head?_filesNamed, first]
  dsimp only
  rw [storage_link_run, Gateway.link_afterListing, linked]

/-- A file that a listing shows under a name of its own can be downloaded right after: the link is the
one that the owner gives for the file that it has told, and leads to its content. After a refresh, the
owner must tell no other file of the name when it is asked again without one: of what a source has refused
to it, it still tells what it has kept. -/
theorem listed_file_links (routes : g.routes.Built) (listed : list u d options g = .ok entries h)
    (leads : u.resolve d = .ok path) (segment : IsSegment n) (only : filesNamed n entries = [e])
    (unmounted : g.routes.get? (path.join n) = none)
    (stands : standing u (d ++ "/" ++ n) h = .ok s g₁) (enters : s.mayEnter password = true)
    (once : options.refresh = true →
      ∀ others, h.Contributes path .default others → (filesNamed n others).length ≤ 1) :
    ∃ dst file l k, g.Tells path options dst file ∧ e = Gateway.shownIn path file ∧
      link u (d ++ "/" ++ n) password h = .ok l k ∧
      (g.pool.backend dst.mount.backend).link file = .ok l ∧
      (g.pool.backend dst.mount.backend).LinksTo (dst.place.join n) file l := by
  obtain ⟨top, accounts, own, starts, run, rfl⟩ := backendEntries_of_list_ok listed
  obtain rfl : top.path = path := Except.ok.inj ((of_standing_ok starts).1.symm.trans leads)
  have contributed := contributes_of_ok run Gateway.mountsBelow_iff.mp
  -- the file is the only one of the name that the owner has told
  have shown : (filesNamed n own).map (Gateway.shownIn top.path) = [e] := by
    rw [← only, top.filesNamed_visibleEntries (only ▸ List.mem_singleton_self e),
      filesNamed_map_shownIn,
      filesNamed_mergeEntries n contributed.nodup fun _ => Routes.isDirectory_implied]
  obtain ⟨file, alone, rfl⟩ := List.map_eq_singleton_iff.mp shown
  obtain ⟨among, isFile, rfl⟩ := mem_filesNamed.mp (alone ▸ List.mem_singleton_self file)
  rcases of_backendEntries_ok run with ⟨dst, found, answer, left⟩ | ⟨rfl, -⟩
  swap
  · contradiction
  have follows : g.Follows dst options h := by
    subst left
    exact ⟨rfl, rfl⟩
  have inside := dst.place.isChild_join segment
  obtain ⟨l, linked, content⟩ := Backend.link_of_listed answer among isFile inside
  -- the request for the file leads to the same backend, which tells the file again
  obtain ⟨there, others, rfl⟩ := of_standing_ok stands
  obtain ⟨again, told, first⟩ := follows.told_again found answer alone once
  have place : h.routes.resolve? s.path = some ⟨dst.mount, dst.place.join file.name⟩ := by
    rw [← Except.ok.inj ((resolve_below u d segment leads).symm.trans there), follows.routes]
    exact Routes.resolve?_join routes segment found unmounted
  have toldThere : (({ h with accounts := others } : Gateway).served
      ⟨dst.mount, (dst.place.join file.name).parent⟩ false .unlimited).answer = .ok again := by
    rw [inside.parent_eq]
    exact told
  have firstThere : (filesNamed (dst.place.join file.name).lastSegment again).head? = some file := by
    rw [inside.lastSegment_eq, first]
    rfl
  have linkedThere : (h.pool.backend dst.mount.backend).link file = .ok l := by
    rw [follows.pool, Gateway.link_afterListing, linked]
  exact ⟨dst, file, l, _, ⟨found, own, answer, among⟩, rfl,
    link_run stands enters place inside.ne_root toldThere firstThere linkedThere, linked, content⟩

/-- A user who may write everywhere. -/
def writer : User := ⟨⟨1⟩, "ann", "/", [⟨3⟩], false, 0⟩

/-- A file that can be downloaded. -/
def assetAt (name url : String) : Asset := ⟨name, .ofNat 1, url, 0, 0⟩

/-- Two repositories that have released one file each, and each have a readme. -/
def twoOrigins : Source :=
  (((Source.empty.publish "o/a" [⟨"v1", 0, 0, [assetAt "a.zip" "https://github.com/o/a/a.zip"]⟩]).provide
    "o/a" [assetAt "readme" "https://github.com/o/a/readme"]).publish
      "o/b" [⟨"v1", 0, 0, [assetAt "b.zip" "https://github.com/o/b/b.zip"]⟩]).provide
        "o/b" [assetAt "readme" "https://github.com/o/b/readme"]

/-- A gateway with both repositories at the root, behind a proxy. -/
def twoRepositories : Gateway :=
  (Gateway.new .default (after
    (AccountStore.putRole ⟨⟨0⟩, "writers", "", [⟨"/", .single .write⟩]⟩) (.records .empty)) twoOrigins).mount
      .root (DriverSettings.backend 0 (.releases
        { ReleasesSettings.default with
          repoStructure := "o/a\no/b", showReadme := true, proxy := "https://mirror" })) 0

/-- How to ask for what is new. -/
def refreshing : ListingOptions := ⟨true, "", .unlimited⟩

/-- Where both repositories are. -/
def originsAtRoot : Destination := ⟨⟨.root, ⟨0⟩, 0, 0⟩, .root⟩

/-- How the writer stands to what is at a path of the gateway. -/
def writerAt (path : Path) : Standing :=
  ⟨path, ⟨[⟨⟨3⟩, "writers", "", [⟨"/", .single .write⟩]⟩]⟩, none⟩

/-- What the writer is shown of the root, if its owner tells some entries. -/
def shownToWriter (g : Gateway) (own : List Entry) : List Entry :=
  (writerAt .root).visibleEntries
    ((mergeEntries own (g.routes.impliedDirectories g.pool.usage .root)).map (Gateway.shownIn .root))

/-- The gateway as a listing of the root leaves it. -/
def listedByWriter (g : Gateway) (refresh : Bool) : Gateway :=
  (after (standing writer "/") g).afterListing originsAtRoot refresh .unlimited

/-- The gateway after the writer has asked for what is new. -/
def refreshedOnce : Gateway := listedByWriter twoRepositories true

theorem listed_file_links_afterRefresh : ∃ entries h e s g₁,
    twoRepositories.routes.Built ∧ list writer "/" refreshing twoRepositories = .ok entries h ∧
      writer.resolve "/" = .ok .root ∧ IsSegment "a.zip" ∧ filesNamed "a.zip" entries = [e] ∧
      twoRepositories.routes.get? (Path.root.join "a.zip") = none ∧
      standing writer ("/" ++ "/" ++ "a.zip") h = .ok s g₁ ∧ s.mayEnter "" = true ∧
      (refreshing.refresh = true → ∀ others, h.Contributes .root .default others →
        (filesNamed "a.zip" others).length ≤ 1) ∧
      ∃ dst file l k, twoRepositories.Tells .root refreshing dst file ∧
        e = Gateway.shownIn .root file ∧ link writer ("/" ++ "/" ++ "a.zip") "" h = .ok l k ∧
        (twoRepositories.pool.backend dst.mount.backend).link file = .ok l ∧
        (twoRepositories.pool.backend dst.mount.backend).LinksTo (dst.place.join "a.zip") file l := by
  have routes : twoRepositories.routes.Built := .mount _ _ _ .empty
  have found : twoRepositories.routes.resolve? .root = some originsAtRoot := rfl
  have leads : writer.resolve "/" = .ok .root := rfl
  have segment : IsSegment "a.zip" := by decide
  have unmounted : twoRepositories.routes.get? (Path.root.join "a.zip") = none := rfl
  have shown : ((twoRepositories.served originsAtRoot true .unlimited).answer.map fun own =>
      (filesNamed "a.zip" (shownToWriter twoRepositories own)).length) = .ok 1 := by
    rw [Gateway.answer_served_inTurn rfl rfl]
    decide +kernel
  obtain ⟨own, told, one⟩ := of_map_ok shown
  obtain ⟨e, only⟩ := List.length_eq_one_iff.mp one
  have listed : list writer "/" refreshing twoRepositories = .ok _ refreshedOnce :=
    list_of_answer (s := writerAt .root) rfl rfl rfl found told
  have stands : standing writer ("/" ++ "/" ++ "a.zip") refreshedOnce =
      .ok (writerAt (Path.root.join "a.zip"))
        (after (standing writer ("/" ++ "/" ++ "a.zip")) refreshedOnce) := rfl
  have foundAgain : refreshedOnce.routes.resolve? .root = some originsAtRoot := rfl
  have shownAgain : ((refreshedOnce.served originsAtRoot false .unlimited).answer.map fun again =>
      (filesNamed "a.zip" again).length) = .ok 1 := by
    rw [Gateway.answer_served_inTurn rfl rfl]
    decide +kernel
  obtain ⟨again, toldAgain, single⟩ := of_map_ok shownAgain
  have once : ∀ others, refreshedOnce.Contributes .root .default others →
      (filesNamed "a.zip" others).length ≤ 1 := by
    intro others contributes
    cases contributes with
    | answered leadsToo answer =>
      cases leadsToo.symm.trans foundAgain
      cases answer.symm.trans toldAgain
      exact single.le
    | failed => exact Nat.zero_le 1
    | ownerless => exact Nat.zero_le 1
  exact ⟨_, refreshedOnce, e, _, _, routes, listed, leads, segment, only, unmounted, stands, rfl,
    fun _ => once, listed_file_links routes listed leads segment only unmounted stands rfl
      fun _ => once⟩

/-- The root is listed; from then on the own files of the first repository cannot be fetched. -/
def firstFails : Serving Unit := do
  let _ ← list writer "/" .default
  modify fun g => { g with pool := { g.pool with source := g.pool.source.failExtras "o/a" true } }

/-- The gateway after the root was listed and the own files of the first repository went out of reach. -/
def brokenOrigin : Gateway := after firstFails twoRepositories

/-- The same gateway, put together by hand. -/
def originOutOfReach : Gateway :=
  let listed := listedByWriter twoRepositories false
  { listed with pool := { listed.pool with source := listed.pool.source.failExtras "o/a" true } }

theorem brokenOrigin_eq : brokenOrigin = originOutOfReach := by
  have answered : ((twoRepositories.served originsAtRoot false .unlimited).answer.map fun _ => ()) =
      .ok () := by
    rw [Gateway.answer_served_inTurn rfl rfl]
    decide +kernel
  obtain ⟨own, told, -⟩ := of_map_ok answered
  have listed : list writer "/" .default twoRepositories = .ok _ (listedByWriter twoRepositories false) :=
    list_of_answer (s := writerAt .root) rfl rfl rfl rfl told
  exact after_of_ok (bind_of_ok listed)

/-- The refresh leaves out the readme that cannot be fetched, so that the other one stands alone in the
listing; the link leads to the first one, which is still kept. -/
theorem refreshed_file_links_elsewhere : ∃ entries h e s g₁ k,
    brokenOrigin.routes.Built ∧ list writer "/" refreshing brokenOrigin = .ok entries h ∧
      writer.resolve "/" = .ok .root ∧ IsSegment "readme" ∧ filesNamed "readme" entries = [e] ∧
      brokenOrigin.routes.get? (Path.root.join "readme") = none ∧
      standing writer ("/" ++ "/" ++ "readme") h = .ok s g₁ ∧ s.mayEnter "" = true ∧
      e.locator = some "https://github.com/o/b/readme" ∧
      link writer ("/" ++ "/" ++ "readme") "" h = .ok ⟨"https://mirror/o/a/readme"⟩ k := by
  rw [brokenOrigin_eq]
  have shown : ((originOutOfReach.served originsAtRoot true .unlimited).answer.map fun own =>
      (filesNamed "readme" (shownToWriter originOutOfReach own)).map Entry.locator) =
        .ok [some "https://github.com/o/b/readme"] := by
    rw [Gateway.answer_served_inTurn rfl rfl]
    decide +kernel
  have kept : (((listedByWriter originOutOfReach true).served originsAtRoot false .unlimited).answer.map
      fun again => (filesNamed "readme" again).head?.map
        ((listedByWriter originOutOfReach true).pool.backend ⟨0⟩).link) =
        .ok (some (.ok ⟨"https://mirror/o/a/readme"⟩)) := by
    rw [Gateway.answer_served_inTurn rfl rfl]
    decide +kernel
  obtain ⟨own, told, others⟩ := of_map_ok shown
  obtain ⟨e, only, locator⟩ := List.map_eq_singleton_iff.mp others
  obtain ⟨again, toldAgain, first⟩ := of_map_ok kept
  obtain ⟨file, head, linked⟩ := Option.map_eq_some_iff.mp first
  have listed : list writer "/" refreshing originOutOfReach =
      .ok _ (listedByWriter originOutOfReach true) :=
    list_of_answer (s := writerAt .root) rfl rfl rfl rfl told
  have stands : standing writer ("/" ++ "/" ++ "readme") (listedByWriter originOutOfReach true) =
      .ok (writerAt (Path.root.join "readme"))
        (after (standing writer ("/" ++ "/" ++ "readme")) (listedByWriter originOutOfReach true)) := rfl
  have enters : (writerAt (Path.root.join "readme")).mayEnter "" = true := rfl
  have place : (listedByWriter originOutOfReach true).routes.resolve? (Path.root.join "readme") =
      some ⟨originsAtRoot.mount, Path.root.join "readme"⟩ := rfl
  have links := link_run stands enters place (by decide) toldAgain head linked
  exact ⟨_, _, e, _, _, _, .mount _ _ _ .empty, listed, rfl, by decide, only, rfl, stands, enters,
    locator, links⟩

end Serving

end StorageGateway
