import StorageGateway.Proofs.Path.Covering
import StorageGateway.Proofs.Release.Fetches

/-!
# The directories of releases

A point that shows all releases shows a directory for each of them, named by its tag. The directory
opens to the files of the release if the tag can stand as one segment of a path. Any other tag is
followed from the point like the text of a path, so that the directory lies elsewhere and shows the
files only by chance. Main statement: `release_opens_iff`.
-/

namespace StorageGateway

/-! ## Data that can be had -/

/-- Whoever is told something is told what the source has to say. -/
theorem DataSet.answer_of_outcome_ok {d : DataSet} {source : Source} {repo : String}
    {patience : Patience} {data : d.Content} (told : d.outcome source repo patience = .ok data) :
    d.answer source repo = .ok data := by
  rw [outcome] at told
  split at told
  · contradiction
  · cases answer : d.answer source repo with
    | ok content =>
      rw [answer] at told
      cases told
      rfl
    | error e =>
      rw [answer] at told
      contradiction

/-- Data that a call would bring, and of which nothing else is kept, is come by. -/
theorem Attempt.of_told {k : Kept} {refresh : Bool} {d : DataSet} {told result : Except Stop d.Content}
    {calls : List Fetch} {data : d.Content} (attempt : Attempt k refresh d told calls result)
    (can : told = .ok data) (current : ∀ kept, k.data? d = some kept → kept = data) :
    result = .ok data := by
  cases attempt with
  | known kept => rw [current _ kept]
  | called => exact can

namespace RepositoryView

variable {p : RepositoryView} {source : Source} {request : Path} {bearing : Bearing} {refresh : Bool}

/-- A visit shows releases that can be had. Other files stand beside them at the point itself only. -/
theorem Served.shows {calls : List Fetch} {reply : Reply}
    (served : p.Served source request bearing refresh .unlimited calls reply)
    {content : p.mode.dataSet.Content}
    (can : p.mode.dataSet.answer source p.repo = .ok content)
    (current : ∀ kept, p.kept.data? p.mode.dataSet = some kept → kept = content) :
    ∃ files, reply = .entries (p.shown request bearing p.mode content ++ files) ∧
      (∀ f ∈ files, f.isDirectory = false) ∧ (bearing ≠ .exact → files = []) := by
  have told : p.mode.dataSet.outcome source p.repo .unlimited = .ok content := by
    rw [Visiting.outcome_unlimited, can]
    rfl
  cases needed : p.needsReleases bearing with
  | false =>
    refine ⟨[], ?_, nofun, fun _ => rfl⟩
    rw [served.of_idle needed, shown_of_unneeded needed, List.append_nil]
  | true =>
    rcases served.of_had needed fun had => had.of_told told current with
      ⟨-, replied⟩ | ⟨wanted, -, outcome, -, replied⟩
    · exact ⟨[], by rw [replied, List.append_nil], nofun, fun _ => rfl⟩
    · refine ⟨_, replied, fun f shown => ?_, fun elsewhere => absurd wanted.1 elsewhere⟩
      cases outcome with
      | ok extras =>
        obtain ⟨a, -, rfl⟩ := List.mem_map.mp shown
        rfl
      | error => contradiction

/-! ## A point that shows all releases -/

/-- The releases of a repository are those that its source has, and a point that shows them all keeps
no others. -/
structure Shows (p : RepositoryView) (source : Source) (releases : List Release) : Prop where
  allVersions : p.mode = .allVersions
  published : source.allReleases p.repo = .ok releases
  current : ∀ kept, p.kept.releases = some kept → kept = releases

namespace Shows

variable {releases : List Release}

theorem reply (shows : p.Shows source releases) (request : Path) (bearing : Bearing) (refresh : Bool) :
    ∃ files, (p.visit source request bearing refresh .unlimited).reply =
        .entries (p.shown request bearing .allVersions releases ++ files) ∧
      (∀ f ∈ files, f.isDirectory = false) ∧ (bearing ≠ .exact → files = []) := by
  have served := p.visit_served source request bearing refresh .unlimited
  obtain ⟨allVersions, published, current⟩ := shows
  obtain ⟨point, repo, mode, showExtras, kept⟩ := p
  subst allVersions
  exact served.shows published current

/-- What a point keeps of releases goes on being what its source has. -/
theorem composes_current (p : RepositoryView) (published : source.allReleases p.repo = .ok releases) :
    Visiting.Composes p source fun x =>
      Keeps (fun c => ∀ kept, c.kept.data? .releases = some kept → kept = releases) x where
  pure := Keeps.pure
  bind := Keeps.bind
  rescue first failed interrupted := first.rescue fun stop => by
    cases stop with
    | failed e => exact failed e
    | interrupted => exact interrupted ▸ Keeps.throw _
  fetch refresh d := fun c current => by
    obtain ⟨calls, attempt, onward⟩ := p.fetch_attempt source refresh d c
    rw [onward.kept]
    generalize outcome (p.fetch source refresh d) c = result at attempt
    cases attempt with
    | known => exact current
    | called =>
      by_cases same : d = .releases
      · subst same
        cases told : DataSet.releases.outcome source p.repo c.patience with
        | error stop => exact current
        | ok data =>
          intro kept there
          have brought := DataSet.answer_of_outcome_ok told
          rw [List.foldl_cons, List.foldl_nil, Fetch.keptAfter, Kept.data?_keep_self] at there
          rw [← Option.some.inj there]
          exact Except.ok.inj (brought.symm.trans published)
      · rw [List.foldl_cons, List.foldl_nil, Fetch.data?_keptAfter_ne (Ne.symm same)]
        exact current

theorem visited (shows : p.Shows source releases) (request : Path) (bearing : Bearing)
    (refresh : Bool) (patience : Patience) :
    (p.visit source request bearing refresh patience).point.Shows source releases := by
  obtain ⟨allVersions, published, current⟩ := shows
  rw [(p.visit_eq source request bearing refresh patience).2.1]
  refine ⟨allVersions, published, ?_⟩
  exact p.judged_entries source (composes_current p published) request bearing refresh _ current

end Shows

/-! ## Where a directory is found again -/

/-- The assets that are shown below a point: those of the release whose tag is the only segment. -/
def assetsAt (point : Path) (releases : List Release) (path : Path) : List Asset :=
  match point.below? path with
  | some [tag] => ((releases.find? (·.tag == tag)).map Release.assets).getD []
  | _ => []

theorem assetEntries_injective (dir : Path) : Function.Injective (assetEntries dir) := by
  refine List.map_injective_iff.mpr fun a b same => ?_
  obtain ⟨name, size, url, created, updated⟩ := a
  obtain ⟨name', size', url', created', updated'⟩ := b
  simp only [Entry.file, Entry.mk.injEq, Option.some.injEq] at same
  obtain ⟨-, rfl, rfl, -, rfl, rfl, rfl⟩ := same
  rfl

theorem isDirectory_of_mem_assetEntries {dir : Path} {assets : List Asset} {e : Entry}
    (shown : e ∈ assetEntries dir assets) : e.isDirectory = false := by
  obtain ⟨a, -, rfl⟩ := List.mem_map.mp shown
  rfl

theorem assetEntries_find? (p : RepositoryView) (tag : String) (releases : List Release) (dir : Path)
    (place : dir = p.point.join tag) :
    p.filesOfTag tag releases =
      assetEntries dir (((releases.find? (·.tag == tag)).map Release.assets).getD []) := by
  rw [filesOfTag, place]
  cases releases.find? (·.tag == tag) <;> rfl

/-- The text of segments is not empty. -/
theorem intercalate_ne_empty {segment : String} (first : segment ≠ "") (rest : List String) :
    "/".intercalate (segment :: rest) ≠ "" := by
  cases rest with
  | nil => rwa [String.intercalate_singleton]
  | cons next rest =>
    rw [String.intercalate_cons_cons]
    simp [first]

/-- Off the way up from the point, a point that shows all releases shows the assets that are there. -/
theorem shown_below (p : RepositoryView) {path : Path} (apart : path.covers p.point = false)
    (releases : List Release) :
    p.shown path (.between p.point path) .allVersions releases =
      assetEntries path (assetsAt p.point releases path) := by
  have differ : p.point ≠ path := by
    rintro same
    rw [same, Path.covers_refl] at apart
    contradiction
  rw [Bearing.between, if_neg differ, Path.firstBelow?_of_apart apart, Path.splitBelow?, assetsAt]
  cases found : p.point.below? path with
  | none => rfl
  | some more =>
    cases more with
    | nil => rfl
    | cons tag rest =>
      have shape := List.isPrefixOf?_eq_some_iff_append_eq.mp found
      cases rest with
      | nil =>
        have child : path.IsChild p.point tag := shape.symm
        exact p.assetEntries_find? tag releases path child.join_eq.symm
      | cons next rest =>
        have segment : IsSegment next := path.isSegment next (by rw [← shape]; simp)
        exact if_neg (intercalate_ne_empty segment.1 rest)

/-- On the way up from the point, a point that shows all releases shows directories. -/
theorem shown_above (p : RepositoryView) {path : Path} (above : path.covers p.point = true)
    {releases : List Release} (some : releases ≠ []) :
    ∃ e ∈ p.shown path (.between p.point path) .allVersions releases, e.isDirectory = true := by
  obtain ⟨newest, older, rfl⟩ := List.exists_cons_of_ne_nil some
  rw [Bearing.between]
  by_cases here : p.point = path
  · rw [if_pos here]
    exact ⟨_, List.mem_cons_self, rfl⟩
  · obtain ⟨child, -, first⟩ :=
      Path.exists_firstBelow? (Path.strictlyCovers_iff.mpr ⟨Ne.symm here, above⟩)
    rw [if_neg here, first]
    exact ⟨_, List.mem_cons_self, rfl⟩

/-! ## Opening a directory -/

variable {releases : List Release} {r : Release}

theorem find?_tag (distinct : (releases.map Release.tag).Nodup) (among : r ∈ releases) :
    releases.find? (·.tag == r.tag) = some r := by
  obtain ⟨before, later, rfl⟩ := List.append_of_mem among
  rw [List.find?_eq_some_iff_append]
  refine ⟨beq_self_eq_true r.tag, before, later, rfl, fun other earlier => ?_⟩
  rw [List.map_append, List.map_cons, List.nodup_append] at distinct
  have differ := distinct.2.2 other.tag (List.mem_map_of_mem earlier) r.tag List.mem_cons_self
  simpa using differ

/-- Where a tag is one segment, the assets of its release are there. -/
theorem assetsAt_join (distinct : (releases.map Release.tag).Nodup) (among : r ∈ releases)
    (segment : IsSegment r.tag) (point : Path) :
    assetsAt point releases (point.join r.tag) = r.assets := by
  have below : point.below? (point.join r.tag) = some [r.tag] :=
    List.isPrefixOf?_eq_some_iff_append_eq.mpr (Path.isChild_join point segment).symm
  rw [assetsAt, below]
  dsimp only
  rw [find?_tag distinct among]
  rfl

/-- What a visit shows at a path are certain files exactly if these are the assets that are there. -/
theorem Shows.reply_eq_iff (shows : p.Shows source releases) (some : releases ≠ []) (path : Path)
    (refresh : Bool) (assets : List Asset) :
    (p.visit source path (.between p.point path) refresh .unlimited).reply =
        .entries (assetEntries path assets) ↔
      path.covers p.point = false ∧ assetsAt p.point releases path = assets := by
  obtain ⟨files, replied, -, none⟩ := shows.reply path (.between p.point path) refresh
  rw [replied, Reply.entries.injEq]
  by_cases above : path.covers p.point = true
  · refine iff_of_false (fun same => ?_) fun below => absurd (below.1.symm.trans above) nofun
    obtain ⟨e, shown, directory⟩ := p.shown_above above some
    have file : e.isDirectory = false :=
      isDirectory_of_mem_assetEntries (same ▸ List.mem_append_left files shown)
    rw [directory] at file
    contradiction
  · have below : path.covers p.point = false := Bool.eq_false_iff.mpr above
    have elsewhere : Bearing.between p.point path ≠ .exact := by
      intro exactly
      rw [eq_of_between_exact exactly, Path.covers_refl] at below
      contradiction
    rw [none elsewhere, List.append_nil, p.shown_below below, (assetEntries_injective path).eq_iff]
    exact (and_iff_right below).symm

/-- The directory of a release, as it is listed with the point. -/
def directoryOf (p : RepositoryView) (r : Release) : Entry :=
  .directory p.point r.tag r.size r.created r.published

theorem size_directoryOf (p : RepositoryView) (r : Release) :
    (p.directoryOf r).size = .total ((assetEntries (p.directoryOf r).path r.assets).map Entry.size) := by
  rw [assetEntries, List.map_map]
  rfl

/-- A release directory opens to the files of the release exactly if the tag is one segment of a path,
or if the files happen to be those that are shown where the tag leads to. -/
theorem release_opens_iff (shows : p.Shows source releases)
    (distinct : (releases.map Release.tag).Nodup) (among : r ∈ releases) (refresh again : Bool) :
    ∃ entries e, (p.visit source p.point .exact refresh .unlimited).reply = .entries entries ∧
      e ∈ entries ∧ (∀ f ∈ entries, f.isDirectory = true ∧ f.name = r.tag ↔ f = e) ∧
      e.path = p.point.join r.tag ∧
      e.size = .total ((assetEntries e.path r.assets).map Entry.size) ∧
      (((p.visit source p.point .exact refresh .unlimited).point.visit source e.path
          (.between p.point e.path) again .unlimited).reply = .entries (assetEntries e.path r.assets) ↔
        IsSegment r.tag ∨
          e.path.covers p.point = false ∧ assetsAt p.point releases e.path = r.assets) := by
  obtain ⟨files, replied, plain, -⟩ := shows.reply p.point .exact refresh
  change _ = Reply.entries (releases.map p.directoryOf ++ files) at replied
  have listed := List.mem_map_of_mem (f := p.directoryOf) among
  refine ⟨_, p.directoryOf r, replied, List.mem_append_left files listed, fun f shown => ?_, rfl,
    p.size_directoryOf r, ?_⟩
  · refine ⟨fun ⟨directory, name⟩ => ?_, fun same => same ▸ ⟨rfl, rfl⟩⟩
    rcases List.mem_append.mp shown with listed | file
    · obtain ⟨other, alsoAmong, rfl⟩ := List.mem_map.mp listed
      have found := find?_tag distinct among
      have alsoFound := find?_tag distinct alsoAmong
      rw [show other.tag = r.tag from name, found] at alsoFound
      rw [Option.some.inj alsoFound]
    · rw [plain f file] at directory
      contradiction
  · have later := shows.visited p.point .exact refresh .unlimited
    have same : (p.visit source p.point .exact refresh .unlimited).point.point = p.point := by
      rw [(p.visit_eq source p.point .exact refresh .unlimited).2.1]
    have opened := later.reply_eq_iff (List.ne_nil_of_mem among) (p.directoryOf r).path again r.assets
    rw [same] at opened
    rw [opened, or_iff_right_of_imp]
    intro segment
    have child : (p.directoryOf r).path.IsChild p.point r.tag := Path.isChild_join p.point segment
    exact ⟨child.not_covers, assetsAt_join distinct among segment p.point⟩

/-- A release whose tag is one segment of a path. -/
def plainRelease : Release := ⟨"v1", 10, 20, [⟨"a.zip", .ofNat 5, "https://a", 10, 20⟩]⟩

/-- A release whose tag has a separator in it. -/
def nestedRelease : Release := ⟨"release/2", 30, 40, [⟨"b.zip", .ofNat 7, "https://b", 30, 40⟩]⟩

/-- A source with both releases. -/
def twoReleases : Source := Source.empty.publish "o/x" [nestedRelease, plainRelease]

/-- A point that shows all its releases. -/
def tagsPoint : RepositoryView := .new (.ofText "/gh/x") "o/x" .allVersions false

theorem shows_tagsPoint : tagsPoint.Shows twoReleases [nestedRelease, plainRelease] :=
  ⟨rfl, by decide, nofun⟩

theorem release_opens_iff_plain :
    tagsPoint.Shows twoReleases [nestedRelease, plainRelease] ∧
      ([nestedRelease, plainRelease].map Release.tag).Nodup ∧
      plainRelease ∈ [nestedRelease, plainRelease] ∧
      ∃ entries e, (tagsPoint.visit twoReleases tagsPoint.point .exact false .unlimited).reply =
          .entries entries ∧
        e ∈ entries ∧ (∀ f ∈ entries, f.isDirectory = true ∧ f.name = plainRelease.tag ↔ f = e) ∧
        e.path = tagsPoint.point.join plainRelease.tag ∧
        e.size = .total ((assetEntries e.path plainRelease.assets).map Entry.size) ∧
        (((tagsPoint.visit twoReleases tagsPoint.point .exact false .unlimited).point.visit twoReleases
            e.path (.between tagsPoint.point e.path) true .unlimited).reply =
            .entries (assetEntries e.path plainRelease.assets) ↔
          IsSegment plainRelease.tag ∨
            e.path.covers tagsPoint.point = false ∧
              assetsAt tagsPoint.point [nestedRelease, plainRelease] e.path = plainRelease.assets) :=
  ⟨shows_tagsPoint, by decide, by decide,
    release_opens_iff shows_tagsPoint (by decide) (by decide) false true⟩

/-- The directory of the other release is listed and opens to nothing. -/
theorem nested_release_opens_empty :
    let first := tagsPoint.visit twoReleases tagsPoint.point .exact false .unlimited
    let e := tagsPoint.directoryOf nestedRelease
    ([nestedRelease, plainRelease].map Release.tag).Nodup ∧ nestedRelease.tag ≠ "" ∧
      e ∈ first.reply.shown ∧ e.name = nestedRelease.tag ∧ nestedRelease.assets ≠ [] ∧
      (first.point.visit twoReleases e.path (.between tagsPoint.point e.path) false .unlimited).reply =
        .entries [] := by
  decide

end RepositoryView

end StorageGateway
