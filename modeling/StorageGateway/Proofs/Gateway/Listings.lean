import StorageGateway.Proofs.Gateway.Hidden
import StorageGateway.Proofs.Mount.Implied
import StorageGateway.Proofs.Mount.Listings

/-!
# What a listing shows

A listing shows what the owner of the path has there, and a directory for every way to the mounts
further down. A way that the owner knows as a directory goes into that directory. Main statement:
`list_folded`.
-/

namespace StorageGateway

namespace Standing

/-- What is visible is what is not hidden. -/
theorem visibleEntries_eq (s : Standing) (entries : List Entry) :
    s.visibleEntries entries =
      entries.filter fun e => ¬ s.clearance.Hides s.rules s.path e.name := by
  rw [visibleEntries, Clearance.visibleEntries_eq_filter]
  refine List.filter_congr fun e _ => ?_
  simp [Clearance.hides_iff]

theorem visibleEntries_sublist (s : Standing) (entries : List Entry) :
    (s.visibleEntries entries).Sublist entries := by
  rw [visibleEntries_eq]
  exact List.filter_sublist

end Standing

namespace Gateway

/-- What the backend at a destination does when it is listed. -/
def served (g : Gateway) (d : Destination) (refresh : Bool) (patience : Patience) :
    Served (List Entry) :=
  (g.pool.backend d.mount.backend).list g.pool.source d.place refresh patience

/-- The gateway after the backend at a destination was listed. -/
def afterListing (g : Gateway) (d : Destination) (refresh : Bool) (patience : Patience) : Gateway :=
  { g with pool := g.pool.afterServing d.mount.backend (g.served d refresh patience) }

/-- A mount lies beneath the path. -/
def MountsBelow (g : Gateway) (path : Path) : Prop :=
  ∃ m ∈ g.routes.toList, path.strictlyCovers m.path = true

/-- What the owner of a path contributes to a listing: what it answers; or nothing, if there is no
owner or if it fails, unless the caller gave up. Without an answer, a mount further down has to make
the path a directory. -/
inductive Contributes (g : Gateway) (path : Path) (options : ListingOptions) : List Entry → Prop
  | answered {d : Destination} {entries : List Entry} : g.routes.resolve? path = some d →
    (g.served d options.refresh options.patience).answer = .ok entries →
    Contributes g path options entries
  | failed {d : Destination} {e : StorageError} : g.routes.resolve? path = some d →
    (g.served d options.refresh options.patience).answer = .error e → e ≠ .cancelled →
    g.MountsBelow path → Contributes g path options []
  | ownerless : g.routes.resolve? path = none → g.MountsBelow path → Contributes g path options []

/-- An entry of the owner as a listing of the directory shows it: only a directory that leads to
mounts further down differs, in its size and its times. -/
structure ShownAs (g : Gateway) (dir : Path) (own shown : Entry) : Prop where
  widened : Listing.Widened own shown
  path : shown.path = dir.join own.name
  untouched : own.isDirectory = false ∨ g.routes.towards dir own.name = [] →
    shown = { own with path := dir.join own.name }

/-- A listing that shows no directory twice and accounts for every mount further down: the entries of
the owner in their order, and after them the directories for those ways that the owner does not know,
but for what is hidden. The usage of the mounts counts towards the directories that lead to them. -/
structure Folded (g : Gateway) (s : Standing) (own entries : List Entry) : Prop where
  parts : ∃ kept added,
    entries = (kept ++ added).filter (fun e => ¬ s.clearance.Hides s.rules s.path e.name) ∧
    List.Forall₂ (g.ShownAs s.path) own kept ∧
    (∀ e ∈ added, e.isDirectory = true ∧ e.path = s.path.join e.name) ∧
    (directoryNames added).Nodup ∧
    ∀ name, name ∈ directoryNames added ↔
      g.routes.towards s.path name ≠ [] ∧ name ∉ directoryNames own
  once : (directoryNames entries).Nodup
  size : ∀ e ∈ entries, e.isDirectory = true →
    e.size = ((own.find? fun o => o.isDirectory && o.name == e.name).map Entry.size).getD 0 +
      .sum ((g.routes.towards s.path e.name).map fun m => g.pool.usage m.backend)

variable {g : Gateway} {s : Standing} {path : Path} {options : ListingOptions} {own : List Entry}

/-- A directory is implied just if there is a mount for it. -/
theorem mountsBelow_iff {usage : BackendId → Size} :
    (!(g.routes.impliedDirectories usage path).isEmpty) = true ↔ g.MountsBelow path := by
  unfold MountsBelow
  rw [Bool.not_eq_true', List.isEmpty_eq_false_iff, ne_eq, Routes.implied_eq_nil_iff]
  simp

theorem Contributes.nodup (contributes : g.Contributes path options own) :
    (directoryNames own).Nodup := by
  cases contributes with
  | answered _ answer => exact Backend.nodup_list answer
  | failed _ _ _ _ => exact List.nodup_nil
  | ownerless _ _ => exact List.nodup_nil

/-- An entry as it is shown in a directory. -/
def shownIn (dir : Path) (e : Entry) : Entry := { e with path := dir.join e.name }

theorem directoryNames_map_shownIn (dir : Path) (es : List Entry) :
    directoryNames (es.map (shownIn dir)) = directoryNames es := by
  unfold directoryNames
  rw [List.filter_map, List.map_map]
  rfl

theorem shownAs_takeIn (g : Gateway) (dir : Path) (e : Entry) :
    g.ShownAs dir e
      (shownIn dir ((g.routes.impliedDirectories g.pool.usage dir).foldl Listing.takeIn e)) := by
  have widened := Listing.widened_foldl_takeIn (g.routes.impliedDirectories g.pool.usage dir) e
  refine ⟨⟨widened.name, widened.kind, widened.locator, widened.created, widened.modified⟩,
    congrArg dir.join widened.name, ?_⟩
  intro apart
  -- none of the directories that lead to mounts has the name of the entry, or it is a file
  have same : (g.routes.impliedDirectories g.pool.usage dir).foldl Listing.takeIn e = e := by
    apply Listing.foldl_takeIn_of_apart
    intro d among directory also named
    rcases apart with file | bare
    · rw [directory] at file
      contradiction
    · have leads := mem_directoryNames.mpr ⟨d, among, also, named.symm⟩
      rw [Routes.mem_directoryNames_implied] at leads
      exact leads bare
  rw [same]
  rfl

/-- What is merged from the entries of an owner and the directories that lead to mounts. -/
theorem folded_mergeEntries (g : Gateway) (s : Standing) (distinct : (directoryNames own).Nodup) :
    g.Folded s own (s.visibleEntries
      ((mergeEntries own (g.routes.impliedDirectories g.pool.usage s.path)).map
        (shownIn s.path))) := by
  let below := g.routes.impliedDirectories g.pool.usage s.path
  have apart : (directoryNames below).Nodup := g.routes.nodup_implied g.pool.usage s.path
  have merged := mergeEntries_eq distinct apart
  have names : (directoryNames ((mergeEntries own below).map (shownIn s.path))).Nodup := by
    rw [directoryNames_map_shownIn]
    exact nodup_mergeEntries distinct below
  refine ⟨⟨(own.map (below.foldl Listing.takeIn)).map (shownIn s.path),
    (below.filter (Listing.isNew (directoryNames own))).map (shownIn s.path), ?_, ?_, ?_, ?_, ?_⟩,
    ?_, ?_⟩
  · rw [s.visibleEntries_eq, merged, List.map_append]
  · rw [List.map_map, List.forall₂_map_right_iff, List.forall₂_same]
    intro e _
    exact g.shownAs_takeIn s.path e
  · intro e among
    obtain ⟨d, new, rfl⟩ := List.mem_map.mp among
    have directory : d.isDirectory = true := Routes.isDirectory_implied (List.mem_filter.mp new).1
    exact ⟨directory, rfl⟩
  · rw [directoryNames_map_shownIn]
    exact apart.sublist ((List.filter_sublist.filter _).map Entry.name)
  · intro name
    rw [directoryNames_map_shownIn, ← Routes.mem_directoryNames_implied, mem_directoryNames,
      mem_directoryNames]
    constructor
    · rintro ⟨d, new, directory, rfl⟩
      obtain ⟨among, unknown⟩ := List.mem_filter.mp new
      exact ⟨⟨d, among, directory, rfl⟩, by simpa [Listing.isNew, directory] using unknown⟩
    · rintro ⟨⟨d, among, directory, rfl⟩, unknown⟩
      exact ⟨d, List.mem_filter.mpr ⟨among, by simpa [Listing.isNew, directory] using unknown⟩,
        directory, rfl⟩
  · exact names.sublist (((s.visibleEntries_sublist _).filter _).map Entry.name)
  · intro e visible directory
    obtain ⟨d, among, rfl⟩ := List.mem_map.mp ((s.visibleEntries_sublist _).subset visible)
    calc
      d.size = directorySize (mergeEntries own below) d.name :=
        (directorySize_of_mem (nodup_mergeEntries distinct below) among directory).symm
      _ = directorySize own d.name + directorySize below d.name :=
        directorySize_mergeEntries distinct below d.name
      _ = _ := by
        rw [directorySize_eq distinct, Routes.directorySize_implied]
        rfl

end Gateway

namespace Serving

variable {g g₁ g₂ : Gateway} {u : User} {request : String} {s : Standing} {options : ListingOptions}
  {entries : List Entry}

/-- A user stands somewhere just where the request leads; to tell how changes at most what is kept of
the accounts. -/
theorem of_standing_ok (stands : standing u request g = .ok s g₁) :
    u.resolve request = .ok s.path ∧ ∃ accounts, g₁ = { g with accounts } := by
  obtain ⟨leads, -, accounts, -, left⟩ := of_standing stands
  exact ⟨leads, accounts, left⟩

/-- A backend is listed at the place to which a destination leads. -/
theorem storage_list_run (d : Destination) (refresh : Bool) (patience : Patience) (g : Gateway) :
    storage (Pool.list d.mount.backend d.place refresh patience) g =
      match (g.served d refresh patience).answer with
      | .ok entries => .ok entries (g.afterListing d refresh patience)
      | .error e => .error (.storage e) (g.afterListing d refresh patience) := by
  have run := Pool.serve_run d.mount.backend
    (fun b source => b.list source d.place refresh patience) g.pool
  unfold storage Pool.list Gateway.afterListing Gateway.served
  rw [run]
  cases ((g.pool.backend d.mount.backend).list g.pool.source d.place refresh patience).answer <;> rfl

theorem backendEntries_run (path : Path) (below refresh : Bool) (patience : Patience) (g : Gateway) :
    backendEntries path below refresh patience g =
      match g.routes.resolve? path with
      | none => if below then .ok [] g else .error (.storage (.notFound path.text)) g
      | some d =>
        match (g.served d refresh patience).answer with
        | .ok entries => .ok entries (g.afterListing d refresh patience)
        | .error e =>
          if below && e != .cancelled then .ok [] (g.afterListing d refresh patience)
          else .error (.storage e) (g.afterListing d refresh patience) := by
  have got : (get : Serving Gateway) g = .ok g g := rfl
  unfold backendEntries
  rw [bind_of_ok got]
  cases leads : g.routes.resolve? path with
  | none => cases below <;> rfl
  | some d =>
    dsimp only
    rw [tryCatch_run, storage_list_run]
    cases answered : (g.served d refresh patience).answer with
    | ok entries => rfl
    | error e =>
      have known : (GatewayError.storage e != .storage .cancelled) = (e != .cancelled) := by
        cases e <;> rfl
      dsimp only
      rw [known]
      cases below && e != .cancelled <;> rfl

/-- Whoever may enter, and may fetch anew if that is asked for, gets what the owner has there merged
with the directories that lead to mounts. -/
theorem list_run (stands : standing u request g = .ok s g₁) (options : ListingOptions) :
    list u request options g =
      if s.mayEnter options.password && (!options.refresh || s.allows .http .refresh) then
        let below := g.routes.impliedDirectories g.pool.usage s.path
        match backendEntries s.path (!below.isEmpty) options.refresh options.patience g₁ with
        | .ok own g₂ =>
          .ok (s.visibleEntries
            ((mergeEntries own below).map (Gateway.shownIn s.path))) g₂
        | .error e g₂ => .error e g₂
      else .error (.permissionDenied s.path) g₁ := by
  obtain ⟨-, accounts, rfl⟩ := of_standing_ok stands
  unfold list
  rw [bind_of_ok stands]
  cases enters : s.mayEnter options.password with
  | false =>
    rw [bind_of_error (require_run s false _)]
    rfl
  | true =>
    rw [bind_of_ok (require_run s true _)]
    cases fresh : !options.refresh || s.allows .http .refresh with
    | false =>
      rw [bind_of_error (require_run s false _)]
      rfl
    | true =>
      have got : (get : Serving Gateway) { g with accounts } = .ok { g with accounts } { g with accounts } :=
        rfl
      rw [bind_of_ok (require_run s true _), bind_of_ok got]
      dsimp only
      cases run : backendEntries s.path
          (!(g.routes.impliedDirectories g.pool.usage s.path).isEmpty) options.refresh options.patience
          { g with accounts } with
      | ok own g₂ => exact bind_of_ok run
      | error e g₂ => exact bind_of_error run

section Keeping

variable {P : Gateway → Prop} (accounts : ∀ {g : Gateway} a, P g → P { g with accounts := a })

include accounts

theorem keeps_account {α : Type} (x : Accounting α) : Keeps P (account x) := by
  intro g holds
  unfold after account
  cases x g.accounts <;> exact accounts _ holds

theorem keeps_standing (u : User) (request : String) : Keeps P (standing u request) := by
  unfold standing
  cases u.resolve request with
  | error e => exact .throw _
  | ok path =>
    refine (keeps_account accounts _).bind fun c => ?_
    exact Keeps.bind (fun g holds => holds) fun g => .pure _

/-- A listing keeps what does not depend on what is kept of the accounts, and what listing a backend
keeps. -/
theorem keeps_list
    (listing : ∀ {g : Gateway} d refresh patience, P g → P (g.afterListing d refresh patience))
    (u : User) (request : String) (options : ListingOptions) : Keeps P (list u request options) := by
  have required : ∀ s condition, Keeps P (require s condition) := by
    intro s condition g holds
    unfold after
    rw [require_run]
    cases condition <;> exact holds
  have backends : ∀ path below, Keeps P (backendEntries path below options.refresh options.patience) := by
    intro path below g holds
    unfold after
    rw [backendEntries_run]
    cases g.routes.resolve? path with
    | none => cases below <;> exact holds
    | some d =>
      dsimp only
      cases (g.served d options.refresh options.patience).answer with
      | ok entries => exact listing d _ _ holds
      | error e =>
        dsimp only
        cases below && e != .cancelled <;> exact listing d _ _ holds
  refine (keeps_standing accounts u request).bind fun s => ?_
  refine (required s _).bind fun _ => (required s _).bind fun _ => ?_
  refine Keeps.bind (fun g holds => holds) fun g => ?_
  exact (backends s.path _).bind fun own => .pure _

end Keeping

/-- What a listing starts from is told by the backend of the owner, which is left as it is then; or it is
nothing, for want of an owner that answers, and mounts lie beneath. -/
theorem of_backendEntries_ok {path : Path} {below refresh : Bool} {patience : Patience}
    {own : List Entry} (run : backendEntries path below refresh patience g = .ok own g₂) :
    (∃ d, g.routes.resolve? path = some d ∧ (g.served d refresh patience).answer = .ok own ∧
        g₂ = g.afterListing d refresh patience) ∨
      own = [] ∧ below = true ∧ ∀ d, g.routes.resolve? path = some d →
        ∃ e, (g.served d refresh patience).answer = .error e ∧ e ≠ .cancelled := by
  rw [backendEntries_run] at run
  cases leads : g.routes.resolve? path with
  | none =>
    simp only [leads] at run
    split at run
    · next more =>
      cases run
      exact .inr ⟨rfl, more, nofun⟩
    · contradiction
  | some d =>
    simp only [leads] at run
    cases answer : (g.served d refresh patience).answer with
    | ok entries =>
      simp only [answer] at run
      cases run
      exact .inl ⟨d, rfl, answer, rfl⟩
    | error e =>
      simp only [answer] at run
      split at run
      · next absorbed =>
        cases run
        rw [Bool.and_eq_true, bne_iff_ne] at absorbed
        refine .inr ⟨rfl, absorbed.1, ?_⟩
        rintro _ ⟨⟩
        exact ⟨e, answer, absorbed.2⟩
      · contradiction

/-- What a listing starts from is what the owner contributes. -/
theorem contributes_of_ok {path : Path} {below : Bool} {accounts : Accounts} {own : List Entry}
    (run : backendEntries path below options.refresh options.patience { g with accounts } =
      .ok own g₂) (mounts : below = true → g.MountsBelow path) : g.Contributes path options own := by
  rcases of_backendEntries_ok run with ⟨d, leads, answer, -⟩ | ⟨rfl, more, unanswered⟩
  · exact .answered leads answer
  · cases leads : g.routes.resolve? path with
    | none => exact .ownerless leads (mounts more)
    | some d =>
      obtain ⟨e, answer, other⟩ := unanswered d leads
      exact .failed leads answer other (mounts more)

/-- What is listed starts from the entries of the owner and is merged with the directories that lead to
mounts, but for what is hidden; the gateway is left as the backend of the owner leaves it. -/
theorem backendEntries_of_list_ok (listed : list u request options g = .ok entries g₂) :
    ∃ s accounts own, standing u request g = .ok s { g with accounts } ∧
      backendEntries s.path (!(g.routes.impliedDirectories g.pool.usage s.path).isEmpty)
        options.refresh options.patience { g with accounts } = .ok own g₂ ∧
      entries = s.visibleEntries
        ((mergeEntries own (g.routes.impliedDirectories g.pool.usage s.path)).map
          (Gateway.shownIn s.path)) := by
  have started := listed
  unfold list at started
  obtain ⟨s, g₁, stands, -⟩ := of_bind_ok started
  obtain ⟨-, accounts, rfl⟩ := of_standing_ok stands
  rw [list_run stands] at listed
  split at listed
  · cases run : backendEntries s.path
        (!(g.routes.impliedDirectories g.pool.usage s.path).isEmpty) options.refresh options.patience
        { g with accounts } with
    | error e g₃ =>
      simp only [run] at listed
      contradiction
    | ok own g₃ =>
      simp only [run] at listed
      cases listed
      exact ⟨s, accounts, own, stands, run, rfl⟩
  · contradiction

/-- What is listed is what the owner contributes, merged with the directories that lead to mounts, but
for what is hidden. -/
theorem of_list_ok (listed : list u request options g = .ok entries g₂) :
    ∃ s g₁ own, standing u request g = .ok s g₁ ∧ g.Contributes s.path options own ∧
      entries = s.visibleEntries
        ((mergeEntries own (g.routes.impliedDirectories g.pool.usage s.path)).map
          (Gateway.shownIn s.path)) := by
  obtain ⟨s, accounts, own, stands, run, rfl⟩ := backendEntries_of_list_ok listed
  exact ⟨s, _, own, stands, contributes_of_ok run Gateway.mountsBelow_iff.mp, rfl⟩

/-- A listing shows no directory twice and accounts for every mount further down. -/
theorem list_folded (listed : list u request options g = .ok entries g₂) :
    ∃ s g₁ own, standing u request g = .ok s g₁ ∧ g.Contributes s.path options own ∧
      g.Folded s own entries := by
  obtain ⟨s, g₁, own, stands, contributes, rfl⟩ := of_list_ok listed
  exact ⟨s, g₁, own, stands, contributes, g.folded_mergeEntries s contributes.nodup⟩

/-- A tree with one file. -/
def fileAt (path : String) (bytes : Nat) : Backend :=
  .memory (after (MemoryTree.putFile (.ofText path) (.ofNat bytes) none 0) (.new 0))

/-- A gateway with a tree at the root that holds the directory `x`, with a mount beneath `x` and two
mounts beneath `y`. -/
def tieredMounts : Gateway :=
  ((((Gateway.new .default (after
    (AccountStore.putRole ⟨⟨0⟩, "readers", "", [⟨"/", .none⟩]⟩) (.records .empty)) default).mount
      .root (fileAt "/x/f" 5) 0).mount (.ofText "/x/more") (fileAt "/g" 7) 0).mount
        (.ofText "/y/a") (fileAt "/g" 1) 0).mount (.ofText "/y/b/c") (fileAt "/g" 2) 0

theorem list_folded_tieredMounts : ∃ entries g₂,
    list reader "/" .default tieredMounts = .ok entries g₂ ∧
      entries.map (fun e => (e.name, e.size)) = [("x", .ofNat 12), ("y", .ofNat 3)] ∧
      ∃ s g₁ own, standing reader "/" tieredMounts = .ok s g₁ ∧
        tieredMounts.Contributes s.path .default own ∧ tieredMounts.Folded s own entries := by
  have shown : (EStateM.run' (list reader "/" .default) tieredMounts).map
      (List.map fun e => (e.name, e.size)) = some [("x", .ofNat 12), ("y", .ofNat 3)] := by
    decide +kernel
  unfold EStateM.run' EStateM.run at shown
  cases listed : list reader "/" .default tieredMounts with
  | error e g₂ =>
    rw [listed] at shown
    contradiction
  | ok entries g₂ =>
    rw [listed] at shown
    exact ⟨entries, g₂, rfl, Option.some.inj shown, list_folded listed⟩

end Serving

end StorageGateway
