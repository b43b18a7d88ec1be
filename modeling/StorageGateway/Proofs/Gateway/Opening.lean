import StorageGateway.Proofs.Gateway.Listings
import StorageGateway.Proofs.Mount.Pools

/-!
# Listed directories can be opened

A directory that a listing shows is there for the next one: it is a directory of the owner, or it leads
to mounts, or both. What it is opened by can be another mount than the one that was listed. Main
statement: `listed_directory_opens`.
-/

namespace StorageGateway

namespace Gateway

variable {g h : Gateway} {p : Path} {n : String} {options : ListingOptions} {own : List Entry}

/-- Routes and trees are the same. -/
structure SameTrees (g h : Gateway) : Prop where
  routes : h.routes = g.routes
  tree : ∀ id t, h.pool.backend id = .memory t ↔ g.pool.backend id = .memory t

/-- There is a directory at a path: mounts lie beneath it, or the owner has one there, as far as a tree
can tell. -/
inductive HasDirectory (g : Gateway) (p : Path) : Prop
  | below (mounts : g.MountsBelow p)
  | owned {d : Destination} (leads : g.routes.resolve? p = some d)
    (present : ∀ t, g.pool.backend d.mount.backend = .memory t → t.IsDirectory d.place)

theorem HasDirectory.of_sameTrees (directory : g.HasDirectory p) (same : g.SameTrees h) :
    h.HasDirectory p := by
  cases directory with
  | below mounts =>
    refine .below ?_
    unfold MountsBelow
    rw [same.routes]
    exact mounts
  | owned leads present =>
    refine .owned (same.routes ▸ leads) fun t holds => ?_
    exact present t ((same.tree _ t).mp holds)

/-- There is a directory wherever a listing shows one. -/
theorem hasDirectory_of_listed (routes : g.routes.Built) (pool : g.pool.Built)
    (contributes : g.Contributes p options own) (segment : IsSegment n)
    (shown : n ∈ directoryNames own ∨ g.routes.towards p n ≠ []) : g.HasDirectory (p.join n) := by
  cases mounted : g.routes.get? (p.join n) with
  | some m => exact .owned (Routes.resolve?_of_get? routes mounted) fun t holds => pool.root holds
  | none =>
    rcases shown with listed | towards
    · cases contributes with
      | @answered d own found answer =>
        refine .owned (Routes.resolve?_join routes segment found mounted) fun t holds => ?_
        obtain ⟨e, among, directory, rfl⟩ := mem_directoryNames.mp listed
        unfold served at answer
        rw [holds] at answer
        exact MemoryTree.isDirectory_of_listed (Backend.list_of_answer_memory answer) among directory
          (d.place.isChild_join segment)
      | failed _ _ _ _ => contradiction
      | ownerless _ _ => contradiction
    · exact .below (Routes.exists_below_of_towards routes segment mounted towards)

end Gateway

namespace Serving

/-- A directory is opened: it is listed, unless the user may not enter it or a source does not
answer. -/
inductive Opened : EStateM.Result GatewayError Gateway (List Entry) → Prop
  | listed (entries : List Entry) (g : Gateway) : Opened (.ok entries g)
  | denied (p : Path) (g : Gateway) : Opened (.error (.permissionDenied p) g)
  | unavailable (reason : String) (g : Gateway) : Opened (.error (.storage (.unavailable reason)) g)

variable {g g₁ h : Gateway} {u : User} {d request : String} {s : Standing} {options : ListingOptions}
  {entries : List Entry} {e : Entry}

/-- A listing changes neither the routes nor any tree. -/
theorem sameTrees_of_list_ok (listed : list u d options g = .ok entries h) : g.SameTrees h := by
  have kept : Keeps g.SameTrees (list u d options) := by
    refine keeps_list (fun _ same => ⟨same.routes, same.tree⟩) ?_ u d options
    intro k destination refresh patience same
    refine ⟨same.routes, fun id t => ?_⟩
    exact Pool.memory_afterListing.trans (same.tree id t)
  exact kept.of_ok ⟨rfl, fun _ _ => Iff.rfl⟩ listed

/-- Where there is a directory, it is opened. -/
theorem opened_of_hasDirectory (stands : standing u request g = .ok s g₁)
    (directory : g.HasDirectory s.path) : Opened (list u request .default g) := by
  obtain ⟨-, accounts, rfl⟩ := of_standing_ok stands
  rw [list_run stands]
  split
  · -- the owner answers, or it fails and the mounts beneath make up for it
    have same : ∀ d refresh patience, ({ g with accounts } : Gateway).served d refresh patience =
      g.served d refresh patience := fun _ _ _ => rfl
    simp only [backendEntries_run, ListingOptions.default, same]
    cases leads : g.routes.resolve? s.path with
    | none =>
      cases directory with
      | below mounts =>
        rw [if_pos (Gateway.mountsBelow_iff.mpr mounts)]
        exact .listed _ _
      | owned found _ =>
        rw [leads] at found
        contradiction
    | some d =>
      dsimp only
      cases answer : (g.served d false .unlimited).answer with
      | ok own => exact .listed _ _
      | error e =>
        dsimp only
        rcases Backend.list_unlimited answer with ⟨t, holds, nothing, other⟩ | ⟨reason, rfl⟩
        · cases directory with
          | below mounts =>
            rw [if_pos (by simp [Gateway.mountsBelow_iff.mpr mounts, other])]
            exact .listed _ _
          | owned found present =>
            rw [leads] at found
            cases found
            exact absurd (present t holds) nothing
        · cases !(g.routes.impliedDirectories g.pool.usage s.path).isEmpty with
          | true => exact .listed _ _
          | false => exact .unavailable _ _
  · exact .denied _ _

/-- A directory that a listing shows can be opened right after. -/
theorem listed_directory_opens (routes : g.routes.Built) (pool : g.pool.Built)
    (listed : list u d options g = .ok entries h) (among : e ∈ entries)
    (directory : e.isDirectory = true) (segment : IsSegment e.name) :
    Opened (list u (d ++ "/" ++ e.name) .default h) := by
  have same := sameTrees_of_list_ok listed
  obtain ⟨s, g₁, own, stands, contributes, rfl⟩ := of_list_ok listed
  obtain ⟨x, merged, shown⟩ := List.mem_map.mp ((s.visibleEntries_sublist _).subset among)
  have named : e.name ∈ directoryNames own ∨ g.routes.towards s.path e.name ≠ [] := by
    rw [← Routes.mem_directoryNames_implied,
      ← mem_directoryNames_mergeEntries contributes.nodup, mem_directoryNames]
    rw [← shown] at directory ⊢
    exact ⟨x, merged, directory, rfl⟩
  have there := (Gateway.hasDirectory_of_listed routes pool contributes segment named).of_sameTrees same
  have leads := resolve_below u d segment (of_standing_ok stands).1
  have told := standing_run h u (d ++ "/" ++ e.name)
  rw [leads] at told
  obtain ⟨c, accounts, -, run⟩ := told
  exact opened_of_hasDirectory run there

/-- The request that puts a file into the directory `x`. -/
def fileInX : TreeRequest := .putFile "/x/f" (.ofNat 5) none 0

/-- A gateway with a tree at the root that holds the directory `x`, and with repositories mounted
beneath `x`. -/
def mixedMounts : Gateway :=
  let g := ((Gateway.new .default (after
    (AccountStore.putRole ⟨⟨0⟩, "readers", "", [⟨"/", .none⟩]⟩) (.records .empty)) default).mount
      .root (DriverSettings.memory.backend 0) 0).mount (.ofText "/x/gh")
        (DriverSettings.backend 0 (.releases { ReleasesSettings.default with repoStructure := "o/r" })) 0
  { g with pool := after (Pool.serve ⟨0⟩ fun b _ => b.change "add_file" fileInX.run) g.pool }

theorem listed_directory_opens_mixedMounts : ∃ entries h e,
    mixedMounts.routes.Built ∧ mixedMounts.pool.Built ∧
      list reader "/" .default mixedMounts = .ok entries h ∧ e ∈ entries ∧ e.isDirectory = true ∧
      IsSegment e.name ∧ e.name = "x" ∧ Opened (list reader ("/" ++ "/" ++ e.name) .default h) := by
  have routes : mixedMounts.routes.Built := .mount _ _ _ (.mount _ _ _ .empty)
  have pool : mixedMounts.pool.Built :=
    .change ⟨0⟩ "add_file" fileInX (.add _ 0 (.add .memory 0 (.new default)))
  have shown : (EStateM.run' (list reader "/" .default) mixedMounts).map
      (List.map fun e => (e.name, e.isDirectory)) = some [("x", true)] := by
    decide +kernel
  unfold EStateM.run' EStateM.run at shown
  cases listed : list reader "/" .default mixedMounts with
  | error e h =>
    rw [listed] at shown
    contradiction
  | ok entries h =>
    rw [listed, Option.map_some, Option.some_inj] at shown
    obtain ⟨e, rest, rfl, here, -⟩ := List.map_eq_cons_iff.mp shown
    obtain ⟨name, directory⟩ := Prod.mk.inj here
    have segment : IsSegment e.name := name ▸ by decide
    exact ⟨_, h, e, routes, pool, rfl, List.mem_cons_self, directory, segment, name,
      listed_directory_opens routes pool listed List.mem_cons_self directory segment⟩

end Serving

end StorageGateway
