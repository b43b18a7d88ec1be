import StorageGateway.Gateway.Basic
import StorageGateway.Proofs.Mount.Listings
import StorageGateway.Proofs.Storage.Rooted

/-!
# Trees in a pool

A pool starts out empty; backends are added to it that hold nothing yet, and are then changed and
listed in any order. The root of every tree in it remains a directory throughout. Main statement:
`Pool.Built.root`.
-/

namespace StorageGateway

namespace Backend

variable {b : Backend} {t : MemoryTree} {α : Type}

/-- A tree that there is after a change has come about by this change from the tree before. -/
theorem memory_change {operation : String} {c : MemoryTree.Change α} :
    (b.change operation c).backend = memory t ↔ ∃ s, b = memory s ∧ after c s = t := by
  cases b with
  | memory s =>
    unfold change after
    cases run : c s <;> simp [run]
  | releases storage => simp [change]

end Backend

namespace Pool

variable {pool : Pool} {id : BackendId} {t : MemoryTree}

/-- The pools that come about by adding backends, changing and listing them, while the source goes on
as it likes. -/
inductive Built : Pool → Prop
  | new (source : Source) : Built (.new source)
  | add {pool : Pool} (driver : DriverSettings) (now : Time) : Built pool →
    Built (pool.add (driver.backend now)).2
  | change {pool : Pool} (id : BackendId) (operation : String) (request : TreeRequest) :
    Built pool → Built (after (serve id fun b _ => b.change operation request.run) pool)
  | list {pool : Pool} (id : BackendId) (dir : Path) (refresh : Bool) (patience : Patience) :
    Built pool → Built (after (Pool.list id dir refresh patience) pool)
  | source {pool : Pool} (source : Source) : Built pool → Built { pool with source }

theorem backend_add (pool : Pool) (b : Backend) (id : BackendId) :
    (pool.add b).2.backend id = if id = ⟨pool.next⟩ then b else pool.backend id := by
  unfold add backend
  rw [Dict.find?_insert]
  split <;> rfl

theorem after_serve {α : Type} (id : BackendId) (request : Backend → Source → Served α)
    (pool : Pool) :
    after (serve id request) pool = pool.afterServing id (request (pool.backend id) pool.source) := by
  unfold after
  rw [serve_run]
  cases (request (pool.backend id) pool.source).answer <;> rfl

/-- A listing leaves every tree of a pool as it is. -/
theorem memory_afterListing {other : BackendId} {source : Source} {dir : Path} {refresh : Bool}
    {patience : Patience} :
    (pool.afterServing id ((pool.backend id).list source dir refresh patience)).backend other =
        .memory t ↔ pool.backend other = .memory t := by
  rw [backend_afterServing]
  by_cases here : other = id
  · rw [if_pos here, here]
    exact Backend.memory_list
  · rw [if_neg here]

/-- The root of every tree is a directory. -/
theorem Built.root (built : pool.Built) (holds : pool.backend id = .memory t) :
    t.IsDirectory .root := by
  induction built generalizing id t with
  | new source =>
    cases holds
    exact (MemoryTree.rooted_new 0).root
  | @add pool driver now _ ih =>
    rw [backend_add] at holds
    split at holds
    · cases driver with
      | memory =>
        cases holds
        exact (MemoryTree.rooted_new now).root
      | releases settings => contradiction
    · exact ih holds
  | @change pool changed operation request _ ih =>
    rw [after_serve, backend_afterServing] at holds
    by_cases here : id = changed
    · rw [if_pos here, Backend.memory_change] at holds
      obtain ⟨s, before, rfl⟩ := holds
      exact TreeRequest.keeps_root request s (ih before)
    · rw [if_neg here] at holds
      exact ih holds
  | @list pool listed dir refresh patience _ ih =>
    unfold Pool.list at holds
    rw [after_serve, memory_afterListing] at holds
    exact ih holds
  | @source pool source _ ih => exact ih holds

end Pool

end StorageGateway
