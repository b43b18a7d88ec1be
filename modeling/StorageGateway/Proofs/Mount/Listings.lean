import StorageGateway.Mount.Pool
import StorageGateway.Proofs.Listing.Replies
import StorageGateway.Proofs.Release.InTime
import StorageGateway.Proofs.Storage.Changes

/-!
# What backends list

No backend lists a directory twice, be it a tree or gathered from many repositories. To list a backend
changes at most what the backend has fetched; trees stay as they are. Main statements:
`Backend.nodup_list` and `Pool.list_run`.
-/

namespace StorageGateway

namespace Backend

variable {b : Backend} {t : MemoryTree} {source : Source} {dir : Path} {refresh : Bool}
  {patience : Patience} {entries : List Entry}

theorem nodup_list (answered : (b.list source dir refresh patience).answer = .ok entries) :
    (directoryNames entries).Nodup := by
  unfold list at answered
  cases spent : patience.isSpent with
  | true =>
    rw [if_pos spent] at answered
    contradiction
  | false =>
    rw [if_neg (by simp [spent])] at answered
    cases b with
    | memory tree =>
      have names := MemoryTree.nodup_list answered
      exact names.sublist (List.filter_sublist.map Entry.name)
    | releases storage => exact PointKind.nodup_gather _ answered

/-- A listing leaves trees as they are, and makes none. -/
theorem memory_list : (b.list source dir refresh patience).backend = memory t ↔ b = memory t := by
  unfold list
  cases patience.isSpent with
  | true => rfl
  | false =>
    cases b with
    | memory tree => rfl
    | releases storage => simp

/-- A tree lists a directory, unless the caller has given up. -/
theorem list_of_answer_memory
    (answered : ((memory t).list source dir refresh patience).answer = .ok entries) :
    t.list dir = .ok entries := by
  unfold list at answered
  split at answered
  · contradiction
  · exact answered

/-- For a caller who waits for ever, a listing fails only if there is no directory in a tree or if
sources do not answer. -/
theorem list_unlimited {e : StorageError}
    (failed : (b.list source dir refresh .unlimited).answer = .error e) :
    (∃ t, b = memory t ∧ ¬ t.IsDirectory dir ∧ e ≠ .cancelled) ∨
      ∃ reason, e = .unavailable reason := by
  cases b with
  | memory t =>
    obtain ⟨nothing, other⟩ := MemoryTree.of_list_error failed
    exact .inl ⟨t, rfl, nothing, other⟩
  | releases storage => exact .inr (Releases.list_unlimited failed)

end Backend

namespace Pool

variable {pool : Pool} {id other : BackendId} {α : Type}

/-- The pool after a request to one of its backends was served. -/
def afterServing (pool : Pool) (id : BackendId) (served : Served α) : Pool :=
  { pool with
    backends := pool.backends.insert id served.backend
    calls := pool.calls + served.calls }

theorem serve_run (id : BackendId) (request : Backend → Source → Served α) (pool : Pool) :
    serve id request pool =
      match (request (pool.backend id) pool.source).answer with
      | .ok a => .ok a (pool.afterServing id (request (pool.backend id) pool.source))
      | .error e => .error e (pool.afterServing id (request (pool.backend id) pool.source)) := by
  cases answered : (request (pool.backend id) pool.source).answer with
  | ok a => simp only [serve, answered, afterServing]
  | error e => simp only [serve, answered, afterServing]

theorem backend_afterServing (pool : Pool) (id other : BackendId) (served : Served α) :
    (pool.afterServing id served).backend other =
      if other = id then served.backend else pool.backend other := by
  unfold backend afterServing
  rw [Dict.find?_insert]
  split <;> rfl

end Pool

end StorageGateway
