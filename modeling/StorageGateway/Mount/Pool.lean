import StorageGateway.Mount.Backend

/-!
# The pool of backends

Backends are known by handles, so that a backend stays the same one when its mount moves and when
several routes refer to it. The backends of a pool share one source of releases, and the
pool counts the calls that go there. A handle that was never given out stands for an empty tree.
-/

namespace StorageGateway

/-- The handle of a backend. -/
structure BackendId where
  val : Nat
deriving DecidableEq, Repr

instance : KeyOrder BackendId := KeyOrder.along BackendId.val fun {a b} h => by
  cases a; cases b; cases h; rfl

/-- Backends by their handles, with the source they share. -/
structure Pool where
  backends : Dict BackendId Backend
  /-- The handle for the next backend. -/
  next : Nat
  source : Source
  /-- How many calls went to the source. -/
  calls : Nat

namespace Pool

/-- The pool without backends. -/
def new (source : Source) : Pool := ⟨Dict.empty, 0, source, 0⟩

instance : Inhabited Pool := ⟨new default⟩

/-- The backend of a handle. -/
def backend (pool : Pool) (id : BackendId) : Backend :=
  (pool.backends.find? id).getD (.memory default)

/-- The bytes known to be stored behind a handle. -/
def usage (pool : Pool) (id : BackendId) : Size := (pool.backend id).usage

/-- The pool with one more backend, and its handle. -/
def add (pool : Pool) (b : Backend) : BackendId × Pool :=
  (⟨pool.next⟩,
    { pool with backends := pool.backends.insert ⟨pool.next⟩ b, next := pool.next + 1 })

/-- A request to a pool. -/
abbrev Request := EStateM StorageError Pool

/-- Serve a request by the backend of a handle. -/
def serve {α : Type} (id : BackendId) (request : Backend → Source → Served α) : Request α :=
  fun pool =>
    let served := request (pool.backend id) pool.source
    let pool := { pool with
      backends := pool.backends.insert id served.backend
      calls := pool.calls + served.calls }
    match served.answer with
    | .ok a => .ok a pool
    | .error e => .error e pool

/-- List a directory of a backend. -/
def list (id : BackendId) (dir : Path) (refresh : Bool) (patience : Patience) :
    Request (List Entry) :=
  serve id fun b source => b.list source dir refresh patience

/-- Where a file that a backend listed can be downloaded. -/
def link (id : BackendId) (e : Entry) : Request Link := do
  MonadExcept.ofExcept (((← get).backend id).link e)

/-- A request that always answers: with what went wrong, if anything did. -/
def attempt {α : Type} (request : Request α) : Request (Except StorageError α) :=
  tryCatch (Except.ok <$> request) fun e => return .error e

end Pool

end StorageGateway
