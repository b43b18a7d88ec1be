import StorageGateway.Mount.Routes

/-!
# The table of mounts

A table is changed by requests, which name paths in any way. A change puts other routes in the
stead of the current ones and leaves those as they are, for whoever holds a snapshot still looks
at them: a snapshot refers to a version of the table.
-/

namespace StorageGateway

/-- Mounts that change over time. -/
structure MountTable where
  current : Routes
  /-- What the routes were before each of the changes so far. -/
  former : List Routes

/-- A version of a table, by the number of changes before it. -/
structure MountSnapshot where
  version : Nat

namespace MountTable

/-- The table without mounts. -/
def new : MountTable := ⟨.empty, []⟩

instance : Inhabited MountTable := ⟨new⟩

/-- The versions of a table, from the first to the current one. -/
def versions (t : MountTable) : List Routes := t.former ++ [t.current]

/-- Put other routes in the stead of the current ones. -/
def update (t : MountTable) (routes : Routes) : MountTable := ⟨routes, t.versions⟩

/-! ## Requests -/

/-- A request to a table. -/
abbrev Request := EStateM StorageError MountTable

/-- Mount a backend, in the stead of the one that was mounted there. -/
def mount (path : String) (backend : BackendId) (now : Time) : Request Unit :=
  modify fun t => t.update (t.current.mount (.ofText path) backend now)

/-- Remove the mount at a path; answers whether there was one. -/
def unmount (path : String) : Request Bool := do
  let t ← get
  set (t.update (t.current.unmount (.ofText path)))
  return (t.current.get? (.ofText path)).isSome

/-- Move a mount to a path that is free. A request that is refused makes a version as well. -/
def rename (old new : String) (now : Time) : Request Unit := do
  let t ← get
  match t.current.rename (.ofText old) (.ofText new) now with
  | .ok routes => set (t.update routes)
  | .error e => do
    set (t.update t.current)
    throw e

/-- Remove every mount. -/
def clear : Request Unit := modify fun t => t.update .empty

/-! ## Snapshots -/

/-- The version that is current. -/
def snapshot (t : MountTable) : MountSnapshot := ⟨t.former.length⟩

/-- The routes that a snapshot refers to; none for a version that is still to come. -/
def shown (t : MountTable) (s : MountSnapshot) : Routes := t.versions.getD s.version .empty

/-- Where a path leads. -/
def resolve? (t : MountTable) (s : MountSnapshot) (path : String) : Option Destination :=
  (t.shown s).resolve? (.ofText path)

/-- The directories at a path that lead to mounts further down. -/
def impliedDirectories (t : MountTable) (s : MountSnapshot) (usage : BackendId → Size)
    (path : String) : List Entry :=
  (t.shown s).impliedDirectories usage (.ofText path)

/-- Whether there is a mount at a path or beneath it. -/
def leadsToMount (t : MountTable) (s : MountSnapshot) (path : String) : Bool :=
  (t.shown s).leadsToMount (.ofText path)

end MountTable

end StorageGateway
