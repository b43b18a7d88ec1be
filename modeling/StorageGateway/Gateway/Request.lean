import StorageGateway.Gateway.Basic

/-!
# What users ask for

A user names a path below their base path. Whether they may reach it is decided first, from their
roles and from the meta that governs the path, before any mount is looked at. A listing shows what
the backend of the path has there, and a directory for every mount further down.
-/

namespace StorageGateway

/-- How a listing is asked for. -/
structure ListingOptions where
  /-- Fetch anew what storages keep of their sources. -/
  refresh : Bool
  /-- The password for a guarded path. -/
  password : String
  patience : Patience
deriving DecidableEq, Repr

/-- No refresh, no password, and no hurry. -/
def ListingOptions.default : ListingOptions := ⟨false, "", .unlimited⟩

/-- What a request is decided by: the path that the user asks for, what their roles grant, and the
rules of the meta that governs the path. -/
structure Standing where
  path : Path
  clearance : Clearance
  rules : Option DirectoryRules

namespace Standing

/-- Whether the path can be reached with a password. -/
def mayEnter (s : Standing) (password : String) : Bool :=
  s.clearance.mayEnter s.rules s.path password

/-- Whether an operation is allowed at the path. -/
def allows (s : Standing) (protocol : Protocol) (op : Operation) : Bool :=
  s.clearance.allows s.rules s.path protocol op

/-- The entries of a listing of the path that the user gets to see. -/
def visibleEntries (s : Standing) (entries : List Entry) : List Entry :=
  s.clearance.visibleEntries s.rules s.path entries

end Standing

namespace Serving

/-- How a user stands to a request. -/
def standing (u : User) (request : String) : Serving Standing := do
  match u.resolve request with
  | .error e => throw (.path e)
  | .ok path =>
    let clearance ← account (.clearance u)
    return { path, clearance, rules := (← get).metas.nearest? path }

/-- Deny a request unless a condition holds. -/
def require (s : Standing) (condition : Bool) : Serving Unit :=
  if condition then return else throw (.permissionDenied s.path)

/-- Whether a user may do something at a path. -/
def allows (u : User) (request : String) (protocol : Protocol) (op : Operation) :
    Serving Bool := do
  return (← standing u request).allows protocol op

/-- What the backend of a path has there. If it fails, or if there is none, mounts further down
still make the path a directory. -/
def backendEntries (path : Path) (hasMountsBelow : Bool) (refresh : Bool) (patience : Patience) :
    Serving (List Entry) := do
  match (← get).routes.resolve? path with
  | some ⟨mount, place⟩ =>
    tryCatch (storage (Pool.list mount.backend place refresh patience)) fun e =>
      if hasMountsBelow && e != .storage .cancelled then return [] else throw e
  | none => if hasMountsBelow then return [] else throw (.storage (.notFound path.text))

/-- List a directory. -/
def list (u : User) (request : String) (options : ListingOptions) : Serving (List Entry) := do
  let s ← standing u request
  require s (s.mayEnter options.password)
  require s (!options.refresh || s.allows .http .refresh)
  let g ← get
  let below := g.routes.impliedDirectories g.pool.usage s.path
  let own ← backendEntries s.path (!below.isEmpty) options.refresh options.patience
  let shown := (mergeEntries own below).map fun e => { e with path := s.path.join e.name }
  return s.visibleEntries shown

/-- Where the file at a path can be downloaded. -/
def link (u : User) (request : String) (password : String) : Serving Link := do
  let s ← standing u request
  require s (s.mayEnter password)
  match (← get).routes.resolve? s.path with
  | none => throw (.storage (.notFound s.path.text))
  | some ⟨mount, place⟩ =>
    if place = .root then throw (.storage (.invalidPath s.path.text))
    let entries ← storage (Pool.list mount.backend place.parent false .unlimited)
    match entries.find? fun e => e.name == place.lastSegment && !e.isDirectory with
    | none => throw (.storage (.notFound s.path.text))
    | some e => storage (Pool.link mount.backend e)

/-- What the roles of a user grant at a path. -/
def effective (u : User) (path : Path) : Serving PermissionSet := do
  return (← account (.clearance u)).effective path

/-- List the root of every mount, so that its size is known from then on; answers with the number
of entries of each. -/
def warm : Serving (List (Path × Except StorageError Nat)) := do
  (← get).routes.toList.mapM fun m => do
    let outcome ← storage (Pool.attempt (Pool.list m.backend .root false .unlimited))
    return (m.path, outcome.map List.length)

end Serving

end StorageGateway
