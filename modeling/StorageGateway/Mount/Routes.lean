import StorageGateway.Listing.Basic
import StorageGateway.Mount.Pool

/-!
# Routes to backends

`Routes` say which backend is mounted where. A path belongs to the mount that is nearest to it on
the way up. Routes are a value: whoever holds them goes on seeing the mounts that they had.
-/

namespace StorageGateway

/-- A backend at a path. -/
structure Mount where
  path : Path
  backend : BackendId
  /-- When the backend was mounted. -/
  created : Time
  /-- When it last got a path. -/
  modified : Time
deriving DecidableEq

/-- The mounts by their paths. -/
structure Routes where
  mounts : Dict Path Mount
deriving DecidableEq

/-- Where a path leads: to a mount, and to a path within its backend. -/
structure Destination where
  mount : Mount
  place : Path
deriving DecidableEq

namespace Routes

/-- No mounts. -/
def empty : Routes := ⟨Dict.empty⟩

instance : Inhabited Routes := ⟨empty⟩

/-- The mounts, in the order of their paths. -/
def toList (r : Routes) : List Mount := r.mounts.values

/-- The mount at a path itself. -/
def get? (r : Routes) (p : Path) : Option Mount := r.mounts.find? p

/-! ## Changes -/

/-- Mount a backend, in the stead of the one that was mounted there. -/
def mount (r : Routes) (p : Path) (backend : BackendId) (now : Time) : Routes :=
  ⟨r.mounts.insert p { path := p, backend, created := now, modified := now }⟩

/-- The routes without the mount at a path. -/
def unmount (r : Routes) (p : Path) : Routes := ⟨r.mounts.erase p⟩

/-- Move a mount to a path that is free. -/
def rename (r : Routes) (old new : Path) (now : Time) : Except StorageError Routes :=
  if r.mounts.contains new then .error (.alreadyExists new.text)
  else
    match r.get? old with
    | none => .error (.noMountPoint old.text)
    | some m => .ok ⟨(r.mounts.erase old).insert new { m with path := new, modified := now }⟩

/-! ## Routing -/

/-- Where a path leads, if there is a mount at it or above it. -/
def resolve? (r : Routes) (p : Path) : Option Destination :=
  (p.ancestors.findSome? r.get?).map fun m => { mount := m, place := p.within m.path }

/-- The directory that stands for a mount further down in a listing of `dir`. -/
def impliedDirectory? (usage : BackendId → Size) (dir : Path) (m : Mount) : Option Entry :=
  if dir.strictlyCovers m.path then
    (m.path.firstBelow? dir).map fun segment =>
      .directory dir segment (usage m.backend) m.created m.modified
  else none

/-- The directories in `dir` that lead to mounts further down. Mounts that share the next segment
share a directory. -/
def impliedDirectories (r : Routes) (usage : BackendId → Size) (dir : Path) : List Entry :=
  (Listing.empty.extend (r.toList.filterMap (impliedDirectory? usage dir))).entries

/-- Whether there is a mount at the path or beneath it. -/
def leadsToMount (r : Routes) (p : Path) : Bool :=
  r.mounts.contains p || r.toList.any fun m => p.strictlyCovers m.path

end Routes

end StorageGateway
