import StorageGateway.Release.Storage
import StorageGateway.Storage.Tree

/-!
# Backends

A `Backend` serves what is mounted: a tree in memory, or a storage of releases. Paths are those
within the backend. A caller who has given up gets no listing. A storage of releases cannot be
changed.
-/

namespace StorageGateway

/-- What serves a mount. -/
inductive Backend where
  | memory (tree : MemoryTree)
  | releases (storage : Releases)

/-- What a request to a backend comes to: the answer, the backend afterwards, and the number of
calls that went to the source. -/
structure Served (α : Type) where
  answer : Except StorageError α
  backend : Backend
  calls : Nat

/-- The same request with another answer. -/
def Served.map {α β : Type} (f : α → β) (s : Served α) : Served β :=
  { answer := s.answer.map f, backend := s.backend, calls := s.calls }

namespace Backend

/-- The name of the driver of memory trees. -/
def memoryName : String := "memory"

/-- The name of the driver of releases. -/
def releasesName : String := "releases"

/-- The name of the driver. -/
def kindName : Backend → String
  | memory _ => memoryName
  | releases _ => releasesName

/-- The bytes known to be stored. -/
def usage : Backend → Size
  | memory tree => tree.usage
  | releases storage => storage.usage

/-- List a directory. -/
def list (b : Backend) (source : Source) (dir : Path) (refresh : Bool) (patience : Patience) :
    Served (List Entry) :=
  if patience.isSpent then { answer := .error .cancelled, backend := b, calls := 0 }
  else
    match b with
    | memory tree => { answer := tree.list dir, backend := b, calls := 0 }
    | releases storage =>
      let gathering := storage.list source dir refresh patience
      { answer := gathering.answer, calls := gathering.calls,
        backend := releases { storage with points := gathering.points } }

/-- Where a listed file can be downloaded. -/
def link (b : Backend) (e : Entry) : Except StorageError Link :=
  match b with
  | memory _ => MemoryTree.link e
  | releases storage => storage.link e

/-- Change a tree in memory; `operation` names the change that other backends lack. -/
def change {α : Type} (b : Backend) (operation : String) (c : MemoryTree.Change α) : Served α :=
  match b with
  | memory tree =>
    match c tree with
    | .ok a tree => { answer := .ok a, backend := memory tree, calls := 0 }
    | .error e tree => { answer := .error e, backend := memory tree, calls := 0 }
  | releases _ =>
    { answer := .error (.unsupported releasesName operation), backend := b, calls := 0 }

/-- Put a file at a path. -/
def putFile (b : Backend) (p : Path) (size : Size) (locator : Option String) (now : Time) :
    Served Entry :=
  b.change "add_file" (MemoryTree.putFile p size locator now)

/-- Make a directory. -/
def makeDirectory (b : Backend) (dir : Path) (name : String) (now : Time) : Served Entry :=
  b.change "make_dir" (MemoryTree.makeDirectory dir.text name now)

/-- Remove what is at a path. -/
def remove (b : Backend) (p : Path) : Served Unit := b.change "remove" (MemoryTree.remove p)

/-- Rename what is at a path. -/
def rename (b : Backend) (p : Path) (name : String) (now : Time) : Served Entry :=
  b.change "rename" (MemoryTree.rename p name now)

end Backend

end StorageGateway
