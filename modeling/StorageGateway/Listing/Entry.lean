import StorageGateway.Path.Basic
import StorageGateway.Listing.Size

/-!
# Entries of a listing

An `Entry` is a file or a directory as a listing shows it, whether it is stored, is fetched from a
source, or stands for mounts further down.
-/

namespace StorageGateway

/-- A moment, in whole seconds since 1970. -/
abbrev Time := Int

/-- What an entry is. -/
inductive Kind where
  | file
  | directory
deriving DecidableEq, Repr

/-- The word for the kind. -/
def Kind.name : Kind → String
  | file => "file"
  | directory => "dir"

/-- A file or directory, as a listing shows it. -/
structure Entry where
  path : Path
  /-- The name under which the listing shows the entry. -/
  name : String
  /-- The bytes of a file; for a directory, of all that it holds. -/
  size : Size
  kind : Kind
  created : Time
  modified : Time
  /-- Where the content comes from, in terms that the storage understands. -/
  locator : Option String
deriving DecidableEq

namespace Entry

/-- A file named `name` in the directory `dir`. -/
def file (dir : Path) (name : String) (size : Size) (created modified : Time)
    (locator : Option String) : Entry :=
  { path := dir.join name, name, size, kind := .file, created, modified, locator }

/-- A directory named `name` in the directory `dir`. -/
def directory (dir : Path) (name : String) (size : Size) (created modified : Time) : Entry :=
  { path := dir.join name, name, size, kind := .directory, created, modified, locator := none }

/-- Whether one entry comes before another or is like it, by name, kind, size and locator. -/
def le (a b : Entry) : Bool :=
  if a.name ≠ b.name then a.name < b.name
  else if a.kind ≠ b.kind then a.kind.name < b.kind.name
  else if a.size ≠ b.size then a.size.bytes < b.size.bytes
  else a.locator.getD "" ≤ b.locator.getD ""

/-- Whether the entry is a directory. -/
def isDirectory (e : Entry) : Bool := e.kind == .directory

end Entry

/-- Where the content of a file can be downloaded. -/
structure Link where
  url : String
deriving DecidableEq, Repr

end StorageGateway
