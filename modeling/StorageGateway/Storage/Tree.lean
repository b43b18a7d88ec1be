import StorageGateway.Listing.Entry
import StorageGateway.Storage.Error

/-!
# Storage in memory

A tree of files and directories, kept as one node for each path. The size shown for a directory is
that of all files beneath it. Every change answers with the entry it made, or with the reason why
it made none; the moment of a change is given by the caller.
-/

namespace StorageGateway

/-- A file or directory of a tree. -/
structure Node where
  kind : Kind
  /-- The bytes of a file; zero for a directory. -/
  size : Size
  created : Time
  modified : Time
  locator : Option String
deriving DecidableEq

namespace Node

/-- A directory made now. -/
def directory (now : Time) : Node := ⟨.directory, 0, now, now, none⟩

/-- A file made now. -/
def file (size : Size) (locator : Option String) (now : Time) : Node :=
  ⟨.file, size, now, now, locator⟩

/-- Whether the node is a directory. -/
def isDirectory (n : Node) : Bool := n.kind == .directory

/-- The node as the entry at a path. -/
def entryAt (n : Node) (p : Path) : Entry :=
  { path := p, name := p.lastSegment, size := n.size, kind := n.kind, created := n.created,
    modified := n.modified, locator := n.locator }

end Node

/-- Files and directories by their paths. -/
structure MemoryTree where
  nodes : Dict Path Node
deriving DecidableEq

/-- A change of a tree, or a reason why there is none. -/
abbrev MemoryTree.Change := EStateM StorageError MemoryTree

namespace MemoryTree

/-- The tree with nothing but the root. -/
def new (now : Time) : MemoryTree := ⟨Dict.empty.insert .root (.directory now)⟩

instance : Inhabited MemoryTree := ⟨new 0⟩

/-- The node at a path. -/
def node? (t : MemoryTree) (p : Path) : Option Node := t.nodes.find? p

/-- The bytes of all files beneath a path. -/
def sizeBeneath (t : MemoryTree) (dir : Path) : Size :=
  .total ((t.nodes.filter fun p n => !n.isDirectory && dir.strictlyCovers p).values.map Node.size)

/-- The bytes of all files. -/
def usage (t : MemoryTree) : Size := t.sizeBeneath .root

/-- The node at a path as an entry, with all that a directory holds counted. -/
def entry (t : MemoryTree) (p : Path) (n : Node) : Entry :=
  if n.isDirectory then { n.entryAt p with size := t.sizeBeneath p } else n.entryAt p

/-- The entries of a directory, by name. -/
def list (t : MemoryTree) (dir : Path) : Except StorageError (List Entry) :=
  match t.node? dir with
  | none => .error (.notFound dir.text)
  | some n =>
    if n.isDirectory then
      let children := t.nodes.filter fun p _ => p != .root && p.parent == dir
      .ok ((children.entries.map fun (p, n) => t.entry p n).mergeSort fun a b => a.name ≤ b.name)
    else .error (.notADirectory dir.text)

/-- Where the content of a listed file is: at its locator, or else at its path in memory. -/
def link (e : Entry) : Except StorageError Link :=
  if e.isDirectory then .error (.invalidPath e.path.text)
  else .ok ⟨e.locator.getD ("memory://" ++ e.path.text)⟩

namespace Change

/-- Put a node at a path. -/
def put (p : Path) (n : Node) : Change Unit := modify fun t => ⟨t.nodes.insert p n⟩

/-- Make the directories that are missing among some paths. -/
def makeMissing (now : Time) : List Path → Change Unit
  | [] => return
  | p :: rest => do
    match (← get).node? p with
    | none => put p (.directory now)
    | some n => if !n.isDirectory then throw (.notADirectory p.text)
    makeMissing now rest

/-- Make the directories that are missing above a path. -/
def makeAbove (p : Path) (now : Time) : Change Unit :=
  makeMissing now (p.parent.ancestors.filter (· != .root)).reverse

end Change

open Change

/-- Put a file at a path, with the directories above it. -/
def putFile (p : Path) (size : Size) (locator : Option String) (now : Time) : Change Entry := do
  if p = .root then throw (.invalidPath p.text)
  makeAbove p now
  if ((← get).node? p).any Node.isDirectory then throw (.alreadyExists p.text)
  let n := Node.file size locator now
  put p n
  return n.entryAt p

/-- Make a directory, with the directories above it, unless it is there. -/
def addDirectory (p : Path) (now : Time) : Change Unit := do
  makeAbove p now
  match (← get).node? p with
  | none => put p (.directory now)
  | some n => if !n.isDirectory then throw (.alreadyExists p.text)

/-- Make a directory in one that is there. -/
def makeDirectory (parent name : String) (now : Time) : Change Entry := do
  let dir := Path.ofText parent
  let p := dir.join name
  match (← get).node? dir with
  | none => throw (.notFound parent)
  | some n => if !n.isDirectory then throw (.notADirectory parent)
  if ((← get).node? p).isSome then throw (.alreadyExists p.text)
  let n := Node.directory now
  put p n
  return n.entryAt p

/-- Remove what is at a path and all beneath it. -/
def remove (p : Path) : Change Unit := do
  if p = .root then throw (.invalidPath p.text)
  if ((← get).node? p).isNone then throw (.notFound p.text)
  modify fun t => ⟨t.nodes.filter fun q _ => !p.covers q⟩

/-- The nodes after what is at `p` and beneath it has gone to `target`. -/
def rekeyed (t : MemoryTree) (p target : Path) (now : Time) : MemoryTree :=
  let moving := t.nodes.filter fun q _ => p.covers q
  let staying := t.nodes.filter fun q _ => !p.covers q
  ⟨moving.entries.foldl
    (fun nodes (q, n) => nodes.insert ((q.follow? p target).getD q) { n with modified := now })
    staying⟩

/-- Give what is at a path another name in its directory. -/
def rename (p : Path) (name : String) (now : Time) : Change Entry := do
  if p = .root ∨ name = "" ∨ name.toList.any isSeparator then throw (.invalidPath p.text)
  let target := p.parent.join name
  match (← get).node? p with
  | none => throw (.notFound p.text)
  | some n =>
    if ((← get).node? target).isSome then throw (.alreadyExists target.text)
    modify fun t => t.rekeyed p target now
    return { n with modified := now }.entryAt target

end MemoryTree

end StorageGateway
