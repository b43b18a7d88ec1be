import StorageGateway.Listing.Entry

/-!
# Merging listings

Several sources can show the same directory at one level: two mounts under `/repo/a`, or a stored
directory that shares its name with a deeper mount. A `Listing` takes entries one after another and
folds a directory into the first one of its name; files are never folded. An index leads from
a directory's name to the entry that absorbs the later ones.
-/

namespace StorageGateway

/-- Entries in the order in which they came, with an index of the directories. -/
structure Listing where
  entries : List Entry
  /-- For the name of a directory, the position of the first directory of that name. -/
  firstAt : Dict String Nat
deriving DecidableEq

namespace Listing

/-- The listing without entries. -/
def empty : Listing := ⟨[], Dict.empty⟩

instance : Inhabited Listing := ⟨empty⟩

/-- Note the directory `e` at position `n`, unless an earlier one has its name. -/
def note (index : Dict String Nat) (e : Entry) (n : Nat) : Dict String Nat :=
  if e.isDirectory && !index.contains e.name then index.insert e.name n else index

/-- Start from entries that are kept as they are, even where two directories share a name. -/
def ofEntries (entries : List Entry) : Listing :=
  ⟨entries, entries.zipIdx.foldl (fun index e => note index e.1 e.2) Dict.empty⟩

/-- Fold a directory into an earlier one: the sizes add up and the times widen; name, path, kind
and locator stay. -/
def absorb (earlier later : Entry) : Entry :=
  { earlier with
    size := earlier.size + later.size
    created := min earlier.created later.created
    modified := max earlier.modified later.modified }

/-- Append an entry, or fold it into the first directory of its name if it is a directory too. -/
def push (l : Listing) (e : Entry) : Listing :=
  if e.isDirectory then
    match l.firstAt.find? e.name with
    | some n => { l with entries := l.entries.modify n (absorb · e) }
    | none => ⟨l.entries ++ [e], l.firstAt.insert e.name l.entries.length⟩
  else { l with entries := l.entries ++ [e] }

/-- Push entries one after another. -/
def extend (l : Listing) (entries : List Entry) : Listing := entries.foldl push l

/-- The number of entries. -/
def length (l : Listing) : Nat := l.entries.length

/-- Whether there is no entry. -/
def isEmpty (l : Listing) : Bool := l.entries.isEmpty

end Listing

/-- The entries of a listing with more entries merged into it. -/
def mergeEntries (present more : List Entry) : List Entry :=
  ((Listing.ofEntries present).extend more).entries

end StorageGateway
