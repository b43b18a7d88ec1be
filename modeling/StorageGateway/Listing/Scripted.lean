import StorageGateway.Listing.Gather

/-!
# Scripted points

A `ScriptedPoint` answers every request in a way that is laid down beforehand, after a wait that is
laid down too. With such points one can try how the answers and failures of many points come
together.
-/

namespace StorageGateway

/-- How a scripted point answers. -/
inductive Script where
  /-- With one entry. -/
  | entry
  /-- With nothing to show. -/
  | empty
  | fail (e : StorageError)
  /-- It breaks off without an answer. -/
  | abort
deriving DecidableEq

/-- A point with a laid down answer. -/
structure ScriptedPoint where
  /-- The path of the point, as it is written. -/
  label : String
  script : Script
  /-- How many milliseconds it takes to answer. -/
  delay : Nat
  /-- The bytes of the entry that it shows. -/
  size : Size
  created : Time
  modified : Time
deriving DecidableEq

namespace ScriptedPoint

/-- The entry that the point shows: a file where it is requested itself, a directory above it, and a
file named after what is requested below it. -/
def entries (p : ScriptedPoint) (request : Path) : Bearing → List Entry
  | .exact => [.file request "asset.bin" p.size p.created p.modified none]
  | .ancestor child => [.directory request child p.size p.created p.modified]
  | .descendant selector rest =>
    [.file request (selector ++ ".bin") p.size p.created p.modified (some rest)]
  | .unrelated => []

/-- The reply that is laid down. -/
def reply (p : ScriptedPoint) (request : Path) (bearing : Bearing) : Reply :=
  match p.script with
  | .entry => .entries (p.entries request bearing)
  | .empty => .entries []
  | .fail e => .failed e
  | .abort => @Reply.aborted (p.label ++ " broke off")

/-- Visit the point. -/
def visit (p : ScriptedPoint) (request : Path) (bearing : Bearing) (patience : Patience) :
    Visit ScriptedPoint :=
  let interrupted := (patience.after p.delay).isSpent
  { reply := if interrupted then .failed .cancelled else p.reply request bearing
    point := p
    calls := 0
    elapsed := patience.passing p.delay
    interrupted }

/-- Scripted points, as they are asked for a listing. -/
def kind : PointKind ScriptedPoint where
  label := label
  visit p request bearing _ patience := p.visit request bearing patience

end ScriptedPoint

end StorageGateway
