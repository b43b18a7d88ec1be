import StorageGateway.Listing.Basic
import StorageGateway.Storage.Error

/-!
# One listing from many points

A storage can own several sub-trees, each at its point. A request for a path concerns a point in one of
three ways, or not at all.

A listing asks every point that the requested path concerns for what it has to show there, and
merges the answers. At most `width` points are asked at a time, each as soon as an earlier one has
answered; a width of one asks them in turn. A point that fails contributes nothing, and the listing
fails only if every point that was asked fails. Once the caller gives up, no listing is given. A visit
that breaks off counts as a failure where points are asked at once; where they are asked in turn, it
breaks off everything.

Time is counted in milliseconds from the moment of the request; a wait that ends at the moment when the
caller gives up still ends in time.
-/

namespace StorageGateway

/-! ## Where points lie -/

/-- How a point bears on a requested path. -/
inductive Bearing where
  /-- The point itself is requested. -/
  | exact
  /-- The request is above the point; `child` is the next segment towards it. -/
  | ancestor (child : String)
  /-- The request is beneath the point: `selector` is the first segment below it, and `rest` the
  text of what follows. -/
  | descendant (selector rest : String)
  /-- Neither is above the other. -/
  | unrelated
deriving DecidableEq, Repr

/-- How `point` bears on `request`. -/
def Bearing.between (point request : Path) : Bearing :=
  if point = request then exact
  else
    match point.firstBelow? request with
    | some child => ancestor child
    | none =>
      match request.splitBelow? point with
      | some (selector, rest) => descendant selector rest
      | none => unrelated

/-! ## How long a caller waits -/

/-- How long a caller goes on waiting. -/
inductive Patience where
  /-- Until the answer is there. -/
  | unlimited
  /-- For so many more milliseconds. -/
  | limited (left : Nat)
  /-- The caller has given up. -/
  | spent
deriving DecidableEq, Repr

namespace Patience

/-- Whether the caller has given up. -/
def isSpent (p : Patience) : Bool := p == spent

/-- The patience that is left after a wait. -/
def after (p : Patience) (wait : Nat) : Patience :=
  match p with
  | unlimited => unlimited
  | limited left => if wait ≤ left then limited (left - wait) else spent
  | spent => spent

/-- How much of a wait passes before it ends or the caller gives up. A caller gives up just after
the last millisecond of their patience. -/
def passing (p : Patience) (wait : Nat) : Nat :=
  match p with
  | unlimited => wait
  | limited left => if wait ≤ left then wait else left + 1
  | spent => 0

end Patience

/-! ## Visits -/

/-- What a point has to say to a request. -/
inductive Reply where
  | entries (entries : List Entry)
  | failed (e : StorageError)
  /-- The work broke off without an answer, which is reported by whoever runs it. -/
  | aborted {report : String}
deriving DecidableEq

/-- Whether the work broke off. -/
def Reply.isAborted : Reply → Bool
  | .aborted => true
  | _ => false

/-- A visit to a point: its reply, the point afterwards, and what the visit took. -/
structure Visit (π : Type) where
  reply : Reply
  point : π
  /-- How many calls went to a source. -/
  calls : Nat
  /-- How many milliseconds passed. -/
  elapsed : Nat
  /-- The caller gave up meanwhile. -/
  interrupted : Bool

/-- What can be asked: points of a type, each somewhere in a tree. -/
structure PointKind (π : Type) where
  /-- The path of the point, as it is written. -/
  label : π → String
  /-- What the point shows at a path on which it bears in some way. -/
  visit : π → Path → Bearing → (refresh : Bool) → Patience → Visit π

/-- How points are asked. -/
structure GatherOptions where
  /-- Ask several points at a time. -/
  concurrent : Bool
  /-- How many at most. -/
  maxConcurrency : Nat
deriving DecidableEq, Repr

namespace GatherOptions

/-- One point at a time. -/
def inTurn : GatherOptions := ⟨false, 8⟩

/-- Up to `max` points at a time, and at least one. -/
def atOnce (max : Nat) : GatherOptions := ⟨true, Nat.max max 1⟩

/-- Whether points are asked at once when `related` points are concerned. -/
def asksAtOnce (o : GatherOptions) (related : Nat) : Bool := o.concurrent && 1 < related

/-- How many points are asked at a time when `related` points are concerned. -/
def width (o : GatherOptions) (related : Nat) : Nat :=
  if o.asksAtOnce related then Nat.max o.maxConcurrency 1 else 1

end GatherOptions

/-- A point in the course of a request: how it bears on the path, and the outcome if it was
visited. -/
structure Turn (π : Type) where
  point : π
  bearing : Bearing
  /-- The visit, with the moment at which it ended. -/
  outcome : Option (Visit π × Nat)

namespace Turn

variable {π : Type} (t : Turn π)

/-- How many calls to a source the point made. -/
def calls : Nat :=
  match t.outcome with
  | some (visit, _) => visit.calls
  | none => 0

/-- Whether the visit broke off. -/
def brokeOff : Bool :=
  match t.outcome with
  | some (visit, _) => visit.reply.isAborted
  | none => false

end Turn

/-! ## Gathering -/

/-- The answers gathered so far. -/
structure Tally where
  listing : Listing
  /-- How many points answered, even with nothing to show. -/
  answered : Nat
  /-- What went wrong elsewhere. -/
  failures : List String

namespace Tally

/-- Nothing gathered. -/
def empty : Tally := ⟨.empty, 0, []⟩

/-- Gather one reply. A point that gave up of its own accord counts neither way; of one that broke off,
the report counts. -/
def record (t : Tally) (label : String) : Reply → Tally
  | .entries entries => { t with listing := t.listing.extend entries, answered := t.answered + 1 }
  | .failed .cancelled => t
  | .failed e => { t with failures := t.failures ++ [label ++ ": " ++ e.message] }
  | @Reply.aborted report => { t with failures := t.failures ++ [report] }

/-- What the gathered answers come to. -/
def answer (t : Tally) : Except StorageError (List Entry) :=
  if t.answered = 0 ∧ t.failures ≠ [] then
    .error (.unavailable (String.intercalate "; " t.failures))
  else .ok t.listing.entries

end Tally

/-- The answer to a request, with the points afterwards and what was done. -/
structure Gathering (π : Type) where
  answer : Except StorageError (List Entry)
  points : List π
  /-- The points that were visited, in the order of the visits. -/
  visited : List (String × Bearing)
  /-- How many calls went to a source. -/
  calls : Nat
  /-- Whether everything broke off with a visit. Then nobody is there to take the answer. -/
  brokeOff : Bool

namespace PointKind

variable {π : Type} (kind : PointKind π)

/-- How many points a request concerns. -/
def related (points : List π) (request : Path) : Nat :=
  points.countP fun p => Bearing.between (Path.ofText (kind.label p)) request != .unrelated

/-- The moments at which the slots come free, after one of them was taken from `start` to `stop`. -/
def occupy (slots : List Nat) (start stop : Nat) : List Nat :=
  (slots.erase start) ++ [stop]

/-- Visit the points one after another, each when the first of the slots is free. A point that is
not concerned is passed over, and so is every point once the caller has given up. -/
def schedule (request : Path) (refresh : Bool) (patience : Patience) :
    List Nat → List π → List (Turn π)
  | _, [] => []
  | slots, p :: rest =>
    match Bearing.between (Path.ofText (kind.label p)) request with
    | .unrelated => ⟨p, .unrelated, none⟩ :: schedule request refresh patience slots rest
    | bearing =>
      let start := (slots.min?).getD 0
      let left := patience.after start
      if left.isSpent then
        ⟨p, bearing, none⟩ :: schedule request refresh patience slots rest
      else
        let visit := kind.visit p request bearing refresh left
        let stop := start + visit.elapsed
        ⟨visit.point, bearing, some (visit, stop)⟩ ::
          schedule request refresh patience (occupy slots start stop) rest

/-- What is left of a course that ends with the first visit to break off. The points after it are not
visited, and stay as they were. -/
def untilBreak (request : Path) : List π → List (Turn π) → List (Turn π)
  | _ :: points, t :: turns =>
    if t.brokeOff then
      t :: points.map fun p => ⟨p, Bearing.between (Path.ofText (kind.label p)) request, none⟩
    else t :: untilBreak request points turns
  | _, turns => turns

/-- Whether the caller gave up before every point that is concerned had answered. -/
def gaveUp (patience : Patience) (turns : List (Turn π)) : Bool :=
  patience.isSpent || turns.any fun t =>
    match t.bearing, t.outcome with
    | .unrelated, _ => false
    | _, none => true
    | _, some (visit, _) => visit.interrupted

/-- The replies with the labels of their points, in the order in which the visits ended. -/
def replies (turns : List (Turn π)) : List (String × Reply) :=
  let ended := turns.filterMap fun t =>
    t.outcome.map fun (visit, stop) => (stop, kind.label t.point, visit.reply)
  (ended.mergeSort fun a b => a.1 ≤ b.1).map Prod.snd

/-- List a path over several points. -/
def gather (options : GatherOptions) (points : List π) (request : Path) (refresh : Bool)
    (patience : Patience) : Gathering π :=
  let related := kind.related points request
  let course := kind.schedule request refresh patience
    (List.replicate (options.width related) 0) points
  let turns := if options.asksAtOnce related then course else kind.untilBreak request points course
  let tally := (kind.replies turns).foldl (fun t r => Tally.record t r.1 r.2) Tally.empty
  { answer := if gaveUp patience turns then .error .cancelled else tally.answer
    points := turns.map Turn.point
    visited := turns.filterMap fun t => t.outcome.map fun _ => (kind.label t.point, t.bearing)
    calls := (turns.map Turn.calls).foldr (· + ·) 0
    brokeOff := !options.asksAtOnce related && course.any Turn.brokeOff }

end PointKind

end StorageGateway
