/-!
# Tables over all code points

A table gives every code point a value. It is written as consecutive runs, each a word of letters
followed by the number of code points that have it.
-/

namespace StorageGateway.Unicode

/-- Consecutive runs of code points, each as its end (exclusive) and its value. -/
structure Table where
  runs : Array (Nat × String)

namespace Table

/-- Decode runs from a text; the accumulators hold the word and the number read so far. -/
def decodeFrom (start : Nat) (word : List Char) (count : Option Nat)
    (runs : Array (Nat × String)) : List Char → Array (Nat × String)
  | [] =>
    match count with
    | none => runs
    | some n => runs.push (start + n, String.ofList word.reverse)
  | c :: rest =>
    if c.isDigit then decodeFrom start word (some (count.getD 0 * 10 + (c.toNat - 48))) runs rest
    else
      match count with
      | none => decodeFrom start (c :: word) none runs rest
      | some n =>
        decodeFrom (start + n) [c] none (runs.push (start + n, String.ofList word.reverse)) rest

/-- The table that a text describes. -/
def decode (text : String) : Table := ⟨decodeFrom 0 [] none #[] text.toList⟩

/-- The first run from `low` up to `high` that ends behind `n`, by halving the distance. -/
def search (runs : Array (Nat × String)) (n : Nat) : Nat → Nat → Nat → Nat
  | 0, low, _ => low
  | fuel + 1, low, high =>
    if low < high then
      let middle := (low + high) / 2
      match runs[middle]? with
      | some (stop, _) => if n < stop then search runs n fuel low middle
          else search runs n fuel (middle + 1) high
      | none => low
    else low

/-- The value of a code point; empty outside the table. -/
def find (t : Table) (n : Nat) : String :=
  match t.runs[search t.runs n t.runs.size 0 t.runs.size]? with
  | some (_, value) => value
  | none => ""

end Table

/-- Consecutive elements, two by two. -/
def pairUp {α : Type} : List α → List (α × α)
  | a :: b :: rest => (a, b) :: pairUp rest
  | _ => []

end StorageGateway.Unicode
