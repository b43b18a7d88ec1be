import StorageGateway.Text
import StorageGateway.Unicode.Category
import StorageGateway.Unicode.Fold
import StorageGateway.Unicode.Script

/-!
# Sets of characters

The sets that a pattern can name, as terms: ranges of code points, properties of Unicode, and the
operations on sets. `CharSet.contains` says which code points a set holds.
-/

namespace StorageGateway.Pattern

/-- A property of code points. -/
inductive Property where
  | whiteSpace
  /-- Letters, marks, decimal digits, connectors and joiners. -/
  | word
  | alphabetic
  | lowercase
  | uppercase
  /-- One of several general categories. -/
  | category (codes : List String)
  | script (code : String)
deriving Repr

/-- Whether a code point has a property. -/
def Property.holds (p : Property) (n : Nat) : Bool :=
  match p with
  | whiteSpace => Text.isBlank (Char.ofNat n)
  | word =>
    Unicode.alphabetic.holds n || n == 0x200C || n == 0x200D ||
      ["Mn", "Mc", "Me", "Nd", "Pc"].contains (Unicode.categories.find n)
  | alphabetic => Unicode.alphabetic.holds n
  | lowercase => Unicode.lowercase.holds n
  | uppercase => Unicode.uppercase.holds n
  | category codes => codes.contains (Unicode.categories.find n)
  | script code => Unicode.scripts.find n == code

/-- About how many ranges of code points make up a property. -/
def Property.ranges : Property → Nat
  | whiteSpace => 10
  | word => 770
  | alphabetic => 730
  | lowercase => 670
  | uppercase => 650
  | category codes => 100 * codes.length
  | script _ => 10

/-- A set of code points. -/
inductive CharSet where
  | empty
  /-- The code points from `low` to `high`. -/
  | range (low high : Nat)
  | having (p : Property)
  | union (s t : CharSet)
  | intersection (s t : CharSet)
  | difference (s t : CharSet)
  /-- The code points that differ at most by case from one of the set. -/
  | caseless (s : CharSet)
  /-- The same for the letters from A to Z alone. -/
  | asciiCaseless (s : CharSet)

namespace CharSet

/-- All code points. -/
def all : CharSet := range 0 0x10FFFF

/-- One code point. -/
def single (n : Nat) : CharSet := range n n

/-- The code points up to `limit` that are not in the set. -/
def complement (s : CharSet) (limit : Nat) : CharSet := difference (range 0 limit) s

/-- The set of several ranges. -/
def ofRanges (ranges : List (Nat × Nat)) : CharSet :=
  ranges.foldl (fun s r => union s (range r.1 r.2)) empty

/-- The letter from A to Z that differs from a code point by case, if there is one. -/
def asciiVariants (n : Nat) : List Nat :=
  if 65 ≤ n ∧ n ≤ 90 then [n, n + 32]
  else if 97 ≤ n ∧ n ≤ 122 then [n, n - 32]
  else [n]

/-- Whether the set holds a code point. -/
def contains : CharSet → Nat → Bool
  | empty, _ => false
  | range low high, n => low ≤ n && n ≤ high
  | having p, n => p.holds n
  | union s t, n => s.contains n || t.contains n
  | intersection s t, n => s.contains n && t.contains n
  | difference s t, n => s.contains n && !t.contains n
  | caseless s, n => (Unicode.caseVariants n).any fun m => s.contains m
  | asciiCaseless s, n => (asciiVariants n).any fun m => s.contains m

/-- Whether the set holds nothing from 128 to 255. -/
def isAscii (s : CharSet) : Bool :=
  (List.range 128).all fun n => !s.contains (n + 128)

/-- About how many ranges make up the set. -/
def ranges : CharSet → Nat
  | empty => 0
  | range _ _ => 1
  | having p => p.ranges
  | union s t => s.ranges + t.ranges
  | intersection s t => max s.ranges t.ranges
  | difference s t => s.ranges + t.ranges
  | caseless s => 2 * s.ranges
  | asciiCaseless s => 2 * s.ranges

end CharSet

end StorageGateway.Pattern
