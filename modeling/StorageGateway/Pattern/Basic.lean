import StorageGateway.Pattern.CharSet

/-!
# Patterns

Regular expressions over the characters of a name, with assertions about the place where they
stand. `Expr.reach` gives the places that a match can end at when it starts at one of some places;
a set of places is a number in which bit `i` stands for the place before the `i`th character.
-/

namespace StorageGateway.Pattern

/-- What an assertion asks of a place in a text. -/
inductive Look where
  | textStart
  | textEnd
  /-- Behind a line feed, or with `crlf` behind any line break. -/
  | lineStart (crlf : Bool)
  | lineEnd (crlf : Bool)
  /-- Between a word character and another one; with `ascii`, of ASCII words. -/
  | wordEdge (ascii : Bool)
  | noWordEdge (ascii : Bool)
  | wordStart (ascii : Bool)
  | wordEnd (ascii : Bool)
  /-- Not behind a word character. -/
  | wordStartHalf (ascii : Bool)
  /-- Not before a word character. -/
  | wordEndHalf (ascii : Bool)
deriving DecidableEq, Repr

/-- A regular expression. -/
inductive Expr where
  | empty
  | char (s : CharSet)
  | look (l : Look)
  | seq (a b : Expr)
  | alt (a b : Expr)
  /-- At least `min` times, and at most `max` times if there is a limit. -/
  | times (a : Expr) (min : Nat) (max : Option Nat)

/-- Whether a character belongs to a word. -/
def isWordChar (ascii : Bool) (c : Char) : Bool :=
  if ascii then c.isAlphanum || c == '_' else Property.word.holds c.toNat

/-- Whether the assertion holds before the `i`th character. -/
def Look.holds (l : Look) (text : Array Char) (i : Nat) : Bool :=
  let before := if i = 0 then none else text[i - 1]?
  let after := text[i]?
  let word (ascii : Bool) (c : Option Char) := c.any (isWordChar ascii)
  match l with
  | textStart => before.isNone
  | textEnd => after.isNone
  | lineStart false => before.isNone || before == some '\n'
  | lineEnd false => after.isNone || after == some '\n'
  | lineStart true =>
    before.isNone || before == some '\n' || (before == some '\r' && after != some '\n')
  | lineEnd true =>
    after.isNone || after == some '\r' || (after == some '\n' && before != some '\r')
  | wordEdge ascii => word ascii before != word ascii after
  | noWordEdge ascii => word ascii before == word ascii after
  | wordStart ascii => !word ascii before && word ascii after
  | wordEnd ascii => word ascii before && !word ascii after
  | wordStartHalf ascii => !word ascii before
  | wordEndHalf ascii => !word ascii after

/-- The set of the places below `count` that pass a test. -/
def placesWhere (count : Nat) (test : Nat → Bool) : Nat :=
  (List.range count).foldl (fun s i => if test i then s ||| (1 <<< i) else s) 0

/-- Take a step again and again, up to `fuel` times, and gather all places on the way. -/
def gather (step : Nat → Nat) : Nat → Nat → Nat
  | 0, places => places
  | fuel + 1, places =>
    let next := places ||| step places
    if next = places then places else gather step fuel next

namespace Expr

/-- The places at which a match can end that starts at one of the given places. -/
def reach (text : Array Char) : Expr → Nat → Nat
  | empty, places => places
  | char s, places =>
    (places &&& placesWhere text.size fun i => (text[i]?).any fun c => s.contains c.toNat) <<< 1
  | look l, places => places &&& placesWhere (text.size + 1) (l.holds text)
  | seq a b, places => b.reach text (a.reach text places)
  | alt a b, places => a.reach text places ||| b.reach text places
  | times a min max, places =>
    let forced := Nat.repeat (a.reach text) min places
    match max with
    | none => gather (a.reach text) (text.size + 1) forced
    | some max => gather (a.reach text) (max - min) forced

/-- Whether every match of the expression is empty. -/
def isWidthless : Expr → Bool
  | empty => true
  | char _ => false
  | look _ => true
  | seq a b => a.isWidthless && b.isWidthless
  | alt a b => a.isWidthless && b.isWidthless
  | times a _ max => a.isWidthless || max == some 0

/-- An expression taken at least `min` and at most `max` times. Of empty matches one is as good as
many. -/
def repeated (a : Expr) (min : Nat) (max : Option Nat) : Expr :=
  if a.isWidthless then times a (Nat.min min 1) (max.map (Nat.min 1)) else times a min max

/-- About how much memory an automaton for the expression takes. -/
def cost : Expr → Nat
  | empty => 0
  | char s => 32 + 60 * s.ranges
  | look _ => 32
  | seq a b => a.cost + b.cost
  | alt a b => a.cost + b.cost + 48
  | times a min max => (a.cost + 48) * (match max with
    | none => min + 1
    | some max => max)

end Expr

/-- Whether the expression matches a part of a text. -/
def Expr.occursIn (e : Expr) (text : String) : Bool :=
  let text := text.toList.toArray
  e.reach text (1 <<< (text.size + 1) - 1) != 0

end StorageGateway.Pattern
