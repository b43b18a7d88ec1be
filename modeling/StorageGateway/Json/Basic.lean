/-!
# JSON values

The values that a JSON text stands for, as far as records need them: numbers count by whether they
are integers, and an object keeps all its members in order, so that a repeated key can be refused.
`Json.fields?` reads a record from an object or from an array of its fields.
-/

namespace StorageGateway

/-- A JSON value. -/
inductive Json where
  | null
  | bool (b : Bool)
  /-- A number written without point and exponent. -/
  | integer (n : Int)
  /-- A number with a point or an exponent, or `-0`; no record has a field for one. -/
  | real
  /-- A string literal; `none` if its escapes hold half of a surrogate pair, which is correct JSON
  but stands for no text. -/
  | string (s : Option String)
  | array (items : List Json)
  /-- The members in order; a key is read like a string. -/
  | object (members : List (Option String × Json))

namespace Json

instance : Inhabited Json := ⟨null⟩

/-- The text of a string. -/
def string? : Json → Option String
  | string s => s
  | _ => none

/-- The truth value. -/
def bool? : Json → Option Bool
  | bool b => some b
  | _ => none

/-- An integer from `low` to `high`. -/
def integer? (low high : Int) : Json → Option Int
  | integer n => if low ≤ n ∧ n ≤ high then some n else none
  | _ => none

/-- A number of 32 bits. -/
def word? (j : Json) : Option Nat :=
  (j.integer? 0 0xFFFFFFFF).map Int.toNat

/-- A list whose items are all read by `item`. -/
def list? {α : Type} (item : Json → Option α) : Json → Option (List α)
  | array items => items.mapM item
  | _ => none

/-- The value of the member called `name`, `some none` if there is none; no answer if the name is
repeated. -/
def member? (name : String) (members : List (Option String × Json)) : Option (Option Json) :=
  match members.filter (·.1 == some name) with
  | [] => some none
  | [m] => some (some m.2)
  | _ => none

/-- The fields of a record, one for each name. An object gives them by name, whatever else it
holds; an array gives them in order and may stop early. -/
def fields? (names : List String) : Json → Option (List (Option Json))
  | object members =>
    if members.all (·.1.isSome) then names.mapM (member? · members) else none
  | array items =>
    if items.length ≤ names.length then
      some (items.map some ++ List.replicate (names.length - items.length) none)
    else none
  | _ => none

/-- A field that must be there. -/
def required {α : Type} (read : Json → Option α) : Option Json → Option α
  | some j => read j
  | none => none

/-- A field that may be left out. -/
def optional {α : Type} (read : Json → Option α) (default : α) : Option Json → Option α
  | some j => read j
  | none => some default

end Json

end StorageGateway
