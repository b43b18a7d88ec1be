/-!
# TOML values

The values of a TOML document, and how a document grows: by headers and by keys with dots. A table
is defined once; which later lines may still add to it depends on how it came about.
-/

namespace StorageGateway

/-- How a table came about. -/
inductive TableStyle where
  /-- By a header of its own. -/
  | header
  /-- By a header for a table further down. -/
  | implied
  /-- By a key with dots. -/
  | dotted
  /-- In braces. -/
  | inline
deriving DecidableEq, Repr

/-- A TOML value. -/
inductive Toml where
  | string (s : String)
  | integer (n : Int)
  | float
  | boolean (b : Bool)
  /-- A date, a time, or both. -/
  | moment
  | array (items : List Toml)
  | table (style : TableStyle) (entries : List (String × Toml))
  /-- An array of tables, one for each of its headers. -/
  | tables (items : List (List (String × Toml)))

namespace Toml

instance : Inhabited Toml := ⟨table .header []⟩

/-- The entries of a table. -/
abbrev Entries := List (String × Toml)

/-- The entries with the value of a key changed, or with a new key at the end. -/
def alter (key : String) (change : Option Toml → Option Toml) : Entries → Option Entries
  | [] => (change none).map fun v => [(key, v)]
  | (k, v) :: rest =>
    if k = key then (change (some v)).map fun v => (k, v) :: rest
    else (alter key change rest).map ((k, v) :: ·)

/-- Change the last of some lists. -/
def alterLast (change : Entries → Option Entries) : List Entries → Option (List Entries)
  | [] => none
  | [last] => (change last).map fun last => [last]
  | first :: rest => (alterLast change rest).map (first :: ·)

/-- Change the entries of the table that a path of keys leads to. Tables that are missing on the way
are made in a style, and only tables in some styles are passed; of an array of tables the last one
counts. -/
def alterAt (style : TableStyle) (passes : TableStyle → Bool)
    (change : TableStyle → Entries → Option Entries) :
    List String → TableStyle → Entries → Option Entries
  | [], here, entries => change here entries
  | key :: path, _, entries =>
    alter key (fun
      | none => (alterAt style passes change path style []).map (table style)
      | some (table inner entries) =>
        if passes inner then (alterAt style passes change path inner entries).map (table inner)
        else none
      | some (tables items) =>
        (alterLast (alterAt style passes change path .header) items).map tables
      | some _ => none) entries

/-- Add a value under a new key. -/
def addNew (key : String) (value : Toml) : Entries → Option Entries :=
  alter key fun
    | none => some value
    | some _ => none

/-- Add a value under a key behind a path of dotted keys. The table that takes it came about by dots
if and only if there are dots. -/
def addDotted (passes : TableStyle → Bool) (path : List String) (key : String) (value : Toml)
    (here : TableStyle) (entries : Entries) : Option Entries :=
  alterAt .dotted passes
    (fun style entries =>
      if (style == .dotted) == path.isEmpty then none else addNew key value entries)
    path here entries

/-- Whether a header leads through a table. -/
def passesHeader : TableStyle → Bool
  | .inline => false
  | _ => true

/-- Whether a key with dots leads through a table of a document. -/
def passesDots : TableStyle → Bool
  | .implied => true
  | .dotted => true
  | _ => false

/-- Start the table of a header. -/
def openTable (path : List String) (key : String) (entries : Entries) : Option Entries :=
  alterAt .implied passesHeader
    (fun _ => alter key fun
      | none => some (table .header [])
      | some (table .implied entries) => some (table .header entries)
      | some _ => none)
    path .header entries

/-- Start the next table of an array of tables. -/
def openNextTable (path : List String) (key : String) (entries : Entries) : Option Entries :=
  alterAt .implied passesHeader
    (fun _ => alter key fun
      | none => some (tables [[]])
      | some (tables items) => some (tables (items ++ [[]]))
      | some _ => none)
    path .header entries

/-- Add a value to the table of the last header. -/
def addBelow (header path : List String) (key : String) (value : Toml) (entries : Entries) :
    Option Entries :=
  alterAt .implied passesHeader (addDotted passesDots path key value) header .header entries

/-- Add a value to a table in braces. -/
def addInline (path : List String) (key : String) (value : Toml) (entries : Entries) :
    Option Entries :=
  addDotted (· == .dotted) path key value .inline entries

/-! ## Reading values -/

/-- The text of a string. -/
def string? : Toml → Option String
  | string s => some s
  | _ => none

/-- The truth value. -/
def boolean? : Toml → Option Bool
  | boolean b => some b
  | _ => none

/-- A number that is not negative. -/
def natural? : Toml → Option Nat
  | integer n => if 0 ≤ n then some n.toNat else none
  | _ => none

/-- The items of an array. -/
def items? : Toml → Option (List Toml)
  | array items => some items
  | tables items => some (items.map (table .header))
  | _ => none

/-- The fields of a record, one for each name. A table gives them by name, whatever else it holds,
and an array in order. A date is a table without any of the names. -/
def fields? (names : List String) : Toml → Option (List (Option Toml))
  | table _ entries => some (names.map fun name => entries.lookup name)
  | moment => some (names.map fun _ => none)
  | v => do
    let items ← v.items?
    return (items.take names.length).map some ++
      List.replicate (names.length - items.length) none

/-- A field that may be left out. -/
def optional {α : Type} (read : Toml → Option α) (default : α) : Option Toml → Option α
  | some v => read v
  | none => some default

end Toml

end StorageGateway
