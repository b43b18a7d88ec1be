import StorageGateway.Toml.Basic

/-!
# Reading TOML

A reader of TOML documents: keys, the four kinds of strings, numbers, dates, arrays, tables in
braces and headers. `Toml.parse?` reads a whole document as a table.
-/

namespace StorageGateway.Toml

/-- A reader of a part of a document, with the text that is left as its state. -/
abbrev Reading := StateT (List Char) Option

namespace Reading

/-- Refuse the document. -/
def refuse {α : Type} : Reading α := fun _ => none

/-- Go on only if a condition holds. -/
def check (condition : Bool) : Reading Unit := if condition then pure () else refuse

/-- The next character, if there is one. -/
def peek? : Reading (Option Char) := return (← get).head?

/-- Take the next character. -/
def next : Reading Char := fun
  | [] => none
  | c :: rest => some (c, rest)

/-- Take a text if it comes next. -/
def take? (text : String) : Reading Bool := do
  match text.toList.isPrefixOf? (← get) with
  | some rest => set rest; return true
  | none => return false

/-- Take the characters of a class. -/
def takeWhile (p : Char → Bool) : Reading (List Char) := do
  let cs ← get
  let taken := cs.takeWhile p
  set (cs.drop taken.length)
  return taken

end Reading

open Reading

/-! ## Blanks, comments and ends of lines -/

/-- Blanks within a line. -/
def isSpace (c : Char) : Bool := c == ' ' || c == '\t'

/-- The characters that a comment or a string may hold as they are. -/
def isPlain (c : Char) : Bool := c == '\t' || (0x20 ≤ c.toNat && c.toNat != 0x7F)

/-- Skip blanks within a line. -/
def skipSpace : Reading Unit := do let _ ← takeWhile isSpace

/-- Take the end of a line if it is here. -/
def newline? : Reading Bool := do
  if ← take? "\n" then return true
  take? "\x0d\n"

/-- Skip a comment if one starts here. -/
def skipComment : Reading Unit := do
  if (← peek?) == some '#' then
    let _ ← takeWhile isPlain

/-- The end of a line: blanks, a comment, and a line break unless the document ends. -/
def endOfLine : Reading Unit := do
  skipSpace
  skipComment
  if (← peek?).isSome then check (← newline?)

/-- Skip blanks, line breaks, and comments with the line breaks behind them. -/
def skipLines : Nat → Reading Unit
  | 0 => return
  | fuel + 1 => do
    skipSpace
    match ← peek? with
    | some '#' =>
      skipComment
      check (← newline?)
      skipLines fuel
    | _ => if ← newline? then skipLines fuel

/-! ## Strings -/

/-- The value of a hexadecimal digit. -/
def hexDigit? (c : Char) : Option Nat :=
  if c.isDigit then some (c.toNat - 48)
  else if 'a' ≤ c ∧ c ≤ 'f' then some (c.toNat - 87)
  else if 'A' ≤ c ∧ c ≤ 'F' then some (c.toNat - 55)
  else none

/-- A character by so many hexadecimal digits. -/
def hexChar : Nat → Nat → Reading Char
  | 0, n => do
    check (n < 0xD800 || (0xE000 ≤ n && n < 0x110000))
    return Char.ofNat n
  | count + 1, n => do
    match hexDigit? (← next) with
    | some d => hexChar count (n * 16 + d)
    | none => refuse

/-- The character of an escape, from behind its backslash. -/
def escape : Reading Char := do
  match ← next with
  | 'b' => return '\x08'
  | 't' => return '\t'
  | 'n' => return '\n'
  | 'f' => return '\x0c'
  | 'r' => return '\x0d'
  | '\x22' => return '\x22'
  | '\x5c' => return '\x5c'
  | 'u' => hexChar 4 0
  | 'U' => hexChar 8 0
  | _ => refuse

/-- The rest of a string within a line, up to its closing quote; the characters so far are given
last first. -/
def lineString (quote : Char) : Nat → List Char → Reading String
  | 0, _ => refuse
  | fuel + 1, found => do
    let c ← next
    if c = quote then return String.ofList found.reverse
    else if c = '\x5c' ∧ quote = '\x22' then lineString quote fuel ((← escape) :: found)
    else
      check (isPlain c)
      lineString quote fuel (c :: found)

/-- The rest of a string over several lines, up to its three closing quotes. One or two quotes more
belong to the string. -/
def blockString (quote : Char) : Nat → List Char → Reading String
  | 0, _ => refuse
  | fuel + 1, found => do
    let three := String.ofList [quote, quote, quote]
    if ← take? three then
      let one ← take? (String.ofList [quote])
      let two ← if one then take? (String.ofList [quote]) else pure false
      let found := if one then quote :: found else found
      let found := if two then quote :: found else found
      return String.ofList found.reverse
    else if ← newline? then blockString quote fuel ('\n' :: found)
    else
      let c ← next
      if c = '\x5c' ∧ quote = '\x22' then
        let behind ← get
        skipSpace
        if ← newline? then
          let _ ← takeBreaks fuel
          blockString quote fuel found
        else
          set behind
          blockString quote fuel ((← escape) :: found)
      else
        check (isPlain c)
        blockString quote fuel (c :: found)
where
  /-- Skip blanks and line breaks. -/
  takeBreaks : Nat → Reading Unit
    | 0 => return
    | fuel + 1 => do
      skipSpace
      if ← newline? then takeBreaks fuel

/-- A string of any of the four kinds. -/
def readString : Reading String := do
  let size := (← get).length + 1
  if ← take? "\x22\x22\x22" then
    let _ ← newline?
    blockString '\x22' size []
  else if ← take? "\x27\x27\x27" then
    let _ ← newline?
    blockString '\x27' size []
  else lineString (← next) size []

/-! ## Keys -/

/-- The characters of a key without quotes. -/
def isKeyChar (c : Char) : Bool := c.isAlphanum || c == '_' || c == '-'

/-- A key without dots. -/
def simpleKey : Reading String := do
  match ← peek? with
  | some '\x22' => lineString (← next) ((← get).length + 1) []
  | some '\x27' => lineString (← next) ((← get).length + 1) []
  | _ =>
    let cs ← takeWhile isKeyChar
    check (cs != [])
    return String.ofList cs

/-- A key, as the keys between its dots. -/
def dottedKey : Nat → Reading (List String)
  | 0 => refuse
  | fuel + 1 => do
    skipSpace
    let key ← simpleKey
    skipSpace
    if ← take? "." then return key :: (← dottedKey fuel)
    return [key]

/-- How deep values and keys may be nested. -/
def maxDepth : Nat := 80

/-- A key split into the keys before its last dot, and the last one. -/
def splitKey : Reading (List String × String) := do
  let keys ← dottedKey ((← get).length + 1)
  check (keys.length < maxDepth)
  match keys.getLast? with
  | some last => return (keys.dropLast, last)
  | none => refuse

/-! ## Numbers and dates -/

/-- Digits with single lines between them, at least one, without the lines. -/
def digitRun (isDigit : Char → Bool) : List Char → Option (List Char × List Char)
  | [] => none
  | c :: rest =>
    if !isDigit c then none
    else
      match rest with
      | '_' :: more => (digitRun isDigit more).map fun (ds, rest) => (c :: ds, rest)
      | more =>
        match digitRun isDigit more with
        | some (ds, rest) => some (c :: ds, rest)
        | none => if (more.head?).any isDigit then none else some ([c], more)

/-- An optional sign. -/
def takeSign : List Char → Bool × List Char
  | '+' :: rest => (false, rest)
  | '-' :: rest => (true, rest)
  | rest => (false, rest)

/-- The digits before a point: a zero, or digits that do not start with one. -/
def wholeDigits : List Char → Option (List Char × List Char)
  | '0' :: rest => some (['0'], rest)
  | cs => digitRun Char.isDigit cs

/-- The number that digits stand for. -/
def ofDigits (base : Nat) (ds : List Char) : Nat :=
  ds.foldl (fun n d => n * base + (hexDigit? d).getD 0) 0

/-- The least number that rounds to something larger than every double. -/
def overflowLimit : Nat := 1 <<< 1024 - 1 <<< 970

/-- Whether `digits` times ten to the power `exponent` is too large for a double. -/
def overflows (digits : Nat) (exponent : Int) : Bool :=
  if digits = 0 then false
  else if exponent > 400 then true
  else if exponent ≥ 0 then decide (overflowLimit ≤ digits * Nat.pow 10 exponent.toNat)
  else if (Nat.toDigits 10 digits).length < (-exponent).toNat + 300 then false
  else decide (overflowLimit * Nat.pow 10 (-exponent).toNat ≤ digits)

/-- An exponent: its mark, a sign and digits. -/
def takeExponent : List Char → Option (Int × List Char)
  | [] => none
  | c :: rest =>
    if c = 'e' ∨ c = 'E' then
      let (negative, rest) := takeSign rest
      (digitRun Char.isDigit rest).map fun (ds, rest) =>
        let n : Int := ofDigits 10 ds
        (if negative then -n else n, rest)
    else none

/-- A number with a point or an exponent, or one of the two words; what is left behind it. A number
too large for a double is none. -/
def takeFloat? (cs : List Char) : Option (List Char) := do
  let (negative, rest) := takeSign cs
  match "inf".toList.isPrefixOf? rest, "nan".toList.isPrefixOf? rest with
  | some rest, _ => return rest
  | _, some rest => return rest
  | none, none =>
    let (whole, rest) ← wholeDigits rest
    let (parts, rest) ← match rest with
      | '.' :: rest => digitRun Char.isDigit rest
      | rest => some ([], rest)
    let (exponent, raised, rest) := match takeExponent rest with
      | some (n, rest) => (n, true, rest)
      | none => (0, false, rest)
    if parts = [] ∧ !raised then none
    if !negative ∧ overflows (ofDigits 10 (whole ++ parts)) (exponent - parts.length) then none
    return rest

/-- Two digits of a number up to `high`, and at least `low`. -/
def takeTwo (low high : Nat) : List Char → Option (Nat × List Char)
  | a :: b :: rest =>
    let n := (a.toNat - 48) * 10 + (b.toNat - 48)
    if a.isDigit ∧ b.isDigit ∧ low ≤ n ∧ n ≤ high then some (n, rest) else none
  | _ => none

/-- The text behind a character that has to be there. -/
def behind (c : Char) : List Char → Option (List Char)
  | d :: rest => if d = c then some rest else none
  | [] => none

/-- The days of a month. -/
def daysIn (year month : Nat) : Nat :=
  if month = 2 then
    if year % 4 = 0 ∧ (year % 100 ≠ 0 ∨ year % 400 = 0) then 29 else 28
  else if month = 4 ∨ month = 6 ∨ month = 9 ∨ month = 11 then 30
  else 31

/-- A date. -/
def takeDate? (cs : List Char) : Option (List Char) := do
  let (century, rest) ← takeTwo 0 99 cs
  let (years, rest) ← takeTwo 0 99 rest
  let (month, rest) ← takeTwo 1 12 (← behind '-' rest)
  let (_, rest) ← takeTwo 1 (daysIn (century * 100 + years) month) (← behind '-' rest)
  return rest

/-- A time of day, with any fraction of a second. -/
def takeTime? (cs : List Char) : Option (List Char) := do
  let (_, rest) ← takeTwo 0 23 cs
  let (_, rest) ← takeTwo 0 59 (← behind ':' rest)
  let (_, rest) ← takeTwo 0 60 (← behind ':' rest)
  match rest with
  | '.' :: more =>
    match more.takeWhile Char.isDigit with
    | [] => return rest
    | ds => return more.drop ds.length
  | rest => return rest

/-- A distance from universal time, if there is one. -/
def takeOffset (cs : List Char) : List Char :=
  let signed (rest : List Char) : Option (List Char) := do
    let (_, rest) ← takeTwo 0 23 rest
    let (_, rest) ← takeTwo 0 59 (← behind ':' rest)
    return rest
  match cs with
  | 'Z' :: rest => rest
  | 'z' :: rest => rest
  | '+' :: rest => (signed rest).getD cs
  | '-' :: rest => (signed rest).getD cs
  | cs => cs

/-- A date, a time, or both. -/
def takeMoment? (cs : List Char) : Option (List Char) :=
  match takeDate? cs with
  | none => takeTime? cs
  | some rest =>
    match rest with
    | c :: more =>
      if c = 'T' ∨ c = 't' ∨ c = ' ' then
        match takeTime? more with
        | some rest => some (takeOffset rest)
        | none => some rest
      else some rest
    | [] => some []

/-- An integer of 64 bits; with a prefix it is written in another base and has no sign. -/
def takeInteger? (cs : List Char) : Option (Int × List Char) := do
  let based (base : Nat) (isDigit : Char → Bool) (rest : List Char) :
      Option (Int × List Char) := do
    let (ds, rest) ← digitRun isDigit rest
    let n := ofDigits base ds
    if n < 0x8000000000000000 then some (n, rest) else none
  match cs with
  | '0' :: 'x' :: rest => based 16 (fun c => (hexDigit? c).isSome) rest
  | '0' :: 'o' :: rest => based 8 (fun c => '0' ≤ c && c ≤ '7') rest
  | '0' :: 'b' :: rest => based 2 (fun c => c == '0' || c == '1') rest
  | cs =>
    let (negative, rest) := takeSign cs
    let (ds, rest) ← wholeDigits rest
    let n : Int := if negative then -(ofDigits 10 ds) else ofDigits 10 ds
    if -0x8000000000000000 ≤ n ∧ n < 0x8000000000000000 then some (n, rest) else none

/-- A number or a date. -/
def readNumber : Reading Toml := do
  let cs ← get
  match takeMoment? cs, takeFloat? cs, takeInteger? cs with
  | some rest, _, _ => set rest; return .moment
  | none, some rest, _ => set rest; return .float
  | none, none, some (n, rest) => set rest; return .integer n
  | none, none, none => refuse

/-! ## Values -/

/-- The items of an array up to its closing bracket; the last one may have a comma behind it. -/
def arrayItems (item : Reading Toml) : Nat → List Toml → Reading (List Toml)
  | 0, _ => refuse
  | fuel + 1, found => do
    skipLines fuel
    if ← take? "]" then return found.reverse
    let v ← item
    skipLines fuel
    if ← take? "," then arrayItems item fuel (v :: found)
    else
      check (← take? "]")
      return (v :: found).reverse

/-- The entries of a table in braces up to the closing one. -/
def inlineEntries (item : Reading Toml) : Nat → Entries → Reading Entries
  | 0, _ => refuse
  | fuel + 1, found => do
    let (path, key) ← splitKey
    check (← take? "=")
    skipSpace
    let v ← item
    skipSpace
    match addInline path key v found with
    | none => refuse
    | some found =>
      if ← take? "," then inlineEntries item fuel found
      else
        check (← take? "\x7d")
        return found

/-- A value, nested at most so deep. -/
def readValue : Nat → Reading Toml
  | 0 => refuse
  | depth + 1 => do
    let size := (← get).length + 1
    match ← peek? with
    | none => refuse
    | some c =>
      if c = '\x22' ∨ c = '\x27' then return .string (← readString)
      else if c = '[' then
        let _ ← next
        check (depth != 0)
        return .array (← arrayItems (readValue depth) size [])
      else if c = '\x7b' then
        let _ ← next
        check (depth != 0)
        skipSpace
        if ← take? "\x7d" then return .table .inline []
        return .table .inline (← inlineEntries (readValue depth) size [])
      else if ← take? "true" then return .boolean true
      else if ← take? "false" then return .boolean false
      else readNumber

/-! ## Documents -/

/-- What a header or a key with a value does to a document under the last header. -/
def statement (header : List String) (entries : Entries) : Reading (List String × Entries) := do
  let done (header : List String) : Option Entries → Reading (List String × Entries)
    | some entries => return (header, entries)
    | none => refuse
  if ← take? "[[" then
    let (path, key) ← splitKey
    check (← take? "]]")
    done (path ++ [key]) (openNextTable path key entries)
  else if ← take? "[" then
    let (path, key) ← splitKey
    check (← take? "]")
    done (path ++ [key]) (openTable path key entries)
  else
    let (path, key) ← splitKey
    check (← take? "=")
    skipSpace
    let v ← readValue maxDepth
    done header (addBelow header path key v entries)

/-- The lines of a document, one statement at most on each. -/
def lines : Nat → List String → Entries → Reading Entries
  | 0, _, _ => refuse
  | fuel + 1, header, entries => do
    skipSpace
    match ← peek? with
    | none => return entries
    | some c =>
      if c = '#' ∨ c = '\n' ∨ c = '\x0d' then
        endOfLine
        lines fuel header entries
      else
        let (header, entries) ← statement header entries
        endOfLine
        lines fuel header entries

/-- The table that a document describes. A mark of byte order before it is passed over. -/
def parse? (text : String) : Option Toml := do
  let cs := match text.toList with
    | '\ufeff' :: rest => rest
    | cs => cs
  let (entries, _) ← (lines (cs.length + 1) [] []).run cs
  return .table .header entries

end StorageGateway.Toml
