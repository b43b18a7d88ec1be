import StorageGateway.Pattern.Basic

/-!
# Reading patterns

The reader of regular expressions. Flags in effect change how the rest of the enclosing group is
read: `i` case, `m` lines, `s` the dot, `x` blanks and comments, `R` line breaks, `u` Unicode (which
holds unless taken back), `U` greed. A pattern may be refused; then it is none at all. Refused are
look-around, back references, and expressions that are nested too deeply or grow too large.
-/

namespace StorageGateway.Pattern

/-- The flags in effect at a place of a pattern. -/
structure Flags where
  caseless : Bool
  multiLine : Bool
  dotAll : Bool
  crlf : Bool
  /-- Blanks and comments are left out. -/
  spaced : Bool
  unicode : Bool

/-- The flags at the start of a pattern. -/
def Flags.start : Flags := ⟨false, false, false, false, false, true⟩

/-- What is left of a pattern, the flags in effect, and the names of groups met so far. -/
structure State where
  rest : List Char
  flags : Flags
  names : List String

/-- A reader of a part of a pattern. -/
abbrev Reading := StateT State Option

namespace Reading

/-- Refuse the pattern. -/
def refuse {α : Type} : Reading α := fun _ => none

/-- Go on only if a condition holds. -/
def check (condition : Bool) : Reading Unit := if condition then pure () else refuse

/-- The next character, if there is one. -/
def peek? : Reading (Option Char) := return (← get).rest.head?

/-- The character after the next one, if there is one. -/
def peekSecond? : Reading (Option Char) := return (← get).rest.tail.head?

/-- Leave the next character behind. -/
def bump : Reading Unit := modify fun s => { s with rest := s.rest.tail }

/-- Take the next character. -/
def next : Reading Char := do
  match ← peek? with
  | some c => bump; return c
  | none => refuse

/-- Take a text if it comes next. -/
def take? (text : List Char) : Reading Bool := do
  let s ← get
  if text.isPrefixOf s.rest then
    set { s with rest := s.rest.drop text.length }
    return true
  return false

/-- A text behind leading blanks and, from `#` to the end of their lines, comments. -/
def behindComments (inComment : Bool) : List Char → List Char
  | [] => []
  | c :: rest =>
    if inComment then behindComments (c != '\n') rest
    else if Text.isBlank c then behindComments false rest
    else if c = '#' then behindComments true rest
    else c :: rest

/-- Skip what the flag `x` leaves out. -/
def skip : Reading Unit := modify fun s =>
  if s.flags.spaced then { s with rest := behindComments false s.rest } else s

/-- Leave the next character behind and skip; there has to be something left. -/
def advance : Reading Unit := do
  bump
  skip
  check (← peek?).isSome

end Reading

open Reading

/-! ## Escapes -/

/-- What an escape or a plain character stands for. -/
inductive Atom where
  | char (n : Nat)
  /-- A code unit given by two hexadecimal digits. -/
  | byte (n : Nat)
  | set (s : CharSet)
  | look (l : Look)

/-- The value of a hexadecimal digit. -/
def hexDigit? (c : Char) : Option Nat :=
  if c.isDigit then some (c.toNat - 48)
  else if 'a' ≤ c ∧ c ≤ 'f' then some (c.toNat - 87)
  else if 'A' ≤ c ∧ c ≤ 'F' then some (c.toNat - 55)
  else none

/-- The number of hexadecimal digits. -/
def hexNumber? (cs : List Char) : Option Nat :=
  cs.foldlM (fun n c => (hexDigit? c).map (n * 16 + ·)) 0

/-- Whether a number is a code point and no surrogate. -/
def isScalar (n : Nat) : Bool := n < 0xD800 || (0xE000 ≤ n && n < 0x110000)

/-- A code point by a fixed number of digits. -/
def fixedHex : Nat → List Char → Reading Nat
  | 0, digits => do
    match hexNumber? digits.reverse with
    | some n => check (isScalar n); return n
    | none => refuse
  | count + 1, digits => do
    skip
    fixedHex count ((← next) :: digits)

/-- The characters up to a closing brace, which is taken too. -/
def toBrace : Nat → List Char → Reading (List Char)
  | 0, _ => refuse
  | fuel + 1, found => do
    skip
    match ← next with
    | '\x7d' => return found.reverse
    | c => toBrace fuel (c :: found)

/-- A code point in hexadecimal: in braces, or in as many digits as the letter asks for. -/
def hexEscape (letter : Char) : Reading Atom := do
  skip
  if ← take? ['\x7b'] then
    let digits ← toBrace (← get).rest.length []
    match digits, hexNumber? digits with
    | _ :: _, some n => check (isScalar n); return .char n
    | _, _ => refuse
  else
    match letter with
    | 'x' => return .byte (← fixedHex 2 [])
    | 'u' => return .char (← fixedHex 4 [])
    | _ => return .char (← fixedHex 8 [])

/-- The name of a property in lower case, without blanks, lines and a leading `is`. -/
def plainName (cs : List Char) : String :=
  let kept := (cs.filter fun c => !(c == ' ' || c == '_' || c == '-')).map Char.toLower
  match cs, kept with
  | a :: b :: _, 'i' :: 's' :: rest =>
    if a.toLower = 'i' ∧ b.toLower = 's' ∧ rest ≠ ['c'] then String.ofList rest
    else String.ofList kept
  | _, _ => String.ofList kept

/-- The names of general categories, each with the codes it stands for. -/
def categoryNames : List (List String × List String) :=
  [(["lu", "uppercaseletter"], ["Lu"]), (["ll", "lowercaseletter"], ["Ll"]),
    (["lt", "titlecaseletter"], ["Lt"]), (["lc", "casedletter"], ["Lu", "Ll", "Lt"]),
    (["lm", "modifierletter"], ["Lm"]), (["lo", "otherletter"], ["Lo"]),
    (["l", "letter"], ["Lu", "Ll", "Lt", "Lm", "Lo"]),
    (["mn", "nonspacingmark"], ["Mn"]), (["mc", "spacingmark"], ["Mc"]),
    (["me", "enclosingmark"], ["Me"]), (["m", "mark", "combiningmark"], ["Mn", "Mc", "Me"]),
    (["nd", "decimalnumber", "digit"], ["Nd"]), (["nl", "letternumber"], ["Nl"]),
    (["no", "othernumber"], ["No"]), (["n", "number"], ["Nd", "Nl", "No"]),
    (["pc", "connectorpunctuation"], ["Pc"]), (["pd", "dashpunctuation"], ["Pd"]),
    (["ps", "openpunctuation"], ["Ps"]), (["pe", "closepunctuation"], ["Pe"]),
    (["pi", "initialpunctuation"], ["Pi"]), (["pf", "finalpunctuation"], ["Pf"]),
    (["po", "otherpunctuation"], ["Po"]),
    (["p", "punctuation", "punct"], ["Pc", "Pd", "Ps", "Pe", "Pi", "Pf", "Po"]),
    (["sm", "mathsymbol"], ["Sm"]), (["sc", "currencysymbol"], ["Sc"]),
    (["sk", "modifiersymbol"], ["Sk"]), (["so", "othersymbol"], ["So"]),
    (["s", "symbol"], ["Sm", "Sc", "Sk", "So"]),
    (["zs", "spaceseparator"], ["Zs"]), (["zl", "lineseparator"], ["Zl"]),
    (["zp", "paragraphseparator"], ["Zp"]), (["z", "separator"], ["Zs", "Zl", "Zp"]),
    (["cc", "control", "cntrl"], ["Cc"]), (["cf", "format"], ["Cf"]),
    (["cn", "unassigned"], ["Cn"]), (["co", "privateuse"], ["Co"]),
    (["c", "other"], ["Cc", "Cf", "Cn", "Co", "Cs"])]

/-- The set of a general category. -/
def categorySet? (name : String) : Option CharSet :=
  match name with
  | "any" => some .all
  | "assigned" => some ((CharSet.having (.category ["Cn"])).complement 0x10FFFF)
  | "ascii" => some (.range 0 0x7F)
  | _ => (categoryNames.find? fun (names, _) => names.contains name).map fun (_, codes) =>
    .having (.category codes)

/-- The set of a script. -/
def scriptSet? (name : String) : Option CharSet :=
  (Unicode.scriptCode? name).map fun code => .having (.script code)

/-- The set of a property with two values. -/
def binarySet? (name : String) : Option CharSet :=
  match name with
  | "alphabetic" | "alpha" => some (.having .alphabetic)
  | "lowercase" | "lower" => some (.having .lowercase)
  | "uppercase" | "upper" => some (.having .uppercase)
  | "whitespace" | "wspace" | "space" => some (.having .whiteSpace)
  | "asciihexdigit" | "ahex" => some (.ofRanges [(48, 57), (65, 70), (97, 102)])
  | "hexdigit" | "hex" =>
    some (.ofRanges [(48, 57), (65, 70), (97, 102), (0xFF10, 0xFF19), (0xFF21, 0xFF26),
      (0xFF41, 0xFF46)])
  | "joincontrol" | "joinc" => some (.range 0x200C 0x200D)
  | _ => none

/-- The set that the text in the braces of a property names: a property, a general category or a
script, or one of the last two with the name of its kind in front. -/
def propertySet? (cs : List Char) : Option (CharSet × Bool) :=
  match Text.split (fun c => c == '=' || c == ':') cs with
  | [name] =>
    let name := plainName name
    (((binarySet? name).or (categorySet? name)).or (scriptSet? name)).map (·, false)
  | [kind, value] =>
    let negated := cs.any (· == '=') && kind.getLast? == some '!'
    let kind := plainName (if negated then kind.dropLast else kind)
    let value := plainName value
    let found :=
      if kind = "generalcategory" ∨ kind = "gc" then categorySet? value
      else if kind = "script" ∨ kind = "sc" ∨ kind = "scriptextensions" ∨ kind = "scx" then
        scriptSet? value
      else none
    found.map (·, negated)
  | _ => none

/-- A set closed under the flags: case, then negation. -/
def close (flags : Flags) (negated : Bool) (s : CharSet) : Reading CharSet := do
  if flags.unicode then
    let s := if flags.caseless then CharSet.caseless s else s
    return if negated then s.complement 0x10FFFF else s
  else
    let s := if flags.caseless then CharSet.asciiCaseless s else s
    let s := if negated then s.complement 0xFF else s
    check s.isAscii
    return s

/-- A property in braces, or of one letter. -/
def propertyEscape (negated : Bool) : Reading Atom := do
  skip
  let flags := (← get).flags
  let cs ← if ← take? ['\x7b'] then toBrace (← get).rest.length [] else do
    let c ← next
    check (c != '\x5c')
    pure [c]
  match propertySet? cs with
  | some (s, inverse) =>
    check flags.unicode
    return .set (← close flags (negated != inverse) s)
  | none => refuse

/-- The digits, blanks or word characters, or all but those. -/
def classEscape (letter : Char) (flags : Flags) : Reading Atom := do
  let negated := letter.isUpper
  let s : CharSet :=
    match letter.toLower, flags.unicode with
    | 'd', true => .having (.category ["Nd"])
    | 's', true => .having .whiteSpace
    | _, true => .having .word
    | 'd', false => .range 48 57
    | 's', false => .ofRanges [(9, 13), (32, 32)]
    | _, false => .ofRanges [(48, 57), (65, 90), (95, 95), (97, 122)]
  return .set (← close { flags with caseless := false } negated s)

/-- A kind of word boundary in braces. Braces that start otherwise are left to count a
repetition. -/
def boundaryKind (ascii : Bool) : Reading Atom := do
  let s ← get
  if ← take? ['\x7b'] then
    skip
    match ← peek? with
    | none => refuse
    | some c =>
      if c.isAlpha || c == '-' then
        let kind ← toBrace (← get).rest.length []
        match String.ofList kind with
        | "start" => return .look (.wordStart ascii)
        | "end" => return .look (.wordEnd ascii)
        | "start-half" => return .look (.wordStartHalf ascii)
        | "end-half" => return .look (.wordEndHalf ascii)
        | _ => refuse
      else
        set s
        return .look (.wordEdge ascii)
  else return .look (.wordEdge ascii)

/-- What an escape stands for, from behind its backslash. -/
def escape : Reading Atom := do
  let flags := (← get).flags
  let c ← next
  match c with
  | 'x' | 'u' | 'U' => hexEscape c
  | 'p' => propertyEscape false
  | 'P' => propertyEscape true
  | 'd' | 's' | 'w' | 'D' | 'S' | 'W' => classEscape c flags
  | 'a' => return .char 7
  | 'f' => return .char 12
  | 't' => return .char 9
  | 'n' => return .char 10
  | 'r' => return .char 13
  | 'v' => return .char 11
  | 'A' => return .look .textStart
  | 'z' => return .look .textEnd
  | 'b' => boundaryKind (!flags.unicode)
  | 'B' => return .look (.noWordEdge (!flags.unicode))
  | '<' => return .look (.wordStart (!flags.unicode))
  | '>' => return .look (.wordEnd (!flags.unicode))
  | _ =>
    check (c.toNat < 128 && !c.isAlphanum)
    return .char c.toNat

/-! ## Bracketed classes -/

/-- How two parts of a class are combined. -/
inductive ClassOp where
  | intersection
  | difference
  | symmetricDifference

/-- Two parts of a class combined. -/
def ClassOp.combine (flags : Flags) (op : ClassOp) (s t : CharSet) : CharSet :=
  let closed (s : CharSet) : CharSet :=
    if !flags.caseless then s else if flags.unicode then .caseless s else .asciiCaseless s
  let s := closed s
  let t := closed t
  match op with
  | .intersection => .intersection s t
  | .difference => .difference s t
  | .symmetricDifference => .union (.difference s t) (.difference t s)

/-- The part read so far, combined with the parts before it. -/
def combinePending (flags : Flags) (pending : Option (ClassOp × CharSet)) (s : CharSet) :
    CharSet :=
  match pending with
  | none => s
  | some (op, before) => op.combine flags before s

/-- The set of a class that is named in brackets and colons. -/
def namedClass? : String → Option CharSet
  | "alnum" => some (.ofRanges [(48, 57), (65, 90), (97, 122)])
  | "alpha" => some (.ofRanges [(65, 90), (97, 122)])
  | "ascii" => some (.range 0 127)
  | "blank" => some (.ofRanges [(9, 9), (32, 32)])
  | "cntrl" => some (.ofRanges [(0, 31), (127, 127)])
  | "digit" => some (.range 48 57)
  | "graph" => some (.range 33 126)
  | "lower" => some (.range 97 122)
  | "print" => some (.range 32 126)
  | "punct" => some (.ofRanges [(33, 47), (58, 64), (91, 96), (123, 126)])
  | "space" => some (.ofRanges [(9, 13), (32, 32)])
  | "upper" => some (.range 65 90)
  | "word" => some (.ofRanges [(48, 57), (65, 90), (95, 95), (97, 122)])
  | "xdigit" => some (.ofRanges [(48, 57), (65, 70), (97, 102)])
  | _ => none

/-- A named class, if one starts here. -/
def namedClass : Reading (Option CharSet) := do
  let s ← get
  match s.rest with
  | '[' :: ':' :: rest =>
    let (negated, rest) := match rest with
      | '^' :: rest => (true, rest)
      | rest => (false, rest)
    let name := rest.takeWhile (· != ':')
    match rest.drop name.length, namedClass? (String.ofList name) with
    | ':' :: ']' :: rest, some found =>
      set { s with rest }
      return some (← close s.flags negated found)
    | _, _ => return none
  | _ => return none

/-- A single item of a class. -/
def classItem : Reading Atom := do
  match ← next with
  | '\x5c' => escape
  | c => return .char c.toNat

/-- The code point of an item that can bound a range. -/
def bound (flags : Flags) : Atom → Reading Nat
  | .char n => do
    check (flags.unicode || n < 128)
    return n
  | .byte n => return n
  | _ => refuse

/-- The set of an item. -/
def itemSet (flags : Flags) : Atom → Reading CharSet
  | .set s => return s
  | .look _ => refuse
  | item => do return .single (← bound flags item)

/-- An item or a range of items. A line before the closing bracket or before another line does not
make a range. -/
def classRange : Reading CharSet := do
  let flags := (← get).flags
  let low ← classItem
  skip
  match ← peek? with
  | none => refuse
  | some '-' =>
    let behind := (← get).rest.tail
    let behind := if flags.spaced then behindComments false behind else behind
    if behind.head? = some ']' ∨ behind.head? = some '-' then itemSet flags low
    else
      advance
      let high ← classItem
      let low ← bound flags low
      let high ← bound flags high
      check (low ≤ high)
      return .range low high
  | some _ => itemSet flags low

/-- The lines at the start of a class, which stand for themselves. -/
def leadingLines : Nat → CharSet → Reading CharSet
  | 0, s => return s
  | fuel + 1, s => do
    if (← peek?) == some '-' then
      advance
      leadingLines fuel (.union s (.single 45))
    else return s

/-- The start of a class from its bracket on: whether it is negated, and what it holds already. -/
def classStart : Reading (Bool × CharSet) := do
  advance
  let negated := (← peek?) == some '^'
  if negated then advance
  let lines ← leadingLines (← get).rest.length .empty
  match lines, ← peek? with
  | .empty, some ']' =>
    advance
    return (negated, .single 93)
  | _, _ => return (negated, lines)

/-- The rest of a class: what stands in this bracket so far, and what is to be combined with it.
The number bounds the steps. -/
def classBody (negated : Bool) : Nat → Option (ClassOp × CharSet) → CharSet → Reading CharSet
  | 0, _, _ => refuse
  | fuel + 1, pending, s => do
    skip
    let flags := (← get).flags
    match ← peek? with
    | none => refuse
    | some '[' =>
      match ← namedClass with
      | some found => classBody negated fuel pending (.union s found)
      | none =>
        let (inner, held) ← classStart
        let nested ← classBody inner fuel none held
        classBody negated fuel pending (.union s nested)
    | some ']' =>
      bump
      close flags negated (combinePending flags pending s)
    | some c =>
      let op? : Option ClassOp :=
        if (← peekSecond?) == some c then
          match c with
          | '&' => some .intersection
          | '-' => some .difference
          | '~' => some .symmetricDifference
          | _ => none
        else none
      match op? with
      | some op =>
        bump
        bump
        classBody negated fuel (some (op, combinePending flags pending s)) .empty
      | none => classBody negated fuel pending (.union s (← classRange))

/-- A class in brackets. -/
def bracketed : Reading CharSet := do
  let (negated, held) ← classStart
  classBody negated ((← get).rest.length + 1) none held

/-! ## Repetition -/

/-- The number at this place, with blanks around it. -/
def decimal : Reading Nat := do
  modify fun s => { s with rest := s.rest.dropWhile Text.isBlank }
  let rec digits (found : Nat) : Nat → Reading Nat
    | 0 => return found
    | fuel + 1 => do
      match ← peek? with
      | some c =>
        if c.isDigit then
          bump
          skip
          let n := found * 10 + (c.toNat - 48)
          check (n < 0x100000000)
          digits n fuel
        else return found
      | none => return found
  check ((← peek?).any Char.isDigit)
  let n ← digits 0 (← get).rest.length
  modify fun s => { s with rest := s.rest.dropWhile Text.isBlank }
  return n

/-- The bounds of a repetition from its opening brace on, with the closing one. -/
def counts : Reading (Nat × Option Nat) := do
  advance
  let min ← decimal
  match ← peek? with
  | some ',' =>
    advance
    if ← take? ['\x7d'] then return (min, none)
    let max ← decimal
    check (← take? ['\x7d'])
    check (min ≤ max)
    return (min, some max)
  | _ =>
    check (← take? ['\x7d'])
    return (min, some min)

/-! ## Groups -/

/-- Whether a character can stand in the name of a group. -/
def isNameChar (first : Bool) (c : Char) : Bool :=
  c == '_' || Property.holds .alphabetic c.toNat ||
    (!first && (c == '.' || c == '[' || c == ']' ||
      Property.holds (.category ["Nd", "Nl", "No"]) c.toNat))

/-- The name of a group up to its closing angle. -/
def groupName : Reading Unit := do
  let s ← get
  let name := s.rest.takeWhile (· != '>')
  let rest := s.rest.drop name.length
  check (rest.head? == some '>')
  match name with
  | [] => refuse
  | first :: others =>
    check (isNameChar true first && others.all (isNameChar false))
    let name := String.ofList name
    check (!s.names.contains name)
    set { s with rest := rest.tail, names := name :: s.names }

/-- The flags with one of them set or taken back. -/
def Flags.put (f : Flags) (letter : Char) (on : Bool) : Option Flags :=
  match letter with
  | 'i' => some { f with caseless := on }
  | 'm' => some { f with multiLine := on }
  | 's' => some { f with dotAll := on }
  | 'R' => some { f with crlf := on }
  | 'x' => some { f with spaced := on }
  | 'u' => some { f with unicode := on }
  | 'U' => some f
  | _ => none

/-- A change of flags up to the colon or parenthesis behind it. No flag stands twice, and a minus
stands once and before a flag. -/
def flagChange : Nat → List Char → Flags → Reading Flags
  | 0, _, _ => refuse
  | fuel + 1, seen, flags => do
    match ← peek? with
    | none => refuse
    | some c =>
      if c = ':' ∨ c = ')' then
        check (seen.head? != some '-')
        return flags
      else
        bump
        check (!seen.contains c)
        if c = '-' then flagChange fuel (c :: seen) flags
        else
          match flags.put c (!seen.contains '-') with
          | some flags => flagChange fuel (c :: seen) flags
          | none => refuse

/-- How a parenthesis goes on. -/
inductive Opening where
  | group
  | flags (f : Flags)

/-- The start of a group from behind its parenthesis, with the flags set that hold in it; or a
change of flags for what follows. -/
def opening : Reading Opening := do
  skip
  for look in ["?=", "?!", "?<=", "?<!"] do
    check (!look.toList.isPrefixOf (← get).rest)
  if (← take? "?P<".toList) || (← take? "?<".toList) then
    groupName
    return .group
  else if ← take? ['?'] then
    let s ← get
    let changed ← flagChange (s.rest.length + 1) [] s.flags
    if ← take? [')'] then
      check (s.rest.head? != some ')')
      return .flags changed
    bump
    modify fun s => { s with flags := changed }
    return .group
  else return .group

/-! ## Expressions -/

/-- A part of a concatenation. -/
structure Item where
  expr : Expr
  /-- How deep its parts are nested. -/
  depth : Nat
  /-- Whether it can be repeated; a change of flags cannot. -/
  repeatable : Bool

/-- A character under the flags in effect. -/
def charExpr (flags : Flags) (n : Nat) : Expr :=
  .char <|
    if !flags.caseless then .single n
    else if flags.unicode then .caseless (.single n)
    else .asciiCaseless (.single n)

/-- What an atom stands for outside a class. -/
def atomExpr (flags : Flags) : Atom → Reading Expr
  | .char n => return charExpr flags n
  | .byte n => do
    check (flags.unicode || n < 128)
    return charExpr flags n
  | .set s => return .char s
  | .look l => return .look l

/-- The dot under the flags in effect. -/
def dotExpr (flags : Flags) : Reading Expr := do
  check flags.unicode
  return .char <|
    if flags.dotAll then .all
    else if flags.crlf then .difference .all (.ofRanges [(10, 10), (13, 13)])
    else .difference .all (.single 10)

/-- Items one after another, the last one first. -/
def concat (items : List Item) : Item :=
  match items with
  | [] => ⟨.empty, 0, true⟩
  | [item] => { item with repeatable := true }
  | items =>
    ⟨(items.map Item.expr).foldl (fun after before => .seq before after) .empty,
      1 + (items.map Item.depth).foldl max 0, true⟩

/-- Alternatives, the last one first. -/
def alternation : List Item → Item
  | [] => ⟨.empty, 0, true⟩
  | [item] => item
  | last :: items =>
    ⟨(items.map Item.expr).foldl (fun later earlier => .alt earlier later) last.expr,
      1 + ((last :: items).map Item.depth).foldl max 0, true⟩

/-- The last item repeated. -/
def repeatLast (min : Nat) (max : Option Nat) : List Item → Reading (List Item)
  | [] => refuse
  | item :: items => do
    check item.repeatable
    let _ ← take? ['?']
    return ⟨item.expr.repeated min max, item.depth + 1, true⟩ :: items

/-- Alternatives up to the end of the pattern or of the group, given those before and the items of
the present one, both last first. The number bounds the steps. -/
def body : Nat → List Item → List Item → Reading Item
  | 0, _, _ => refuse
  | fuel + 1, before, items => do
    skip
    let flags := (← get).flags
    let single (expr : Expr) (depth : Nat) := body fuel before (⟨expr, depth, true⟩ :: items)
    match ← peek? with
    | none => return alternation (concat items :: before)
    | some ')' => return alternation (concat items :: before)
    | some '|' => bump; body fuel (concat items :: before) []
    | some '(' =>
      bump
      match ← opening with
      | .flags changed =>
        modify fun s => { s with flags := changed }
        body fuel before (⟨.empty, 0, false⟩ :: items)
      | .group =>
        let inner ← body fuel [] []
        check (← take? [')'])
        modify fun s => { s with flags }
        single inner.expr (inner.depth + 1)
    | some '[' => single (.char (← bracketed)) 1
    | some '?' => bump; body fuel before (← repeatLast 0 (some 1) items)
    | some '*' => bump; body fuel before (← repeatLast 0 none items)
    | some '+' => bump; body fuel before (← repeatLast 1 none items)
    | some '\x7b' =>
      check (items.head?.any Item.repeatable)
      let (min, max) ← counts
      body fuel before (← repeatLast min max items)
    | some '\x5c' =>
      bump
      single (← atomExpr flags (← escape)) 0
    | some '.' => bump; single (← dotExpr flags) 0
    | some '^' =>
      bump
      single (.look (if flags.multiLine then .lineStart flags.crlf else .textStart)) 0
    | some '$' =>
      bump
      single (.look (if flags.multiLine then .lineEnd flags.crlf else .textEnd)) 0
    | some c => bump; single (charExpr flags c.toNat) 0

/-- How deep a pattern may be nested. -/
def maxDepth : Nat := 250

/-- How much memory an automaton for a pattern may take. -/
def maxCost : Nat := 10 * 1024 * 1024

/-- The expression of a pattern, if it is one. -/
def parse? (pattern : List Char) : Option Expr := do
  let (item, state) ← (body (pattern.length + 1) [] []).run ⟨pattern, .start, []⟩
  if state.rest = [] ∧ item.depth ≤ maxDepth ∧ item.expr.cost ≤ maxCost then some item.expr
  else none

end StorageGateway.Pattern
