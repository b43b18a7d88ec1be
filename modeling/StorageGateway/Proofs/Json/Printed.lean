import Mathlib.Data.List.TakeDrop
import StorageGateway.Account.Record

/-!
# Printed JSON reads back

A store keeps scopes and role ids as JSON texts. Each text that the printer writes is taken in by
the reader without loss: string literals unit by unit, numbers digit by digit, and then objects and
arrays part by part. Main statements: `scopesOfText?_scopesText` and `roleIdsOfText?_roleIdsText`.
-/

namespace StorageGateway.Json

/-! ## String literals -/

theorem hexValue?_hexDigit : ∀ n < 16, hexValue? (hexDigit n) = some n := by decide

/-- The unit of a character below 32 is read from the last two of its four digits. -/
theorem hexValue4?_control {n : Nat} (h : n < 0x20) :
    hexValue4? '0' '0' (hexDigit (n / 16)) (hexDigit (n % 16)) = some n := by
  have high := hexValue?_hexDigit (n / 16) (by omega)
  have low := hexValue?_hexDigit (n % 16) (by omega)
  have zero : hexValue? '0' = some 0 := by decide
  simp only [hexValue4?, high, low, zero, Option.bind_eq_bind, Option.bind_some, pure,
    Option.some.injEq]
  omega

/-- A character that needs no escape is read as it stands. -/
theorem readUnits_plain {c : Char} (quote : c ≠ '\x22') (backslash : c ≠ '\x5c')
    (visible : ¬ c.toNat < 0x20) (rest : List Char) :
    readUnits (c :: rest) = (readUnits rest).map fun p => (c.toNat :: p.1, p.2) := by
  rw [readUnits.eq_def]
  split
  · contradiction
  · simp_all
  · simp_all
  · simp_all
  · next first others _ _ _ same =>
    obtain ⟨rfl, rfl⟩ := List.cons.inj same
    rw [if_neg (by simp [visible, backslash])]
    cases readUnits rest <;> rfl

/-- A one-letter escape is read as the character that it stands for. -/
theorem readUnits_letter {letter c : Char} (known : escaped? letter = some c) (plain : letter ≠ 'u')
    (rest : List Char) :
    readUnits ('\x5c' :: letter :: rest) =
      (readUnits rest).map fun p => (c.toNat :: p.1, p.2) := by
  rw [readUnits.eq_def]
  split
  · contradiction
  · simp_all
  · simp_all
  · next other others _ same =>
    obtain ⟨rfl, rfl⟩ : letter = other ∧ rest = others := by simpa using same
    simp only [known]
    cases readUnits rest <;> rfl
  · next distinct same =>
    obtain ⟨rfl, rfl⟩ := List.cons.inj same
    exact absurd rfl (distinct letter rest rfl)

/-- Whatever stands for a character in a literal is read as the unit of the character. -/
theorem readUnits_escape (c : Char) (rest : List Char) :
    readUnits (escape c ++ rest) = (readUnits rest).map fun p => (c.toNat :: p.1, p.2) := by
  unfold escape
  split
  · next h => subst h; exact readUnits_letter rfl (by decide) rest
  split
  · next h => subst h; exact readUnits_letter rfl (by decide) rest
  split
  · next h => subst h; exact readUnits_letter rfl (by decide) rest
  split
  · next h => subst h; exact readUnits_letter rfl (by decide) rest
  split
  · next h => subst h; exact readUnits_letter rfl (by decide) rest
  split
  · next h => subst h; exact readUnits_letter rfl (by decide) rest
  split
  · next h => subst h; exact readUnits_letter rfl (by decide) rest
  split
  · next control =>
    simp only [List.cons_append, List.nil_append]
    rw [readUnits, hexValue4?_control control]
    cases readUnits rest <;> rfl
  · next quote backslash _ _ _ _ _ visible =>
    exact readUnits_plain quote backslash visible rest

/-- A printed literal is read as the units of its characters. -/
theorem readUnits_flatMap_escape (cs rest : List Char) :
    readUnits (cs.flatMap escape ++ '\x22' :: rest) = some (cs.map Char.toNat, rest) := by
  induction cs with
  | nil => rw [List.flatMap_nil, List.nil_append, readUnits, List.map_nil]
  | cons c cs ih =>
    rw [List.flatMap_cons, List.append_assoc, readUnits_escape, ih]
    rfl

/-- No character lies among the surrogates. -/
theorem not_surrogate (c : Char) : ¬ (0xD800 ≤ c.toNat ∧ c.toNat < 0xE000) := by
  have valid : c.toNat < 0xD800 ∨ (0xDFFF < c.toNat ∧ c.toNat < 0x110000) := c.valid
  omega

/-- The units of characters are paired up to these characters. -/
theorem ofUnits?_map_toNat (cs : List Char) : ofUnits? (cs.map Char.toNat) = some cs := by
  induction cs with
  | nil => rfl
  | cons c cs ih =>
    have single := not_surrogate c
    cases cs with
    | nil =>
      rw [List.map_cons, List.map_nil, ofUnits?, if_neg single, Char.ofNat_toNat]
    | cons d ds =>
      rw [List.map_cons] at ih ⊢
      rw [List.map_cons, ofUnits?, if_neg (by omega), if_neg single, ih, Option.map_some,
        Char.ofNat_toNat]

theorem readString_printed (s : String) (rest : List Char) :
    readString (s.toList.flatMap escape ++ '\x22' :: rest) = some (some s, rest) := by
  simp [readString, readUnits_flatMap_escape, ofUnits?_map_toNat]

/-! ## Numbers -/

/-- A text that goes on with something else than a digit, a point or an exponent. -/
def EndsNumber (rest : List Char) : Prop :=
  ∀ c ∈ rest.head?, c.isDigit = false ∧ c ≠ '.' ∧ c ≠ 'e' ∧ c ≠ 'E'

theorem spanDigits_append {digits rest : List Char} (all : ∀ c ∈ digits, c.isDigit = true)
    (ends : EndsNumber rest) : spanDigits (digits ++ rest) = (digits, rest) := by
  rw [spanDigits, List.span_eq_takeWhile_dropWhile, List.takeWhile_append_of_pos all,
    List.dropWhile_append_of_pos all]
  cases rest with
  | nil => simp
  | cons c rest =>
    have stop := (ends c rfl).1
    simp [stop]

theorem ofDigits_toDigits (n : Nat) : ofDigits (Nat.toDigits 10 n) = n := by
  have read := Nat.ofDigitChars_ten_toDigits (n := n)
  rw [Nat.ofDigitChars_eq_foldl] at read
  rw [ofDigits]
  convert read using 3 with value digit
  rw [Nat.mul_comm]
  rfl

/-- Only zero is printed with a zero in front. -/
theorem head?_toDigits {n : Nat} (positive : 0 < n) : (Nat.toDigits 10 n).head? ≠ some '0' := by
  induction n using Nat.base_induction 10 (by decide) with
  | single m small =>
    rw [Nat.toDigits_of_lt_base small]
    simp only [List.head?_cons, ne_eq, Option.some.injEq, Nat.digitChar_eq_zero]
    omega
  | digit m k small large ih =>
    rw [← Nat.toDigits_append_toDigits (by decide) large small,
      List.head?_append, Option.or_of_isSome (by simp [Nat.toDigits_ne_nil])]
    exact ih large

/-- No number is printed with a superfluous zero in front. -/
theorem toDigits_not_padded (n : Nat) :
    ¬ ((Nat.toDigits 10 n).head? = some '0' ∧ (Nat.toDigits 10 n).length > 1) := by
  rintro ⟨zero, long⟩
  rcases Nat.eq_zero_or_pos n with rfl | positive
  · simp at long
  · exact head?_toDigits positive zero

theorem readFraction_of_ends {rest : List Char} (ends : EndsNumber rest) :
    readFraction rest = some (false, rest) := by
  cases rest with
  | nil => rfl
  | cons c rest =>
    have point := (ends c rfl).2.1
    rw [readFraction]
    rintro others same
    exact point (List.cons.inj same).1

theorem readExponent_of_ends {rest : List Char} (ends : EndsNumber rest) :
    readExponent rest = some (false, rest) := by
  cases rest with
  | nil => rfl
  | cons c rest =>
    obtain ⟨-, -, lower, upper⟩ := ends c rfl
    rw [readExponent.eq_def]
    simp [lower, upper]

theorem readNumber_toDigits (n : Nat) {rest : List Char} (ends : EndsNumber rest) :
    readNumber false (Nat.toDigits 10 n ++ rest) = some (integer n, rest) := by
  have digits := fun c (h : c ∈ Nat.toDigits 10 n) =>
    Nat.isDigit_of_mem_toDigits (by decide) (by decide) h
  have wellFormed := toDigits_not_padded n
  simp [readNumber, spanDigits_append digits ends, readFraction_of_ends ends,
    readExponent_of_ends ends, ofDigits_toDigits, Nat.toDigits_ne_nil, wellFormed]

/-! ## Values -/

theorem skipSpace_cons {c : Char} (visible : isSpace c = false) (rest : List Char) :
    skipSpace (c :: rest) = c :: rest := by
  simp [skipSpace, visible]

/-- A text that starts neither with a blank nor with the end of an array. -/
def StartsItem (text : List Char) : Prop :=
  ∃ c rest, text = c :: rest ∧ isSpace c = false ∧ c ≠ ']'

theorem StartsItem.skipSpace_append {text : List Char} (h : StartsItem text)
    (rest : List Char) : skipSpace (text ++ rest) = text ++ rest := by
  obtain ⟨c, others, rfl, visible, -⟩ := h
  exact skipSpace_cons visible _

theorem startsItem_printString (s : String) : StartsItem (printString s) :=
  ⟨'\x22', _, rfl, rfl, by decide⟩

theorem startsItem_toDigits (n : Nat) : StartsItem (Nat.toDigits 10 n) := by
  cases shape : Nat.toDigits 10 n with
  | nil => exact absurd shape Nat.toDigits_ne_nil
  | cons c rest =>
    have digit : c.isDigit = true :=
      Nat.isDigit_of_mem_toDigits (by decide) (by decide) (shape ▸ List.mem_cons_self)
    refine ⟨c, rest, rfl, ?_, ?_⟩
    · simp only [isSpace, Bool.or_eq_false_iff, beq_eq_false_iff_ne]
      refine ⟨⟨⟨?_, ?_⟩, ?_⟩, ?_⟩ <;> rintro rfl <;> simp at digit
    · rintro rfl
      simp at digit

theorem printString_append (s : String) (rest : List Char) :
    printString s ++ rest = '\x22' :: (s.toList.flatMap escape ++ '\x22' :: rest) := by
  simp [printString]

theorem readValue_printString (fuel : Nat) (s : String) (rest : List Char) :
    readValue (fuel + 1) (printString s ++ rest) = some (string (some s), rest) := by
  rw [printString_append]
  simp [readValue, readString_printed]

theorem readValue_toDigits (fuel n : Nat) {rest : List Char} (ends : EndsNumber rest) :
    readValue (fuel + 1) (Nat.toDigits 10 n ++ rest) = some (integer n, rest) := by
  have number := readNumber_toDigits n ends
  cases shape : Nat.toDigits 10 n with
  | nil => exact absurd shape Nat.toDigits_ne_nil
  | cons c others =>
    have digit : c.isDigit = true :=
      Nat.isDigit_of_mem_toDigits (by decide) (by decide) (shape ▸ List.mem_cons_self)
    rw [shape] at number
    rw [readValue.eq_def]
    simp only [List.cons_append] at number ⊢
    split <;> simp_all

/-- A member that is the last one of its object. -/
theorem readMembers_last (key : String) {fuel : Nat} {text rest : List Char} {value : Json}
    (starts : StartsItem text)
    (reads : readValue fuel (text ++ '\x7d' :: rest) = some (value, '\x7d' :: rest)) :
    readMembers (fuel + 1) (printString key ++ ':' :: (text ++ '\x7d' :: rest)) =
      some ([(some key, value)], rest) := by
  rw [printString_append]
  simp only [readMembers, readString_printed, skipSpace_cons (c := ':') (by decide),
    starts.skipSpace_append, reads, skipSpace_cons (c := '\x7d') (by decide),
    Option.bind_eq_bind, Option.bind_some, pure]

/-- A member with others behind it. -/
theorem readMembers_cons (key : String) {fuel : Nat} {text others rest : List Char}
    {value : Json} {members : List (Option String × Json)}
    (starts : StartsItem text) (goesOn : skipSpace others = others)
    (reads : readValue fuel (text ++ ',' :: others) = some (value, ',' :: others))
    (more : readMembers fuel others = some (members, rest)) :
    readMembers (fuel + 1) (printString key ++ ':' :: (text ++ ',' :: others)) =
      some ((some key, value) :: members, rest) := by
  rw [printString_append]
  simp only [readMembers, readString_printed, skipSpace_cons (c := ':') (by decide),
    starts.skipSpace_append, reads, skipSpace_cons (c := ',') (by decide),
    Option.bind_eq_bind, Option.bind_some, pure, goesOn, more]

theorem startsItem_separated {first : List Char} (starts : StartsItem first)
    (others : List (List Char)) : StartsItem (separated (first :: others)) := by
  obtain ⟨c, rest, rfl, plain⟩ := starts
  cases others with
  | nil => exact ⟨c, rest, rfl, plain⟩
  | cons second more => exact ⟨c, rest ++ ',' :: separated (second :: more), rfl, plain⟩

/-- Things are printed so that each is read as its value, whatever follows, by a reader that may go
`depth` levels down. -/
structure ReadsBack {α : Type} (print : α → List Char) (value : α → Json) (depth : Nat) : Prop where
  starts : ∀ x, StartsItem (print x)
  reads : ∀ x rest fuel, depth ≤ fuel → EndsNumber rest →
    readValue fuel (print x ++ rest) = some (value x, rest)

/-- The items of an array, each of them printed and read by itself. -/
theorem ReadsBack.readItems {α : Type} {print : α → List Char} {value : α → Json} {depth : Nat}
    (h : ReadsBack print value depth) {items : List α} (nonempty : items ≠ []) (rest : List Char)
    (fuel : Nat) (enough : depth + items.length ≤ fuel) :
    readItems fuel (separated (items.map print) ++ ']' :: rest) = some (items.map value, rest) := by
  induction items generalizing fuel with
  | nil => exact absurd rfl nonempty
  | cons x others ih =>
    rw [List.length_cons] at enough
    obtain ⟨fuel, rfl⟩ : ∃ k, fuel = k + 1 := ⟨fuel - 1, by omega⟩
    cases others with
    | nil =>
      have first := h.reads x (']' :: rest) fuel (by omega) (by simp [EndsNumber])
      simp [Json.readItems, separated, first, skipSpace_cons (c := ']') (by decide)]
    | cons y more =>
      have tail := startsItem_separated (h.starts y) (more.map print)
      have first := h.reads x (',' :: (separated ((y :: more).map print) ++ ']' :: rest)) fuel
        (by omega) (by simp [EndsNumber])
      have later := ih (by simp) fuel (by omega)
      have text : separated ((x :: y :: more).map print) ++ ']' :: rest =
          print x ++ ',' :: (separated ((y :: more).map print) ++ ']' :: rest) := by
        simp [separated]
      rw [text]
      simp only [Json.readItems, first, skipSpace_cons (c := ',') (by decide), Option.bind_eq_bind,
        Option.bind_some]
      rw [List.map_cons] at later ⊢
      rw [tail.skipSpace_append, later]
      rfl

theorem length_le_length_separated {texts : List (List Char)}
    (starts : ∀ text ∈ texts, StartsItem text) : texts.length ≤ (separated texts).length := by
  induction texts with
  | nil => exact Nat.zero_le _
  | cons first others ih =>
    obtain ⟨c, rest, rfl, -⟩ := starts first List.mem_cons_self
    have shorter := ih fun text h => starts text (List.mem_cons_of_mem _ h)
    cases others with
    | nil => simp [separated]
    | cons second more =>
      simp only [separated, List.length_cons, List.length_append] at shorter ⊢
      omega

theorem readValue_array {fuel : Nat} {text rest : List Char} {items : List Json}
    (starts : StartsItem text) (inside : readItems fuel text = some (items, rest)) :
    readValue (fuel + 1) ('[' :: text) = some (array items, rest) := by
  obtain ⟨c, others, rfl, visible, goesOn⟩ := starts
  simp only [readValue, skipSpace_cons visible]
  split
  · next same => exact absurd (List.cons.inj same).1 goesOn
  · rw [inside, Option.map_some]

/-- A printed array that is not empty is read with all its items. -/
theorem ReadsBack.parse?_array {α : Type} {print : α → List Char} {value : α → Json} {depth : Nat}
    (h : ReadsBack print value depth) (shallow : depth ≤ 4) {items : List α}
    (nonempty : items ≠ []) :
    parse? (String.ofList ('[' :: separated (items.map print) ++ [']'])) =
      some (array (items.map value)) := by
  have short : items.length ≤ (separated (items.map print)).length := by
    have all : ∀ text ∈ items.map print, StartsItem text := by simpa using fun x _ => h.starts x
    simpa using length_le_length_separated all
  have startsAll : StartsItem (separated (items.map print) ++ [']']) := by
    obtain ⟨x, others, rfl⟩ := List.exists_cons_of_ne_nil nonempty
    obtain ⟨c, rest, shape, plain⟩ := startsItem_separated (h.starts x) (others.map print)
    exact ⟨c, rest ++ [']'], by rw [List.map_cons, shape, List.cons_append], plain⟩
  have inside := h.readItems nonempty []
    (2 * ('[' :: (separated (items.map print) ++ [']'])).length)
    (by simp only [List.length_cons, List.length_append, List.length_nil]; omega)
  have whole := readValue_array startsAll inside
  simp only [parse?, String.toList_ofList, List.cons_append]
  rw [skipSpace_cons (by decide), whole]
  rfl

theorem readValue_object {fuel : Nat} {key : String} {text rest : List Char}
    {members : List (Option String × Json)}
    (inside : readMembers fuel (printString key ++ text) = some (members, rest)) :
    readValue (fuel + 1) ('\x7b' :: (printString key ++ text)) = some (object members, rest) := by
  rw [printString_append] at inside ⊢
  rw [readValue, skipSpace_cons (by decide)]
  split
  · next same => exact absurd (List.cons.inj same).1 (by decide)
  · rw [inside, Option.map_some]

end StorageGateway.Json

namespace StorageGateway

open Json

/-! ## Columns of the store -/

/-- The value that a printed scope stands for. -/
def Scope.toJson (s : Scope) : Json :=
  .object [(some "path", .string (some s.path)),
    (some "permission", .integer s.permission.toNat)]

theorem toList_pathKey : "\x7b\"path\":".toList = '\x7b' :: (printString "path" ++ [':']) := by
  decide

theorem toList_permissionKey :
    ",\"permission\":".toList = ',' :: (printString "permission" ++ [':']) := by
  decide

theorem Scope.print_eq (s : Scope) (rest : List Char) :
    s.print ++ rest = '\x7b' :: (printString "path" ++ ':' :: (printString s.path ++ ',' ::
      (printString "permission" ++ ':' ::
        (Nat.toDigits 10 s.permission.toNat ++ '\x7d' :: rest)))) := by
  unfold Scope.print
  simp only [toList_pathKey, toList_permissionKey, List.append_assoc, List.cons_append,
    List.nil_append]

theorem Scope.readsBack : ReadsBack Scope.print Scope.toJson 4 where
  starts s := by
    rw [← List.append_nil s.print, s.print_eq]
    exact ⟨'\x7b', _, rfl, by decide, by decide⟩
  reads s rest fuel enough _ := by
    obtain ⟨fuel, rfl⟩ : ∃ k, fuel = k + 4 := ⟨fuel - 4, by omega⟩
    have number := readValue_toDigits fuel s.permission.toNat
      (show EndsNumber ('\x7d' :: rest) by simp [EndsNumber])
    have permission := readMembers_last "permission" (startsItem_toDigits _) number
    have members := readMembers_cons "path" (startsItem_printString s.path)
      ((startsItem_printString "permission").skipSpace_append _)
      (readValue_printString (fuel + 1) s.path _) permission
    rw [s.print_eq]
    exact readValue_object members

/-- Role ids are printed so that they are read back as numbers. -/
theorem RoleId.readsBack :
    ReadsBack (fun id : RoleId => Nat.toDigits 10 id.val) (fun id => .integer id.val) 1 where
  starts id := startsItem_toDigits id.val
  reads id rest fuel enough ends := by
    obtain ⟨fuel, rfl⟩ : ∃ k, fuel = k + 1 := ⟨fuel - 1, by omega⟩
    exact readValue_toDigits fuel id.val ends

/-- A number of 32 bits is read as it is. -/
theorem Json.word?_integer {n : Nat} (fits : n < 0x100000000) : word? (.integer n) = some n := by
  have range : (0 : Int) ≤ n ∧ (n : Int) ≤ 0xFFFFFFFF := by omega
  simp [word?, integer?, range]

/-- Any larger number is not read. -/
theorem Json.word?_integer_of_large {n : Nat} (large : 0x100000000 ≤ n) :
    word? (.integer n) = none := by
  have outside : ¬ ((0 : Int) ≤ n ∧ (n : Int) ≤ 0xFFFFFFFF) := by omega
  rw [word?, integer?, if_neg outside, Option.map_none]

/-- Whatever is read as a number of 32 bits is one. -/
theorem Json.word?_lt {j : Json} {n : Nat} (reads : j.word? = some n) : n < 0x100000000 := by
  obtain ⟨i, inside, rfl⟩ := Option.map_eq_some_iff.mp reads
  cases j with
  | integer m =>
    rw [integer?] at inside
    split at inside
    · next range =>
      cases inside
      omega
    · contradiction
  | _ => contradiction

theorem Scope.ofJson?_toJson (s : Scope) : Scope.ofJson? s.toJson = some s := by
  have number := Json.word?_integer s.permission.bits.isLt
  simp [ofJson?, toJson, fields?, member?, required, string?, PermissionSet.toNat] at number ⊢
  simp [number, PermissionSet.ofNat]

/-- A list of values is read item by item. -/
theorem Json.list?_map {α : Type} {read : Json → Option α} {value : α → Json} (items : List α)
    (reads : ∀ x ∈ items, read (value x) = some x) :
    list? read (.array (items.map value)) = some items := by
  rw [list?]
  induction items with
  | nil => rfl
  | cons x others ih =>
    have first := reads x List.mem_cons_self
    have later := ih fun y h => reads y (List.mem_cons_of_mem _ h)
    rw [List.map_cons, List.mapM_cons, first, later]
    rfl

/-- A list with an item that cannot be read is not read. -/
theorem Json.list?_eq_none {α : Type} {read : Json → Option α} {items : List Json} {item : Json}
    (present : item ∈ items) (fails : read item = none) : list? read (.array items) = none := by
  rw [list?]
  induction items with
  | nil => contradiction
  | cons x others ih =>
    rw [List.mapM_cons]
    rcases List.mem_cons.mp present with rfl | later
    · rw [fails]
      rfl
    · rw [ih later]
      cases read x <;> rfl

/-- What is true of every item that is read is true of the whole list. -/
theorem Json.list?_forall {α : Type} {read : Json → Option α} {j : Json} {found : List α}
    (reads : list? read j = some found) {P : α → Prop}
    (each : ∀ item x, read item = some x → P x) : ∀ x ∈ found, P x := by
  cases j with
  | array items =>
    rw [list?] at reads
    induction items generalizing found with
    | nil =>
      cases reads
      exact fun x none => absurd none List.not_mem_nil
    | cons item others ih =>
      rw [List.mapM_cons] at reads
      obtain ⟨first, here, reads⟩ := Option.bind_eq_some_iff.mp reads
      obtain ⟨rest, later, reads⟩ := Option.bind_eq_some_iff.mp reads
      cases reads
      exact List.forall_mem_cons.mpr ⟨each item first here, ih later⟩
  | _ => contradiction

/-- Scopes are read back from the text in which a store keeps them. -/
@[simp] theorem scopesOfText?_scopesText (scopes : List Scope) :
    scopesOfText? (scopesText scopes) = some scopes := by
  by_cases empty : scopes = []
  · subst empty
    rfl
  · have parsed := Scope.readsBack.parse?_array (Nat.le_refl 4) empty
    rw [scopesText, if_neg empty]
    generalize shape : String.ofList ('[' :: separated (scopes.map Scope.print) ++ [']']) = text
      at parsed ⊢
    have visible : Text.isAllBlank text = false := by
      rw [← shape, Text.isAllBlank, String.toList_ofList, List.cons_append, List.all_cons]
      rfl
    rw [scopesOfText?, visible, if_neg Bool.false_ne_true, parsed, Option.bind_some]
    exact Json.list?_map scopes fun s _ => s.ofJson?_toJson

/-- Role ids of 32 bits are read back from the text in which a store keeps them. -/
theorem roleIdsOfText?_roleIdsText {ids : List RoleId} (fit : ∀ id ∈ ids, id.val < 0x100000000) :
    roleIdsOfText? (roleIdsText ids) = some ids := by
  by_cases empty : ids = []
  · subst empty
    rfl
  · have parsed := RoleId.readsBack.parse?_array (by decide) empty
    rw [roleIdsOfText?, roleIdsText, printNumbers, List.map_map, Function.comp_def, parsed,
      Option.bind_some, RoleId.listOfJson?]
    refine Json.list?_map ids fun id h => ?_
    rw [Json.word?_integer (fit id h), Option.map_some]

/-- A text of role ids of which one is too large is not read. -/
theorem roleIdsOfText?_roleIdsText_of_large {ids : List RoleId} {id : RoleId} (present : id ∈ ids)
    (large : 0x100000000 ≤ id.val) : roleIdsOfText? (roleIdsText ids) = none := by
  have parsed := RoleId.readsBack.parse?_array (by decide) (List.ne_nil_of_mem present)
  rw [roleIdsOfText?, roleIdsText, printNumbers, List.map_map, Function.comp_def, parsed,
    Option.bind_some, RoleId.listOfJson?]
  refine Json.list?_eq_none (List.mem_map_of_mem present) ?_
  rw [Json.word?_integer_of_large large, Option.map_none]

/-- Whatever ids are read from a text have 32 bits. -/
theorem roleIdsOfText?_fit {text : String} {ids : List RoleId}
    (reads : roleIdsOfText? text = some ids) : ∀ id ∈ ids, id.val < 0x100000000 := by
  obtain ⟨j, -, listed⟩ := Option.bind_eq_some_iff.mp reads
  refine Json.list?_forall listed fun item id read => ?_
  obtain ⟨n, word, rfl⟩ := Option.map_eq_some_iff.mp read
  exact Json.word?_lt word

end StorageGateway
