/-!
# Lines and blanks

The few operations on text that settings, identifiers and record columns share: cutting a text at
the characters of a class, dropping the blanks around it, and reading it line by line.
-/

namespace StorageGateway.Text

/-- The white space of Unicode. -/
def isBlank (c : Char) : Bool :=
  let n := c.toNat
  (9 ≤ n && n ≤ 13) || n == 0x20 || n == 0x85 || n == 0xA0 || n == 0x1680 ||
    (0x2000 ≤ n && n ≤ 0x200A) || n == 0x2028 || n == 0x2029 || n == 0x202F || n == 0x205F ||
    n == 0x3000

/-- The pieces of a text between the characters of a class: one more than there are of them. -/
def split (cut : Char → Bool) : List Char → List (List Char)
  | [] => [[]]
  | c :: rest =>
    if cut c then [] :: split cut rest
    else
      match split cut rest with
      | [] => [[c]]
      | piece :: pieces => (c :: piece) :: pieces

/-- A text without the blanks at its end. -/
def dropBlankEnd : List Char → List Char
  | [] => []
  | c :: rest =>
    match dropBlankEnd rest with
    | [] => if isBlank c then [] else [c]
    | kept => c :: kept

/-- A text without the blanks around it. -/
def trim (cs : List Char) : List Char :=
  dropBlankEnd (cs.dropWhile isBlank)

/-- Whether a text holds nothing but blanks. -/
def isAllBlank (s : String) : Bool :=
  s.toList.all isBlank

/-- The lines of a text that hold more than blanks, each without the blanks around it. -/
def lines (s : String) : List (List Char) :=
  ((split (· == '\n') s.toList).map trim).filter (· ≠ [])

/-! ## Cutting -/

theorem split_ne_nil (cut : Char → Bool) (cs : List Char) : split cut cs ≠ [] := by
  cases cs with
  | nil => simp [split]
  | cons c rest =>
    rw [split]
    split
    · simp
    · split <;> simp

theorem split_cons_of_cut {cut : Char → Bool} {c : Char} (h : cut c = true) (cs : List Char) :
    split cut (c :: cs) = [] :: split cut cs := by
  simp [split, h]

/-- Cutting a text at a character of the class cuts what is before and after it. -/
theorem split_append {cut : Char → Bool} (before : List Char) {c : Char} (hc : cut c = true)
    (after : List Char) :
    split cut (before ++ c :: after) = split cut before ++ split cut after := by
  induction before with
  | nil => simp [split, hc]
  | cons x xs ih =>
    rw [List.cons_append, split, split, ih]
    split
    · rfl
    · cases h : split cut xs with
      | nil => exact absurd h (split_ne_nil cut xs)
      | cons piece pieces => rfl

/-- No piece holds a character of the class. -/
theorem not_cut_of_mem_split {cut : Char → Bool} {cs piece : List Char}
    (h : piece ∈ split cut cs) : ∀ c ∈ piece, cut c = false := by
  induction cs generalizing piece with
  | nil => simp_all [split]
  | cons c rest ih =>
    rw [split] at h
    split at h
    · rcases List.mem_cons.mp h with rfl | h
      · simp
      · exact ih h
    · next hc =>
      cases hs : split cut rest with
      | nil => exact absurd hs (split_ne_nil cut rest)
      | cons first others =>
        rw [hs] at h ih
        rcases List.mem_cons.mp h with rfl | h
        · intro x hx
          rcases List.mem_cons.mp hx with rfl | hx
          · simpa using hc
          · exact ih List.mem_cons_self x hx
        · exact ih (List.mem_cons_of_mem _ h)

/-- A text without characters of the class is one piece, whatever a cut starts after it. -/
theorem split_append_cut {cut : Char → Bool} {piece : List Char}
    (h : ∀ c ∈ piece, cut c = false) {c : Char} (hc : cut c = true) (rest : List Char) :
    split cut (piece ++ c :: rest) = piece :: split cut rest := by
  induction piece with
  | nil => simp [split, hc]
  | cons x xs ih =>
    have hx := h x List.mem_cons_self
    simp [split, hx, ih fun y hy => h y (List.mem_cons_of_mem _ hy)]

theorem split_eq_singleton {cut : Char → Bool} {piece : List Char}
    (h : ∀ c ∈ piece, cut c = false) : split cut piece = [piece] := by
  induction piece with
  | nil => rfl
  | cons x xs ih =>
    have hx := h x List.mem_cons_self
    simp [split, hx, ih fun y hy => h y (List.mem_cons_of_mem _ hy)]

end StorageGateway.Text
