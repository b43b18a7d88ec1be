import Mathlib.Data.List.TakeWhile
import StorageGateway.Proofs.Path.Joining

/-!
# Trimmed texts and texts in pieces

What is left of a text without the blanks around it is told by what it starts and ends with, and so are
the pieces between the occurrences of one character. Main statements: `trim_eq_iff`,
`split_eq_pair_iff` and `split_intercalate`.
-/

namespace StorageGateway.Text

variable {cs core a b : List Char} {x : Char}

/-! ## Blanks around a text -/

/-- `core` is `cs` without the blanks around it. -/
structure IsCore (core cs : List Char) : Prop where
  around : ∃ before after, cs = before ++ core ++ after ∧
    (∀ c ∈ before, isBlank c = true) ∧ ∀ c ∈ after, isBlank c = true
  starts : ∀ c ∈ core.head?, isBlank c = false
  ends : ∀ c ∈ core.getLast?, isBlank c = false

theorem dropBlankEnd_append (cs : List Char) :
    ∃ after, cs = dropBlankEnd cs ++ after ∧ ∀ c ∈ after, isBlank c = true := by
  induction cs with
  | nil => exact ⟨[], rfl, by simp⟩
  | cons c rest ih =>
    obtain ⟨after, shape, blank⟩ := ih
    rw [dropBlankEnd]
    cases kept : dropBlankEnd rest with
    | nil =>
      rw [kept, List.nil_append] at shape
      subst shape
      cases also : isBlank c with
      | true => exact ⟨c :: rest, by simp, by simpa [also] using blank⟩
      | false => exact ⟨rest, by simp, blank⟩
    | cons d others =>
      rw [kept] at shape
      exact ⟨after, congrArg _ shape, blank⟩

theorem getLast?_dropBlankEnd (cs : List Char) :
    ∀ c ∈ (dropBlankEnd cs).getLast?, isBlank c = false := by
  induction cs with
  | nil => simp [dropBlankEnd]
  | cons c rest ih =>
    rw [dropBlankEnd]
    cases kept : dropBlankEnd rest with
    | nil => cases blank : isBlank c <;> simp [blank]
    | cons d others =>
      rw [kept] at ih
      simpa using ih

theorem dropBlankEnd_of_blank (blank : ∀ c ∈ cs, isBlank c = true) : dropBlankEnd cs = [] := by
  induction cs with
  | nil => rfl
  | cons c rest ih =>
    rw [dropBlankEnd, ih fun d later => blank d (List.mem_cons_of_mem _ later)]
    simp [blank c List.mem_cons_self]

theorem dropBlankEnd_core (ends : ∀ c ∈ core.getLast?, isBlank c = false) {after : List Char}
    (blank : ∀ c ∈ after, isBlank c = true) : dropBlankEnd (core ++ after) = core := by
  induction core with
  | nil => exact dropBlankEnd_of_blank blank
  | cons c rest ih =>
    rw [List.cons_append, dropBlankEnd]
    cases rest with
    | nil =>
      rw [List.nil_append, dropBlankEnd_of_blank blank]
      simp [ends c (by simp)]
    | cons d others =>
      rw [ih (by simpa using ends)]

theorem isCore_trim (cs : List Char) : IsCore (trim cs) cs := by
  obtain ⟨after, shape, blank⟩ := dropBlankEnd_append (cs.dropWhile isBlank)
  have whole := List.takeWhile_append_dropWhile (p := isBlank) (l := cs)
  refine ⟨⟨cs.takeWhile isBlank, after, ?_, ?_, blank⟩, ?_, getLast?_dropBlankEnd _⟩
  · rw [List.append_assoc, trim, ← shape, whole]
  · exact fun c among => List.mem_takeWhile_imp among
  · intro c first
    rw [trim, Option.mem_def] at first
    have start := List.head?_dropWhile_not isBlank cs
    rw [shape, List.head?_append, first, Option.some_or] at start
    exact start

/-- Trimming takes away the blanks around a text and nothing else. -/
theorem trim_eq_iff : trim cs = core ↔ IsCore core cs := by
  refine ⟨fun trimmed => trimmed ▸ isCore_trim cs, ?_⟩
  rintro ⟨⟨before, after, rfl, blankBefore, blankAfter⟩, starts, ends⟩
  rw [trim, List.append_assoc, List.dropWhile_append_of_pos blankBefore]
  cases core with
  | nil =>
    rw [List.nil_append, List.dropWhile_eq_nil_iff.mpr blankAfter]
    rfl
  | cons c rest =>
    have first : ¬ isBlank c = true := by simp [starts c rfl]
    rw [List.cons_append, List.dropWhile_cons_of_neg first, ← List.cons_append]
    exact dropBlankEnd_core ends blankAfter

theorem IsCore.of_ends (starts : ∀ c ∈ cs.head?, isBlank c = false)
    (ends : ∀ c ∈ cs.getLast?, isBlank c = false) : IsCore cs cs :=
  ⟨⟨[], [], by simp, by simp, by simp⟩, starts, ends⟩

theorem IsCore.self (isCore : IsCore core cs) : IsCore core core := .of_ends isCore.starts isCore.ends

/-! ## Pieces between a character -/

/-- Classes that agree on the characters of a text cut it alike. -/
theorem split_congr {cut other : Char → Bool} (same : ∀ c ∈ cs, cut c = other c) :
    split cut cs = split other cs := by
  induction cs with
  | nil => rfl
  | cons c rest ih =>
    rw [split, split, ih fun d later => same d (List.mem_cons_of_mem _ later),
      same c List.mem_cons_self]

theorem not_cut_iff : (∀ c ∈ cs, (c == x) = false) ↔ x ∉ cs := by
  simp only [beq_eq_false_iff_ne]
  exact ⟨fun differ present => differ x present rfl, fun absent c among same => absent (same ▸ among)⟩

theorem split_eq_single_iff : split (· == x) cs = [a] ↔ cs = a ∧ x ∉ a := by
  constructor
  · intro cut
    obtain ⟨first, uncut, ⟨rfl, one⟩ | ⟨c, rest, -, -, more⟩⟩ := split_cases (· == x) cs
    · obtain ⟨rfl, -⟩ := List.cons.inj (one.symm.trans cut)
      exact ⟨rfl, not_cut_iff.mp uncut⟩
    · exact absurd (List.cons.inj (more.symm.trans cut)).2 (split_ne_nil _ rest)
  · rintro ⟨rfl, absent⟩
    exact split_eq_singleton (not_cut_iff.mpr absent)

/-- Two pieces are what stands before and after the only occurrence of the character. -/
theorem split_eq_pair_iff : split (· == x) cs = [a, b] ↔ cs = a ++ x :: b ∧ x ∉ a ∧ x ∉ b := by
  constructor
  · intro cut
    obtain ⟨first, uncut, ⟨rfl, one⟩ | ⟨c, rest, cuts, rfl, more⟩⟩ := split_cases (· == x) cs
    · exact absurd (List.cons.inj (one.symm.trans cut)).2 (by simp)
    · obtain ⟨rfl, last⟩ := List.cons.inj (more.symm.trans cut)
      obtain ⟨rfl, absent⟩ := split_eq_single_iff.mp last
      exact ⟨by rw [eq_of_beq cuts], not_cut_iff.mp uncut, absent⟩
  · rintro ⟨rfl, before, after⟩
    rw [split_append_cut (not_cut_iff.mpr before) (beq_self_eq_true x),
      split_eq_singleton (not_cut_iff.mpr after)]

/-- Pieces that are joined by a character are cut apart again. -/
theorem split_intercalate {pieces : List (List Char)} (nonempty : pieces ≠ [])
    (uncut : ∀ piece ∈ pieces, x ∉ piece) : split (· == x) ([x].intercalate pieces) = pieces := by
  induction pieces with
  | nil => contradiction
  | cons first rest ih =>
    have own := not_cut_iff.mpr (uncut first List.mem_cons_self)
    cases rest with
    | nil => rw [List.intercalate_singleton, split_eq_singleton own]
    | cons second others =>
      rw [List.intercalate_cons_cons, List.append_assoc, List.singleton_append,
        split_append_cut own (beq_self_eq_true x),
        ih (List.cons_ne_nil _ _) fun piece later => uncut piece (List.mem_cons_of_mem _ later)]

/-- The pieces of a text, joined again, are the text. -/
theorem intercalate_split (x : Char) (cs : List Char) : [x].intercalate (split (· == x) cs) = cs := by
  induction cs with
  | nil => rfl
  | cons c rest ih =>
    rw [split]
    cases pieces : split (· == x) rest with
    | nil => exact absurd pieces (split_ne_nil _ rest)
    | cons first others =>
      rw [pieces] at ih
      by_cases cuts : (c == x) = true
      · rw [if_pos cuts, List.intercalate_cons_cons, ih, eq_of_beq cuts]
        rfl
      · rw [if_neg cuts]
        dsimp only
        cases others with
        | nil => simpa using ih
        | cons second more =>
          rw [List.intercalate_cons_cons] at ih ⊢
          rw [List.cons_append, List.cons_append, ih]

end StorageGateway.Text
