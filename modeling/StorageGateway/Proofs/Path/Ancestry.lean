import Mathlib.Logic.Function.Iterate
import StorageGateway.Proofs.Path.Cleaning

/-!
# The paths above a path

Whether one path lies above another is told by their texts in two ways that agree: by the segments
that stand between their slashes, or by one text that goes on from the other with a `/`. Step by step
from a path to its directory, the way up comes by the paths above it, one for each segment that is
left, and ends at the root. Main statements: `covers_iff_text`, `covers_iff_iterate_parent` and
`ancestry_by_segments`.
-/

namespace StorageGateway

namespace Path

variable {p q : Path} {n : Nat} {text : String}

/-! ## Segments and coverage in texts -/

/-- What stands between the slashes of a text, but for empty pieces. -/
def slashed (text : String) : List String :=
  ((Text.split (· == '/') text.toList).map String.ofList).filter (· ≠ "")

theorem slashed_text (p : Path) : slashed p.text = p.segments := by
  by_cases none : p.segments = []
  · have atRoot : p = root := Path.ext none
    subst atRoot
    decide
  · rw [slashed, ← pieces_of_plain p.backslash_not_mem_text, pieces_text none,
      List.filter_cons_of_neg (by simp), List.filter_eq_self]
    intro s among
    exact decide_eq_true (p.isSegment s among).1

theorem text_eq_slash_iff : p.text = "/" ↔ p = root :=
  ⟨fun same => text_injective same, fun same => same ▸ rfl⟩

/-- `b` is the text `a` or goes on from it with a `/`. Everything goes on from `/`. -/
def TextCovers (a b : String) : Prop := a = "/" ∨ a = b ∨ ∃ rest, b = a ++ "/" ++ rest

/-- The text of the root goes on from that of no path. -/
theorem text_root_ne (p : Path) (rest : String) : root.text ≠ p.text ++ "/" ++ rest := by
  intro same
  have lengths := congrArg String.length same
  rw [p.text_eq_intercalate] at lengths
  simp only [String.length_append] at lengths
  have one : root.text.length = 1 := rfl
  have slash : "/".length = 1 := rfl
  omega

/-- A path covers another just if its text covers the other's. -/
theorem covers_iff_text : p.covers q = true ↔ TextCovers p.text q.text := by
  rw [TextCovers, text_eq_slash_iff]
  by_cases atRoot : p = root
  · subst atRoot
    exact iff_of_true (root_covers q) (.inl rfl)
  by_cases atTop : q = root
  · -- nothing but the root covers the root
    subst atTop
    rw [not_covers_root atRoot]
    refine iff_of_false Bool.false_ne_true ?_
    rintro (same | same | ⟨rest, goesOn⟩)
    · exact atRoot same
    · exact atRoot (text_injective same)
    · exact p.text_root_ne rest goesOn
  -- below the root a stem is the text
  rw [covers_iff_stem, stem_of_ne_root atRoot, stem_of_ne_root atTop]
  constructor
  · rintro ⟨tail, rfl | ⟨rest, rfl⟩, goesOn⟩
    · rw [String.append_empty] at goesOn
      exact .inr (.inl goesOn.symm)
    · rw [← String.append_assoc] at goesOn
      exact .inr (.inr ⟨rest, goesOn⟩)
  · rintro (same | same | ⟨rest, goesOn⟩)
    · contradiction
    · exact ⟨"", .inl rfl, by rw [String.append_empty, same]⟩
    · exact ⟨"/" ++ rest, .inr ⟨rest, rfl⟩, by rw [goesOn, String.append_assoc]⟩

theorem strictlyCovers_iff_text :
    p.strictlyCovers q = true ↔ p.text ≠ q.text ∧ TextCovers p.text q.text := by
  rw [strictlyCovers_iff, covers_iff_text]
  exact and_congr_left fun _ => not_congr ⟨congrArg Path.text, text_injective⟩

theorem strictlyCovers_iff_slashed :
    p.strictlyCovers q = true ↔
      slashed p.text <+: slashed q.text ∧ slashed p.text ≠ slashed q.text := by
  rw [strictlyCovers_iff, covers_iff, slashed_text, slashed_text, and_comm, Ne, Path.ext_iff]

/-! ## From a path to its directory -/

theorem join_parent_lastSegment (p : Path) : p.parent.join p.lastSegment = p := by
  rcases p.eq_root_or_isChild with rfl | child
  · decide
  · exact child.join_eq

/-- The segments that are left after `n` steps up. -/
theorem segments_iterate_parent (p : Path) (n : Nat) :
    (parent^[n] p).segments = p.segments.take (p.segments.length - n) := by
  induction n with
  | zero => rw [Nat.sub_zero, List.take_length]; rfl
  | succ n ih =>
    rw [Function.iterate_succ_apply']
    change (parent^[n] p).segments.dropLast = _
    rw [ih, List.dropLast_eq_take, List.take_take, List.length_take]
    congr 1
    omega

theorem iterate_parent_eq_root_iff : parent^[n] p = root ↔ p.segments.length ≤ n := by
  rw [Path.ext_iff, segments_iterate_parent]
  change List.take _ _ = [] ↔ _
  rw [List.take_eq_nil_iff, ← List.length_eq_zero_iff]
  omega

/-- The steps up from a path come by the paths that cover it. -/
theorem covers_iff_iterate_parent :
    q.covers p = true ↔ ∃ n ≤ p.segments.length, parent^[n] p = q := by
  simp only [Path.ext_iff, segments_iterate_parent]
  rw [covers_iff]
  constructor
  · intro above
    have shorter := above.length_le
    refine ⟨p.segments.length - q.segments.length, Nat.sub_le _ _, ?_⟩
    rw [Nat.sub_sub_self shorter]
    exact (List.prefix_iff_eq_take.mp above).symm
  · rintro ⟨n, -, same⟩
    exact same ▸ List.take_prefix _ _

/-- They are what is searched on the way up. -/
theorem ancestors_eq_iterate (p : Path) :
    p.ancestors = (List.range (p.segments.length + 1)).map fun n => parent^[n] p :=
  List.map_congr_left fun n _ => Path.ext (segments_iterate_parent p n).symm

/-- The text of the directory of the path that a text names. -/
def parentText (text : String) : String := (ofText text).parent.text

theorem ofText_iterate_parentText (text : String) (n : Nat) :
    ofText (parentText^[n] text) = parent^[n] (ofText text) := by
  induction n with
  | zero => rfl
  | succ n ih =>
    rw [Function.iterate_succ_apply', Function.iterate_succ_apply', parentText, ofText_text, ih]

theorem iterate_parentText_eq_slash_iff (beneath : ofText text ≠ root) :
    parentText^[n] text = "/" ↔ (ofText text).segments.length ≤ n := by
  rw [← iterate_parent_eq_root_iff, ← ofText_iterate_parentText]
  cases n with
  | zero =>
    refine iff_of_false (fun same => beneath ?_) beneath
    change text = "/" at same
    rw [same]
    decide
  | succ n => rw [Function.iterate_succ_apply', parentText, ofText_text, text_eq_slash_iff]

/-! ## Order -/

/-- The laws of which paths cover others, whatever texts name them. -/
structure OrderedBySegments (a b : String) : Prop where
  /-- The covering path has the first of the other's segments, -/
  covers : (ofText a).covers (ofText b) = true ↔
    slashed (ofText a).text <+: slashed (ofText b).text
  /-- and not all of them if it covers the other strictly. -/
  strictly : (ofText a).strictlyCovers (ofText b) = true ↔
    slashed (ofText a).text <+: slashed (ofText b).text ∧
      slashed (ofText a).text ≠ slashed (ofText b).text
  /-- The texts tell it without being cut: they are the same, or one goes on from the other, -/
  told : (ofText a).covers (ofText b) = true ↔ TextCovers (ofText a).text (ofText b).text
  /-- and differ if it covers the other strictly. -/
  toldStrictly : (ofText a).strictlyCovers (ofText b) = true ↔
    (ofText a).text ≠ (ofText b).text ∧ TextCovers (ofText a).text (ofText b).text
  /-- Every path covers itself. -/
  reflexive : (ofText a).covers (ofText a) = true
  /-- Paths that cover each other have the same text, -/
  antisymmetric : (ofText a).covers (ofText b) = true → (ofText b).covers (ofText a) = true →
    (ofText a).text = (ofText b).text
  /-- a path covers what is covered by one that it covers, -/
  transitive : ∀ c, (ofText a).covers (ofText b) = true → (ofText b).covers (ofText c) = true →
    (ofText a).covers (ofText c) = true
  /-- and of two paths above a third, one covers the other. -/
  total : ∀ c, (ofText a).covers (ofText c) = true → (ofText b).covers (ofText c) = true →
    (ofText a).covers (ofText b) = true ∨ (ofText b).covers (ofText a) = true

/-- The laws of the way up from the path that a text names. -/
structure LeadsUp (text : String) : Prop where
  /-- The directory and the last segment give back the path: -/
  rejoined : (ofText (parentText text ++ "/" ++ (ofText text).lastSegment)).text = (ofText text).text
  /-- below the root, the text is cut at its last `/`. -/
  cut : ofText text ≠ root → '/' ∉ (ofText text).lastSegment.toList ∧
    (ofText text).text = (ofText text).parent.stem ++ "/" ++ (ofText text).lastSegment
  /-- It takes a step for each segment to come to the root, where the way up ends. -/
  arrives : ofText text ≠ root →
    ∀ n, parentText^[n] text = "/" ↔ (slashed (ofText text).text).length ≤ n
  /-- Until then the steps come by the paths that cover the first, and by no others, -/
  passes : ∀ a, (ofText a).covers (ofText text) = true ↔
    ∃ n ≤ (slashed (ofText text).text).length, ofText (parentText^[n] text) = ofText a
  /-- and these are searched in turn for what is attached to the nearest of them. -/
  searched : (ofText text).ancestors =
    (List.range ((slashed (ofText text).text).length + 1)).map fun n => ofText (parentText^[n] text)

theorem orderedBySegments (a b : String) : OrderedBySegments a b where
  covers := by rw [slashed_text, slashed_text, covers_iff]
  strictly := strictlyCovers_iff_slashed
  told := covers_iff_text
  toldStrictly := strictlyCovers_iff_text
  reflexive := covers_refl _
  antisymmetric above below := congrArg Path.text (covers_antisymm above below)
  transitive _ := covers_trans
  total _ := covers_total

theorem leadsUp (text : String) : LeadsUp text where
  rejoined := by rw [parentText, ofText_append, join_parent_lastSegment]
  cut beneath := by
    have child := (ofText text).eq_root_or_isChild.resolve_left beneath
    exact ⟨separator_not_mem child.isSegment rfl, child.text_eq⟩
  arrives beneath n := by rw [slashed_text, iterate_parentText_eq_slash_iff beneath]
  passes a := by simp only [slashed_text, covers_iff_iterate_parent, ofText_iterate_parentText]
  searched := by simp only [slashed_text, ancestors_eq_iterate, ofText_iterate_parentText]

/-- Paths cover each other in the order of their segments, and the way up from a path comes by all
that cover it. -/
theorem ancestry_by_segments (a b : String) : OrderedBySegments a b ∧ LeadsUp b :=
  ⟨orderedBySegments a b, leadsUp b⟩

/-- A name that only begins like another is not above it. -/
example :
    (ofText "\\a/./b/").covers (ofText "a/b/../b/c") = true ∧
      (ofText "/a/b").covers (ofText "/a/bc") = false ∧ parentText^[2] "x/../a/b/c" = "/a" := by
  decide +kernel

end Path

end StorageGateway
