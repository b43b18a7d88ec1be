import Mathlib.Data.List.Basic
import StorageGateway.Path.Basic

/-!
# Paths that cover others

A path covers those whose segments start with its own, so that the paths above one path are in line.
What is attached to paths is looked up on the way up this line: `Path.nearest?` is what metas and
mounts are found by. Main statements: `nearest?_child` and `nearest?_of_bare`.
-/

namespace StorageGateway

namespace Path

variable {p q r : Path} {s : String}

/-! ## Covering -/

theorem covers_iff : p.covers q = true ↔ p.segments <+: q.segments := by
  rw [covers, List.isPrefixOf_iff_prefix]

theorem covers_refl (p : Path) : p.covers p = true := covers_iff.mpr (List.prefix_refl _)

theorem covers_trans (first : p.covers q = true) (second : q.covers r = true) :
    p.covers r = true :=
  covers_iff.mpr ((covers_iff.mp first).trans (covers_iff.mp second))

theorem covers_antisymm (first : p.covers q = true) (second : q.covers p = true) : p = q :=
  Path.ext ((covers_iff.mp first).eq_of_length_le (covers_iff.mp second).length_le)

/-- Of two paths above the same one, one lies above the other. -/
theorem covers_total (first : p.covers r = true) (second : q.covers r = true) :
    p.covers q = true ∨ q.covers p = true := by
  simp only [covers_iff] at *
  exact List.prefix_or_prefix_of_prefix first second

theorem strictlyCovers_iff : p.strictlyCovers q = true ↔ p ≠ q ∧ p.covers q = true := by
  rw [strictlyCovers, Bool.and_eq_true, bne_iff_ne]

/-- Seen from further down, a path is shorter. -/
theorem within_ne_of_strictlyCovers (strictly : p.strictlyCovers q = true)
    (above : q.covers r = true) : r.within p ≠ r.within q := by
  obtain ⟨differ, covers⟩ := strictlyCovers_iff.mp strictly
  intro same
  have lengths := congrArg (fun place => place.segments.length) same
  simp only [within, drop, List.length_drop] at lengths
  have longer := (covers_iff.mp covers).length_le
  have within := (covers_iff.mp above).length_le
  have equal : p.segments = q.segments := (covers_iff.mp covers).eq_of_length (by omega)
  exact differ (Path.ext equal)

theorem length_text (p : Path) :
    p.text.length = if p.segments = [] then 1 else (written p.segments).length := by
  unfold text
  split
  · rfl
  · rw [String.length_ofList]

/-- Further down, paths are longer. -/
theorem length_text_lt (strictly : p.strictlyCovers q = true) : p.text.length < q.text.length := by
  obtain ⟨differ, covers⟩ := strictlyCovers_iff.mp strictly
  obtain ⟨rest, shape⟩ := covers_iff.mp covers
  cases rest with
  | nil =>
    rw [List.append_nil] at shape
    exact absurd (Path.ext shape) differ
  | cons s rest =>
    have segment : IsSegment s := q.isSegment s (by simp [← shape])
    have letters : 0 < s.toList.length := by
      rw [List.length_pos_iff]
      intro empty
      exact segment.1 (String.toList_inj.mp empty)
    have further : (written q.segments).length =
        (written p.segments).length + (1 + s.toList.length + (written rest).length) := by
      rw [← shape]
      simp [written]
      omega
    rw [length_text, length_text, if_neg (by simp [← shape] : ¬ q.segments = []), further]
    split <;> omega

/-- Of two paths above the same one, the longer one lies further down. -/
theorem strictlyCovers_iff_length_text (above : p.covers r = true) (also : q.covers r = true) :
    p.strictlyCovers q = true ↔ p.text.length < q.text.length := by
  refine ⟨length_text_lt, fun longer => strictlyCovers_iff.mpr ⟨?_, ?_⟩⟩
  · rintro rfl
    exact absurd longer (Nat.lt_irrefl _)
  · rcases covers_total above also with covers | covers
    · exact covers
    · by_cases same : q = p
      · exact same ▸ covers_refl q
      · have shorter := length_text_lt (strictlyCovers_iff.mpr ⟨same, covers⟩)
        omega

theorem root_covers (p : Path) : root.covers p = true := covers_iff.mpr (List.nil_prefix)

theorem not_covers_root (beneath : p ≠ root) : p.covers root = false := by
  by_contra covers
  exact beneath (covers_antisymm (by simpa using covers) (root_covers p))

/-- What is split off below a path is the segment after its own ones, and the text of the rest. -/
theorem splitBelow?_eq_some_iff {rest : String} :
    q.splitBelow? p = some (s, rest) ↔
      ∃ more, p.segments ++ s :: more = q.segments ∧ rest = "/".intercalate more := by
  rw [splitBelow?, below?]
  constructor
  · intro found
    split at found
    · next split =>
      cases found
      exact ⟨_, List.isPrefixOf?_eq_some_iff_append_eq.mp split, rfl⟩
    · contradiction
  · rintro ⟨more, shape, rfl⟩
    rw [List.isPrefixOf?_eq_some_iff_append_eq.mpr shape]

/-- The first segment below a path is the one after its own segments. -/
theorem firstBelow?_eq_some_iff :
    q.firstBelow? p = some s ↔ ∃ rest, p.segments ++ s :: rest = q.segments := by
  simp only [firstBelow?, Option.map_eq_some_iff, Prod.exists, splitBelow?_eq_some_iff]
  constructor
  · rintro ⟨_, _, ⟨rest, shape, -⟩, rfl⟩
    exact ⟨rest, shape⟩
  · rintro ⟨rest, shape⟩
    exact ⟨s, _, ⟨rest, shape, rfl⟩, rfl⟩

/-- What is reached through a first segment lies beneath. -/
theorem strictlyCovers_of_firstBelow? (first : q.firstBelow? p = some s) :
    p.strictlyCovers q = true := by
  obtain ⟨rest, shape⟩ := firstBelow?_eq_some_iff.mp first
  refine strictlyCovers_iff.mpr ⟨?_, covers_iff.mpr ⟨_, shape⟩⟩
  rintro rfl
  exact absurd (List.append_right_eq_self.mp shape) (List.cons_ne_nil s rest)

/-- Every path beneath another is reached through a first segment. -/
theorem exists_firstBelow? (strictly : p.strictlyCovers q = true) :
    ∃ s, IsSegment s ∧ q.firstBelow? p = some s := by
  obtain ⟨differ, covers⟩ := strictlyCovers_iff.mp strictly
  obtain ⟨more, shape⟩ := covers_iff.mp covers
  cases more with
  | nil =>
    rw [List.append_nil] at shape
    exact absurd (Path.ext shape) differ
  | cons s rest =>
    refine ⟨s, q.isSegment s (by simp [← shape]), firstBelow?_eq_some_iff.mpr ⟨rest, shape⟩⟩

theorem firstBelow?_eq_none_iff : q.firstBelow? p = none ↔ p.strictlyCovers q = false := by
  rw [← Bool.not_eq_true, Option.eq_none_iff_forall_ne_some]
  constructor
  · intro none strictly
    obtain ⟨s, -, first⟩ := exists_firstBelow? strictly
    exact none s first
  · exact fun apart s first => apart (strictlyCovers_of_firstBelow? first)

theorem firstBelow?_self (p : Path) : p.firstBelow? p = none := by
  rw [firstBelow?_eq_none_iff, strictlyCovers, bne_self_eq_false, Bool.false_and]

theorem firstBelow?_of_apart (apart : p.covers q = false) : q.firstBelow? p = none := by
  rw [firstBelow?_eq_none_iff, strictlyCovers, apart, Bool.and_false]

/-! ## Children -/

/-- `q` is the path of the segment `s` in the directory `p`. -/
def IsChild (q p : Path) (s : String) : Prop := q.segments = p.segments ++ [s]

theorem pieces_of_isSegment (segment : IsSegment s) : pieces s = [s] := by
  rw [pieces, Text.split_eq_singleton segment.2.2.2, List.map_singleton, String.ofList_toList]

theorem isChild_join (p : Path) (segment : IsSegment s) : (p.join s).IsChild p s := by
  have all : ∀ t ∈ [s], IsSegment t := by simpa using segment
  change walk p.segments (pieces s) = _
  rw [pieces_of_isSegment segment, walk_segments all]

theorem join_dot (p : Path) : p.join "." = p := by
  apply Path.ext
  have pieces : pieces "." = ["."] := by decide
  show walk p.segments (StorageGateway.pieces ".") = _
  rw [pieces]
  rfl

theorem join_dots (p : Path) : p.join ".." = p.parent := by
  apply Path.ext
  have pieces : pieces ".." = [".."] := by decide
  show walk p.segments (StorageGateway.pieces "..") = _
  rw [pieces]
  rfl

theorem eq_root_or_isChild (p : Path) : p = root ∨ p.IsChild p.parent p.lastSegment := by
  rcases List.eq_nil_or_concat p.segments with none | ⟨front, last, shape⟩
  · exact .inl (Path.ext none)
  · refine .inr ?_
    simp [IsChild, parent, lastSegment, shape]

/-- A path beneath the root is settled by its directory and its last segment. -/
theorem eq_of_lastSegment_eq (beneath : p ≠ root) (below : q ≠ root) (inside : p.parent = q.parent)
    (last : p.lastSegment = q.lastSegment) : p = q := by
  have own : p.IsChild p.parent p.lastSegment := p.eq_root_or_isChild.resolve_left beneath
  have other : q.IsChild q.parent q.lastSegment := q.eq_root_or_isChild.resolve_left below
  apply Path.ext
  rw [own, other, inside, last]

/-- Whatever holds of the root and passes on to children holds of every path. -/
@[elab_as_elim] theorem inductionOn {motive : Path → Prop} (p : Path) (atRoot : motive root)
    (step : ∀ {q p s}, q.IsChild p s → motive p → motive q) : motive p := by
  generalize length : p.segments.length = n
  induction n generalizing p with
  | zero =>
    have none : p = root := Path.ext (List.eq_nil_of_length_eq_zero length)
    rwa [none]
  | succ n ih =>
    rcases p.eq_root_or_isChild with rfl | child
    · exact atRoot
    · refine step child (ih p.parent ?_)
      rw [child, List.length_append, List.length_singleton] at length
      omega

namespace IsChild

theorem parent_eq (child : q.IsChild p s) : q.parent = p := by
  apply Path.ext
  change q.segments.dropLast = p.segments
  rw [child, List.dropLast_concat]

theorem lastSegment_eq (child : q.IsChild p s) : q.lastSegment = s := by
  rw [lastSegment, child]
  simp

theorem isSegment (child : q.IsChild p s) : IsSegment s :=
  q.isSegment s (child ▸ List.mem_append_right _ List.mem_cons_self)

/-- The name of a child leads to it. -/
theorem join_eq (child : q.IsChild p s) : p.join s = q :=
  Path.ext ((isChild_join p child.isSegment).trans child.symm)

theorem covers (child : q.IsChild p s) : p.covers q = true :=
  covers_iff.mpr (child ▸ List.prefix_append _ _)

theorem not_covers (child : q.IsChild p s) : q.covers p = false := by
  rw [← Bool.not_eq_true, covers_iff]
  intro prefixed
  have shorter := prefixed.length_le
  rw [child, List.length_append, List.length_singleton] at shorter
  omega

theorem ne_root (child : q.IsChild p s) : q ≠ root := by
  rintro rfl
  have covers := p.root_covers
  rw [child.not_covers] at covers
  contradiction

/-- What covers a child is the child or covers its directory. -/
theorem covers_iff (child : q.IsChild p s) : r.covers q = true ↔ r = q ∨ r.covers p = true := by
  rw [Path.covers_iff, Path.covers_iff, child, List.prefix_concat_iff, Path.ext_iff, child]

/-- On the way down to a path there is at most one child of a directory. -/
theorem eq_of_covers {dir : Path} {a b : String} (child : p.IsChild dir a) (other : q.IsChild dir b)
    (above : p.covers r = true) (also : q.covers r = true) : p = q := by
  rcases covers_total above also with covers | covers
  · refine (other.covers_iff.mp covers).resolve_right fun up => ?_
    rw [child.not_covers] at up
    contradiction
  · refine ((child.covers_iff.mp covers).resolve_right fun up => ?_).symm
    rw [other.not_covers] at up
    contradiction

end IsChild

theorem parent_covers (p : Path) : p.parent.covers p = true := by
  rcases p.eq_root_or_isChild with rfl | child
  · exact covers_refl root
  · exact child.covers

theorem parent_ne (beneath : p ≠ root) : p.parent ≠ p := by
  intro same
  have apart := (p.eq_root_or_isChild.resolve_left beneath).not_covers
  rw [same, covers_refl] at apart
  contradiction

/-! ## The way up -/

theorem ancestors_root : root.ancestors = [root] := rfl

theorem segments_ancestors (p : Path) :
    p.ancestors.map segments =
      (List.range (p.segments.length + 1)).map fun n =>
        p.segments.take (p.segments.length - n) := by
  rw [ancestors, List.map_map]
  rfl

theorem ancestors_child (child : q.IsChild p s) : q.ancestors = q :: p.ancestors := by
  have injective : Function.Injective segments := fun _ _ => Path.ext
  refine List.map_injective_iff.mpr injective ?_
  rw [List.map_cons, segments_ancestors, segments_ancestors, List.range_succ_eq_map, List.map_cons,
    List.map_map, Nat.sub_zero, List.take_length]
  have length : q.segments.length = p.segments.length + 1 := by rw [child]; simp
  rw [length]
  refine congrArg _ (List.map_congr_left fun n _ => ?_)
  have steps : p.segments.length + 1 - (n + 1) = p.segments.length - n := by omega
  rw [Function.comp_apply, steps, child, List.take_append_of_le_length (Nat.sub_le _ _)]

/-- What is attached to a path or, failing that, to the nearest path above it. -/
def nearest? {α : Type} (attached : Path → Option α) (p : Path) : Option α :=
  p.ancestors.findSome? attached

variable {α : Type} {attached : Path → Option α}

theorem nearest?_root : nearest? attached root = attached root := by
  rw [nearest?, ancestors_root, List.findSome?_singleton]

/-- What is attached to a child comes before what is nearest to its directory. -/
theorem nearest?_child (child : q.IsChild p s) :
    nearest? attached q = (attached q).or (nearest? attached p) := by
  rw [nearest?, ancestors_child child, List.findSome?_cons]
  cases attached q <;> rfl

/-- What is attached to a path itself is nearest. -/
theorem nearest?_of_attached {x : α} (own : attached p = some x) : nearest? attached p = some x := by
  rcases p.eq_root_or_isChild with rfl | child
  · rw [nearest?_root, own]
  · rw [nearest?_child child, own, Option.some_or]

/-- The nearest of what is attached lies at some path, and nothing lies between. -/
theorem nearest?_eq_some_iff {x : α} :
    nearest? attached p = some x ↔
      ∃ q, q.covers p = true ∧ attached q = some x ∧
        ∀ r, r.covers p = true → q.strictlyCovers r = true → attached r = none := by
  induction p using inductionOn with
  | atRoot =>
    rw [nearest?_root]
    constructor
    · intro found
      refine ⟨root, covers_refl root, found, fun r above below => ?_⟩
      obtain ⟨differ, covers⟩ := strictlyCovers_iff.mp below
      exact absurd (covers_antisymm covers above) differ
    · rintro ⟨q, above, found, -⟩
      rwa [covers_antisymm (root_covers q) above]
  | @step q p s child ih =>
    rw [nearest?_child child]
    cases own : attached q with
    | some y =>
      rw [Option.some_or]
      constructor
      · intro same
        refine ⟨q, covers_refl q, own.trans same, fun r above below => ?_⟩
        obtain ⟨differ, covers⟩ := strictlyCovers_iff.mp below
        exact absurd (covers_antisymm covers above) differ
      · rintro ⟨r, above, found, between⟩
        rw [← own, ← found]
        by_contra differ
        have strictly : r.strictlyCovers q = true :=
          strictlyCovers_iff.mpr ⟨fun same => differ (by rw [same]), above⟩
        rw [between q (covers_refl q) strictly] at own
        contradiction
    | none =>
      rw [Option.none_or, ih]
      constructor
      · rintro ⟨r, above, found, between⟩
        refine ⟨r, covers_trans above child.covers, found, fun t covers below => ?_⟩
        rcases child.covers_iff.mp covers with rfl | covers
        · exact own
        · exact between t covers below
      · rintro ⟨r, above, found, between⟩
        rcases child.covers_iff.mp above with rfl | above
        · rw [own] at found
          contradiction
        · exact ⟨r, above, found, fun t covers =>
            between t (covers_trans covers child.covers)⟩

theorem nearest?_eq_none_iff :
    nearest? attached p = none ↔ ∀ q, q.covers p = true → attached q = none := by
  induction p using inductionOn with
  | atRoot =>
    rw [nearest?_root]
    refine ⟨fun absent q above => ?_, fun bare => bare root (covers_refl root)⟩
    rwa [covers_antisymm above (root_covers q)]
  | @step q p s child ih =>
    rw [nearest?_child child, Option.or_eq_none_iff, ih]
    constructor
    · rintro ⟨own, bare⟩ r above
      rcases child.covers_iff.mp above with rfl | above
      · exact own
      · exact bare r above
    · exact fun bare => ⟨bare q (covers_refl q), fun r above =>
        bare r (covers_trans above child.covers)⟩

/-- What is nearest depends on what is attached on the way up, and on nothing else. -/
theorem nearest?_congr {other : Path → Option α}
    (same : ∀ q, q.covers p = true → attached q = other q) :
    nearest? attached p = nearest? other p := by
  induction p using inductionOn with
  | atRoot =>
    rw [nearest?_root, nearest?_root, same root (covers_refl root)]
  | @step q p s child ih =>
    rw [nearest?_child child, nearest?_child child, same q (covers_refl q),
      ih fun r above => same r (covers_trans above child.covers)]

/-- Where nothing is attached from `base` down to a path, what is nearest is found above `base`. -/
theorem nearest?_of_bare {base : Path} (covers : base.covers p = true)
    (bare : ∀ q, base.covers q = true → q.covers p = true → attached q = none) :
    nearest? attached p = nearest? attached base.parent := by
  induction p using inductionOn with
  | atRoot =>
    obtain rfl := covers_antisymm covers (root_covers base)
    rfl
  | @step q p s child ih =>
    rw [nearest?_child child, bare q covers (covers_refl q), Option.none_or]
    rcases child.covers_iff.mp covers with rfl | above
    · rw [child.parent_eq]
    · exact ih above fun r below within => bare r below (covers_trans within child.covers)

/-- Nothing is attached to a path or beneath it. -/
def NoneBelow (attached : Path → Option α) (p : Path) : Prop :=
  ∀ q, p.covers q = true → attached q = none

theorem NoneBelow.empty (p : Path) : NoneBelow (Dict.empty : Dict Path α).find? p :=
  fun q _ => Dict.find?_empty q

theorem NoneBelow.insert {d : Dict Path α} (bare : NoneBelow d.find? p)
    (apart : p.covers q = false) (x : α) : NoneBelow (d.insert q x).find? p := by
  intro r below
  have other : r ≠ q := by
    rintro rfl
    rw [below] at apart
    contradiction
  rw [Dict.find?_insert, if_neg other, bare r below]

end Path

end StorageGateway
