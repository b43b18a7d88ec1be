import StorageGateway.Proofs.Path.Following

/-!
# Paths that follow, as texts

The text of a path goes on from that of a path above it with a tail: with nothing, or with a `/` and
what comes after it. To follow another path is to put this tail after another text and to clean the
whole. It can be undone, and to follow twice is to follow at once. Main statements:
`covers_iff_stem`, `follow?_eq_some_iff_spliced` and `tail_kept`.
-/

namespace StorageGateway

/-- What may stand after the text of a path without adding to its last segment. -/
def IsTail (tail : String) : Prop := tail = "" ∨ ∃ rest, tail = "/" ++ rest

namespace Path

variable {old mid new p q r : Path} {tail : String}

/-! ## Stems -/

/-- The text with which the texts of paths beneath `p` begin: that of `p`, or nothing for the root. -/
def stem (p : Path) : String := if p = root then "" else p.text

theorem stem_of_ne_root (beneath : p ≠ root) : p.stem = p.text := if_neg beneath

theorem stem_eq (p : Path) : p.stem = String.ofList (written p.segments) := by
  rw [stem]
  split
  · next atRoot =>
    rw [atRoot]
    rfl
  · next beneath =>
    have segments : p.segments ≠ [] := fun none => beneath (Path.ext none)
    rw [text, if_neg segments]

theorem written_append (segments more : List String) :
    String.ofList (written (segments ++ more)) =
      String.ofList (written segments) ++ String.ofList (written more) := by
  rw [written, List.flatMap_append, String.ofList_append]
  rfl

theorem written_cons (s : String) (rest : List String) :
    String.ofList (written (s :: rest)) = "/" ++ s ++ String.ofList (written rest) := by
  apply String.ext
  simp [written]

theorem isTail_written (segments : List String) : IsTail (String.ofList (written segments)) := by
  cases segments with
  | nil => exact .inl rfl
  | cons s rest =>
    refine .inr ⟨s ++ String.ofList (written rest), ?_⟩
    rw [written_cons, String.append_assoc]

/-- Segments that are written after a text are its last pieces. -/
theorem pieces_append_written (before : String) {segments : List String}
    (all : ∀ s ∈ segments, IsSegment s) :
    pieces (before ++ String.ofList (written segments)) = pieces before ++ segments := by
  induction segments generalizing before with
  | nil => simp [written]
  | cons s rest ih =>
    have shape : before ++ String.ofList (written (s :: rest)) =
        before ++ "/" ++ s ++ String.ofList (written rest) := by
      rw [written_cons, ← String.append_assoc, ← String.append_assoc]
    rw [shape, ih _ fun t present => all t (List.mem_cons_of_mem _ present), pieces_append,
      pieces_of_isSegment (all s List.mem_cons_self), List.append_assoc, List.singleton_append]

theorem pieces_stem (p : Path) : pieces p.stem = "" :: p.segments := by
  have whole := pieces_append_written "" p.isSegment
  rwa [String.empty_append, ← stem_eq] at whole

theorem stem_injective (same : p.stem = q.stem) : p = q := by
  have pieces := p.pieces_stem
  rw [same, q.pieces_stem] at pieces
  exact Path.ext ((List.cons_inj_right _).mp pieces.symm)

/-- A path whose stem goes on from that of another lies beneath it. -/
theorem segments_of_stem (starts : IsTail tail) (goesOn : q.stem = p.stem ++ tail) :
    ∃ rest, q.segments = p.segments ++ rest ∧ tail = String.ofList (written rest) := by
  obtain ⟨rest, segments⟩ : ∃ rest, q.segments = p.segments ++ rest := by
    rcases starts with rfl | ⟨after, rfl⟩
    · rw [String.append_empty] at goesOn
      exact ⟨[], by rw [stem_injective goesOn, List.append_nil]⟩
    · have pieces := q.pieces_stem
      rw [goesOn, ← String.append_assoc, pieces_append, p.pieces_stem, List.cons_append] at pieces
      exact ⟨_, ((List.cons_inj_right _).mp pieces).symm⟩
  refine ⟨rest, segments, ?_⟩
  rw [stem_eq, segments, written_append, ← stem_eq] at goesOn
  exact ((String.append_right_inj _).mp goesOn).symm

/-- A path covers another if the stem of the other goes on from its own with a tail. -/
theorem covers_iff_stem : p.covers q = true ↔ ∃ tail, IsTail tail ∧ q.stem = p.stem ++ tail := by
  rw [covers_iff]
  constructor
  · rintro ⟨rest, segments⟩
    exact ⟨_, isTail_written rest, by rw [stem_eq, ← segments, written_append, ← stem_eq]⟩
  · rintro ⟨tail, starts, goesOn⟩
    obtain ⟨rest, segments, -⟩ := segments_of_stem starts goesOn
    exact ⟨rest, segments.symm⟩

/-! ## Splicing -/

/-- Segments that are written after the text of a path lead beneath it. -/
theorem segments_ofText_append_written (p : Path) {more : List String}
    (all : ∀ s ∈ more, IsSegment s) :
    (ofText (p.text ++ String.ofList (written more))).segments = p.segments ++ more := by
  have own : walk [] (pieces p.text) = p.segments := congrArg segments (ofText_text p)
  change walk [] (pieces (p.text ++ String.ofList (written more))) = _
  rw [pieces_append_written _ all, walk, List.foldl_append]
  change walk (walk [] (pieces p.text)) more = _
  rw [own, walk_segments all]

/-- To follow is to put the tail after the text of the new path, and to clean the whole. -/
theorem follow?_eq_some_iff_spliced :
    p.follow? old new = some q ↔
      ∃ tail, IsTail tail ∧ p.stem = old.stem ++ tail ∧ q = ofText (new.text ++ tail) := by
  rw [follow?_eq_some_iff]
  constructor
  · rintro ⟨rest, before, after⟩
    have all : ∀ s ∈ rest, IsSegment s := fun s present =>
      p.isSegment s (before ▸ List.mem_append_right _ present)
    refine ⟨_, isTail_written rest, ?_, Path.ext ?_⟩
    · rw [stem_eq, before, written_append, ← stem_eq]
    · rw [after, new.segments_ofText_append_written all]
  · rintro ⟨tail, starts, goesOn, rfl⟩
    obtain ⟨rest, before, rfl⟩ := segments_of_stem starts goesOn
    have all : ∀ s ∈ rest, IsSegment s := fun s present =>
      p.isSegment s (before ▸ List.mem_append_right _ present)
    exact ⟨rest, before, new.segments_ofText_append_written all⟩

/-! ## Following back and on -/

theorem Follows.trans (first : Follows old mid p q) (second : Follows mid new q r) :
    Follows old new p r := by
  obtain ⟨rest, before, between⟩ := first
  obtain ⟨others, same, after⟩ := second
  obtain rfl : rest = others := List.append_cancel_left (between.symm.trans same)
  exact ⟨rest, before, after⟩

/-- To follow from `old` to `mid` and on to `new` is to follow from `old` to `new`. -/
theorem follow?_follow? (p old mid new : Path) :
    (p.follow? old mid).bind (fun q => q.follow? mid new) = p.follow? old new := by
  cases moved : p.follow? old mid with
  | none =>
    rw [Option.bind_none, eq_comm, follow?_eq_none_iff]
    exact follow?_eq_none_iff.mp moved
  | some q =>
    have first := follow?_eq_some_iff.mp moved
    rw [Option.bind_some]
    cases further : q.follow? mid new with
    | none =>
      rw [follow?_eq_none_iff, first.new_covers] at further
      contradiction
    | some r => exact (follow?_eq_some_iff.mpr (first.trans (follow?_eq_some_iff.mp further))).symm

/-- The laws of a path `p` that follows when `old` becomes `new`. -/
structure TailKept (old new p : Path) : Prop where
  /-- Just the paths at `old` and beneath it follow. -/
  isSome_iff : (p.follow? old new).isSome = true ↔ old.covers p = true
  /-- The tail of the text is put after another text. -/
  spliced : ∀ q, p.follow? old new = some q ↔
    ∃ tail, IsTail tail ∧ p.stem = old.stem ++ tail ∧ q = ofText (new.text ++ tail)
  /-- The place has a clean text, and below `new` the segments that `p` has below `old`. -/
  place : ∀ q, p.follow? old new = some q →
    IsCleanPath q.text ∧ q.segments = new.segments ++ p.segments.drop old.segments.length
  /-- The text of the place leads back. -/
  back : ∀ q, p.follow? old new = some q → (ofText q.text).follow? new old = some p
  /-- There is a way over any other path, and it leads to the same place. -/
  onward : ∀ mid, (p.follow? old mid).bind (fun q => (ofText q.text).follow? mid new) =
    p.follow? old new

/-- Whatever texts name them, a path that follows keeps its tail. -/
theorem tail_kept (path old new : String) : TailKept (ofText old) (ofText new) (ofText path) where
  isSome_iff := by
    rw [← Option.ne_none_iff_isSome, Ne, follow?_eq_none_iff, Bool.not_eq_false]
  spliced _ := follow?_eq_some_iff_spliced
  place q moved := by
    obtain ⟨rest, before, after⟩ := follow?_eq_some_iff.mp moved
    refine ⟨isCleanPath_text q, ?_⟩
    rw [after, before, List.drop_left]
  back q moved := by
    rw [ofText_text]
    exact follow?_eq_some_iff.mpr (follow?_eq_some_iff.mp moved).symm
  onward mid := by
    simp only [ofText_text]
    exact follow?_follow? _ _ mid _

/-- Beneath the root everything follows. -/
example :
    (ofText "b\\..//c/d").follow? (ofText "..") (ofText "/a/") = some (ofText "/a/c/d") := by
  decide +kernel

end Path

end StorageGateway
