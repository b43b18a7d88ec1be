import StorageGateway.Listing.Gather
import StorageGateway.Proofs.Path.Cleaning

/-!
# How a point bears on a request

A point bears on a request in just one way, which the segments of the two paths tell: they are the
same, or one list goes on from the other, or neither does. The texts of the paths tell it as well, as
what comes after the text of the upper path is cut at its first `/`. Main statements:
`Bearing.between_eq_iff` and `Bearing.between_classified`.
-/

namespace StorageGateway

/-- How a point bears on a request, by the segments of both. -/
inductive Bears (point request : Path) : Bearing → Prop
  | here : point.segments = request.segments → Bears point request .exact
  | above {child : String} {rest : List String} :
    request.segments ++ child :: rest = point.segments → Bears point request (.ancestor child)
  | below {selector : String} {more : List String} :
    point.segments ++ selector :: more = request.segments →
      Bears point request (.descendant selector ("/".intercalate more))
  | apart : ¬ point.segments <+: request.segments → ¬ request.segments <+: point.segments →
    Bears point request .unrelated

namespace Path

variable {p q : Path} {selector rest : String}

theorem splitBelow?_eq_none_iff : q.splitBelow? p = none ↔ p.strictlyCovers q = false := by
  rw [← firstBelow?_eq_none_iff, firstBelow?, Option.map_eq_none_iff]

/-- A path that goes on from another differs from it, and does not lie above it. -/
theorem not_strictlyCovers_of_append {s : String} {more : List String}
    (goesOn : p.segments ++ s :: more = q.segments) : p ≠ q ∧ q.strictlyCovers p = false := by
  have strictly := strictlyCovers_of_firstBelow? (firstBelow?_eq_some_iff.mpr ⟨more, goesOn⟩)
  obtain ⟨differ, covers⟩ := strictlyCovers_iff.mp strictly
  refine ⟨differ, Bool.eq_false_iff.mpr fun back => ?_⟩
  exact differ (covers_antisymm covers (strictlyCovers_iff.mp back).2)

/-! ## Texts of paths one above the other -/

/-- Segments with a `/` between them lead below a path one after another. -/
theorem segments_join_intercalate (p : Path) {more : List String} (all : ∀ s ∈ more, IsSegment s) :
    (p.join ("/".intercalate more)).segments = p.segments ++ more := by
  cases more with
  | nil =>
    rw [List.append_nil]
    rfl
  | cons s others =>
    change walk p.segments (pieces _) = _
    rw [pieces_intercalate all (List.cons_ne_nil s others), walk_segments all]

/-- A text is cut at its first `/` in only one way. -/
theorem cut_at_tail {a b x y : String} (plainA : '/' ∉ a.toList) (plainB : '/' ∉ b.toList)
    (tailX : IsTail x) (tailY : IsTail y) (same : a ++ x = b ++ y) : a = b ∧ x = y := by
  have front : ∀ {a x : String}, '/' ∉ a.toList → IsTail x →
      (a ++ x).toList.takeWhile (· != '/') = a.toList := by
    intro a x plain tail
    have whole : ∀ c ∈ a.toList, (c != '/') = true := fun c among =>
      bne_iff_ne.mpr fun slash => plain (slash ▸ among)
    rw [String.toList_append, List.takeWhile_append_of_pos whole]
    rcases tail with rfl | ⟨rest, rfl⟩
    · exact List.append_nil _
    · rw [String.toList_append]
      exact List.append_nil _
  have first : a = b := String.toList_inj.mp <| by
    rw [← front plainA tailX, same, front plainB tailY]
  subst first
  exact ⟨rfl, (String.append_right_inj _).mp same⟩

/-- What lies below a path is what its text goes on with: after a `/` the first segment, which is
all that comes before the next `/`, and then the rest. -/
theorem splitBelow?_eq_some_iff_stem :
    q.splitBelow? p = some (selector, rest) ↔
      '/' ∉ selector.toList ∧ ∃ tail, q.stem = p.stem ++ "/" ++ selector ++ tail ∧
        (tail = "" ∧ rest = "" ∨ tail = "/" ++ rest) := by
  rw [splitBelow?_eq_some_iff]
  constructor
  · rintro ⟨more, shape, rfl⟩
    have segment : IsSegment selector := q.isSegment selector (by simp [← shape])
    refine ⟨separator_not_mem segment rfl, String.ofList (written more), ?_, ?_⟩
    · rw [stem_eq, ← shape, written_append, ← stem_eq, written_cons, String.append_assoc,
        String.append_assoc, String.append_assoc]
    · cases more with
      | nil => exact .inl ⟨rfl, rfl⟩
      | cons s others => exact .inr (written_eq_intercalate s others)
  · rintro ⟨plain, tail, goesOn, ends⟩
    have starts : IsTail tail := ends.imp And.left fun same => ⟨rest, same⟩
    rw [String.append_assoc, String.append_assoc] at goesOn
    obtain ⟨below, segments, shape⟩ := segments_of_stem (.inr ⟨_, rfl⟩) goesOn
    cases below with
    | nil => exact absurd shape (by simp [written])
    | cons s more =>
      have segment : IsSegment s := q.isSegment s (by simp [segments])
      rw [written_cons, String.append_assoc] at shape
      obtain ⟨rfl, rfl⟩ := cut_at_tail plain (separator_not_mem segment rfl) starts (isTail_written more)
        ((String.append_right_inj _).mp shape)
      refine ⟨more, segments.symm, ?_⟩
      cases more with
      | nil =>
        rcases ends with ⟨-, rfl⟩ | same
        · rfl
        · exact absurd same.symm (by simp [written])
      | cons t others =>
        rw [written_eq_intercalate] at ends
        rcases ends with ⟨none, -⟩ | same
        · exact absurd none (by simp)
        · exact ((String.append_right_inj _).mp same).symm

end Path

namespace Bearing

open StorageGateway.Path

variable {point request : Path} {bearing : Bearing} {child selector rest : String}

theorem bears_between (point request : Path) : Bears point request (between point request) := by
  rw [between]
  by_cases same : point = request
  · rw [if_pos same]
    exact .here (congrArg segments same)
  rw [if_neg same]
  cases first : point.firstBelow? request with
  | some child =>
    obtain ⟨rest, shape⟩ := firstBelow?_eq_some_iff.mp first
    exact .above shape
  | none =>
    cases split : request.splitBelow? point with
    | some found =>
      obtain ⟨more, shape, rest⟩ := splitBelow?_eq_some_iff.mp split
      dsimp only
      rw [rest]
      exact .below shape
    | none =>
      have notAbove := firstBelow?_eq_none_iff.mp first
      have notBelow := splitBelow?_eq_none_iff.mp split
      rw [strictlyCovers, bne_iff_ne.mpr (Ne.symm same), Bool.true_and] at notAbove
      rw [strictlyCovers, bne_iff_ne.mpr same, Bool.true_and] at notBelow
      refine .apart (fun covers => ?_) fun covers => ?_
      · rw [covers_iff.mpr covers] at notBelow
        contradiction
      · rw [covers_iff.mpr covers] at notAbove
        contradiction

/-- The segments leave no choice. -/
theorem between_eq_of_bears (bears : Bears point request bearing) :
    between point request = bearing := by
  rw [between]
  cases bears with
  | here same => rw [if_pos (Path.ext same)]
  | above shape =>
    rw [if_neg (Ne.symm (not_strictlyCovers_of_append shape).1),
      firstBelow?_eq_some_iff.mpr ⟨_, shape⟩]
  | below shape =>
    obtain ⟨differ, notAbove⟩ := not_strictlyCovers_of_append shape
    rw [if_neg differ, firstBelow?_eq_none_iff.mpr notAbove,
      splitBelow?_eq_some_iff.mpr ⟨_, shape, rfl⟩]
  | apart notBelow notAbove =>
    have differ : point ≠ request := by
      rintro rfl
      exact notBelow (List.prefix_refl _)
    have below : point.covers request = false :=
      Bool.eq_false_iff.mpr fun covers => notBelow (covers_iff.mp covers)
    have above : request.covers point = false :=
      Bool.eq_false_iff.mpr fun covers => notAbove (covers_iff.mp covers)
    rw [if_neg differ, firstBelow?_of_apart above,
      splitBelow?_eq_none_iff.mpr (by rw [strictlyCovers, below, Bool.and_false])]

theorem between_eq_iff : between point request = bearing ↔ Bears point request bearing :=
  ⟨fun same => same ▸ bears_between point request, between_eq_of_bears⟩

/-! ## One bearing after another -/

theorem between_eq_exact_iff :
    between point request = .exact ↔ point.segments = request.segments := by
  rw [between_eq_iff]
  exact ⟨fun | .here same => same, .here⟩

theorem between_eq_ancestor_iff :
    between point request = .ancestor child ↔
      ∃ rest, request.segments ++ child :: rest = point.segments := by
  rw [between_eq_iff]
  exact ⟨fun | .above shape => ⟨_, shape⟩, fun ⟨_, shape⟩ => .above shape⟩

theorem between_eq_descendant_iff :
    between point request = .descendant selector rest ↔
      ∃ more, point.segments ++ selector :: more = request.segments ∧
        rest = "/".intercalate more := by
  rw [between_eq_iff]
  exact ⟨fun | .below shape => ⟨_, shape, rfl⟩, fun ⟨_, shape, same⟩ => same ▸ .below shape⟩

theorem between_eq_unrelated_iff :
    between point request = .unrelated ↔
      ¬ point.segments <+: request.segments ∧ ¬ request.segments <+: point.segments := by
  rw [between_eq_iff]
  exact ⟨fun | .apart notBelow notAbove => ⟨notBelow, notAbove⟩,
    fun ⟨notBelow, notAbove⟩ => .apart notBelow notAbove⟩

/-- A request above a point is a point above the request. -/
theorem between_dual :
    between point request = .ancestor child ↔ ∃ rest, between request point = .descendant child rest := by
  simp only [between_eq_ancestor_iff, between_eq_descendant_iff]
  exact ⟨fun ⟨more, shape⟩ => ⟨_, more, shape, rfl⟩, fun ⟨_, more, shape, _⟩ => ⟨more, shape⟩⟩

/-- Whatever texts name a point and a request beneath it, the point with the first segment and the
rest after it names the request. -/
theorem rejoin {point request : String}
    (bears : between (ofText point) (ofText request) = .descendant selector rest) :
    ofText (point ++ "/" ++ selector ++ "/" ++ rest) = ofText request := by
  obtain ⟨more, shape, rfl⟩ := between_eq_descendant_iff.mp bears
  have segment : ∀ s ∈ selector :: more, IsSegment s := fun s among =>
    (ofText request).isSegment s (shape ▸ List.mem_append_right _ among)
  have child : ((ofText point).join selector).IsChild (ofText point) selector :=
    isChild_join _ (segment selector List.mem_cons_self)
  have rest := segments_join_intercalate ((ofText point).join selector) fun s among =>
    segment s (List.mem_cons_of_mem _ among)
  rw [ofText, ← join_join, ← join_join]
  apply Path.ext
  rw [← shape]
  refine rest.trans ?_
  rw [child, List.append_assoc, List.singleton_append]

/-- The laws of how a point bears on a request, whatever texts name them. -/
structure Classified (point request : String) : Prop where
  /-- By the segments there is one bearing and no other. -/
  only : ∃! bearing, Bears (ofText point) (ofText request) bearing
  /-- It is found: the segments are the same, -/
  exact : between (ofText point) (ofText request) = .exact ↔
    (ofText point).segments = (ofText request).segments
  /-- or those of the point go on from those of the request, first with the child, -/
  ancestor : ∀ child, between (ofText point) (ofText request) = .ancestor child ↔
    ∃ rest, (ofText request).segments ++ child :: rest = (ofText point).segments
  /-- or those of the request go on from those of the point, first with the selector and then with
  the rest, -/
  descendant : ∀ selector rest, between (ofText point) (ofText request) = .descendant selector rest ↔
    ∃ more, (ofText point).segments ++ selector :: more = (ofText request).segments ∧
      rest = "/".intercalate more
  /-- or neither go on from the others. -/
  unrelated : between (ofText point) (ofText request) = .unrelated ↔
    ¬ (ofText point).segments <+: (ofText request).segments ∧
      ¬ (ofText request).segments <+: (ofText point).segments
  /-- The selector and the rest stand in the text of the request after that of the point. -/
  written : ∀ selector rest, between (ofText point) (ofText request) = .descendant selector rest ↔
    '/' ∉ selector.toList ∧
      ∃ tail, (ofText request).stem = (ofText point).stem ++ "/" ++ selector ++ tail ∧
        (tail = "" ∧ rest = "" ∨ tail = "/" ++ rest)
  /-- If the request is above the point, the point is beneath the request by the same segment. -/
  dual : ∀ child, between (ofText point) (ofText request) = .ancestor child ↔
    ∃ rest, between (ofText request) (ofText point) = .descendant child rest
  /-- The upper path, the selector and the rest give back the lower path. -/
  rejoined : ∀ selector rest, between (ofText point) (ofText request) = .descendant selector rest →
    (ofText (point ++ "/" ++ selector ++ "/" ++ rest)).text = (ofText request).text

/-- How a point bears on a request is settled by their segments. -/
theorem between_classified (point request : String) : Classified point request where
  only := ⟨_, bears_between _ _, fun _ bears => (between_eq_of_bears bears).symm⟩
  exact := between_eq_exact_iff
  ancestor _ := between_eq_ancestor_iff
  descendant _ _ := between_eq_descendant_iff
  unrelated := between_eq_unrelated_iff
  written selector rest := by
    rw [between_eq_descendant_iff, ← splitBelow?_eq_some_iff, splitBelow?_eq_some_iff_stem]
  dual _ := between_dual
  rejoined _ _ bears := congrArg text (rejoin bears)

/-- A segment that goes on from one of the point leads elsewhere. -/
example :
    between (ofText "gh//x/") (ofText "\\gh\\x\\.\\v1/a/../b/c") = .descendant "v1" "b/c" ∧
      between (ofText "/gh/x") (ofText "/gh/xy/v1") = .unrelated := by
  decide +kernel

end Bearing

end StorageGateway
