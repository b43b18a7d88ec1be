import StorageGateway.Proofs.Path.Joining

/-!
# Paths that follow another

When `old` becomes `new`, whatever lies at `old` or beneath it gets the same place at `new`. What is
asked for from a path that follows leads to a path that follows, and if `old` and `new` are in one
directory, both are covered by the same paths. Main statements: `Follows.joinBelow`,
`Follows.covers_follow` and `Follows.nearest?_eq`.
-/

namespace StorageGateway

namespace Path

variable {old new p q r : Path}

/-- `q` lies below `new` as `p` lies below `old`. -/
def Follows (old new p q : Path) : Prop :=
  ∃ rest, p.segments = old.segments ++ rest ∧ q.segments = new.segments ++ rest

theorem follow?_eq_some_iff : p.follow? old new = some q ↔ Follows old new p q := by
  rw [follow?]
  constructor
  · intro moved
    split at moved
    · next above =>
      cases moved
      exact ⟨_, List.prefix_iff_eq_append.mp (covers_iff.mp above) |>.symm, rfl⟩
    · contradiction
  · rintro ⟨rest, before, after⟩
    have above : old.covers p = true := covers_iff.mpr ⟨rest, before.symm⟩
    rw [if_pos above, Option.some.injEq]
    apply Path.ext
    change new.segments ++ p.segments.drop old.segments.length = _
    rw [after, before, List.drop_left]

theorem follow?_eq_none_iff : p.follow? old new = none ↔ old.covers p = false := by
  rw [follow?]
  cases old.covers p <;> simp

/-- What covers a path from outside of `base`, which covers it too, is what covers the directory of
`base`. -/
theorem covers_iff_of_outside {base : Path} (above : base.covers p = true)
    (outside : base.covers r = false) : r.covers p = true ↔ r.covers base.parent = true := by
  rcases base.eq_root_or_isChild with rfl | child
  · rw [root_covers] at outside
    contradiction
  · constructor
    · intro covers
      rcases covers_total above covers with inside | covers
      · rw [outside] at inside
        contradiction
      · rcases child.covers_iff.mp covers with rfl | covers
        · rw [covers_refl] at outside
          contradiction
        · exact covers
    · exact fun covers => covers_trans (covers_trans covers child.covers) above

namespace Follows

theorem covers (h : Follows old new p q) : old.covers p = true := by
  obtain ⟨rest, before, -⟩ := h
  exact covers_iff.mpr ⟨rest, before.symm⟩

theorem new_covers (h : Follows old new p q) : new.covers q = true := by
  obtain ⟨rest, -, after⟩ := h
  exact covers_iff.mpr ⟨rest, after.symm⟩

theorem symm (h : Follows old new p q) : Follows new old q p := by
  obtain ⟨rest, before, after⟩ := h
  exact ⟨rest, after, before⟩

theorem eq_iff (h : Follows old new p q) : q = p ↔ old = new := by
  obtain ⟨rest, before, after⟩ := h
  rw [Path.ext_iff, Path.ext_iff, before, after, List.append_left_inj, eq_comm]

theorem eq_new (h : Follows old new old q) : q = new := by
  obtain ⟨rest, before, after⟩ := h
  rw [List.self_eq_append_right] at before
  rw [Path.ext_iff, after, before, List.append_nil]

/-- Beneath `old` there is one directory more on the way, which follows as well. -/
theorem parent (h : Follows old new p q) (beneath : p ≠ old) :
    Follows old new p.parent q.parent ∧ q.lastSegment = p.lastSegment := by
  obtain ⟨rest, before, after⟩ := h
  rcases List.eq_nil_or_concat rest with rfl | ⟨front, last, rfl⟩
  · exact absurd (Path.ext (by rw [before, List.append_nil])) beneath
  · refine ⟨⟨front, ?_, ?_⟩, ?_⟩
    · change p.segments.dropLast = _
      rw [before, List.concat_eq_append, ← List.append_assoc, List.dropLast_concat]
    · change q.segments.dropLast = _
      rw [after, List.concat_eq_append, ← List.append_assoc, List.dropLast_concat]
    · rw [Path.lastSegment, Path.lastSegment, before, after]
      simp

theorem join (h : Follows old new p q) {request : String} (stays : ".." ∉ pieces request) :
    Follows old new (p.join request) (q.join request) := by
  obtain ⟨rest, before, after⟩ := h
  refine ⟨rest ++ named request, ?_, ?_⟩
  · rw [segments_join stays, before, List.append_assoc]
  · rw [segments_join stays, after, List.append_assoc]

/-- A request leads to a path that follows, or is refused as before. -/
theorem joinBelow (h : Follows old new p q) (request : String) :
    match p.joinBelow request with
    | .error e => q.joinBelow request = .error e
    | .ok path => ∃ target, q.joinBelow request = .ok target ∧ Follows old new path target := by
  rw [Path.joinBelow, Path.joinBelow]
  by_cases up : ".." ∈ pieces request
  · rw [if_pos up, if_pos up]
  · rw [if_neg up, if_neg up]
    exact ⟨q.join request, rfl, h.join up⟩

/-- Of two paths that follow, one covers the other as before. -/
theorem covers_of_follows {target : Path} (h : Follows old new p q)
    (moved : Follows old new r target) : target.covers q = r.covers p := by
  obtain ⟨rest, before, after⟩ := h
  obtain ⟨more, start, finish⟩ := moved
  rw [Bool.eq_iff_iff, covers_iff, covers_iff, before, after, start, finish,
    List.prefix_append_right_inj, List.prefix_append_right_inj]

/-- A path from outside of `new` covers, once it has followed, what it covered before. -/
theorem covers_follow (h : Follows old new p q) (siblings : old.parent = new.parent)
    (outside : new.covers r = false) :
    ((r.follow? old new).getD r).covers q = r.covers p := by
  cases moved : r.follow? old new with
  | none =>
    rw [Bool.eq_iff_iff, Option.getD_none, covers_iff_of_outside h.new_covers outside, ← siblings,
      covers_iff_of_outside h.covers (follow?_eq_none_iff.mp moved)]
  | some target => exact h.covers_of_follows (follow?_eq_some_iff.mp moved)

/-- A path from outside of `old` and `new` covers both places or neither. -/
theorem covers_eq (h : Follows old new p q) (siblings : old.parent = new.parent)
    (outsideOld : old.covers r = false) (outsideNew : new.covers r = false) :
    r.covers q = r.covers p := by
  have followed := h.covers_follow siblings outsideNew
  rwa [follow?_eq_none_iff.mpr outsideOld, Option.getD_none] at followed

/-- What is nearest stays the same if it is found above `old`. -/
theorem nearest?_eq {α : Type} {attached : Path → Option α} (h : Follows old new p q)
    (siblings : old.parent = new.parent)
    (bareNew : NoneBelow attached new)
    (bareOld : ∀ r, old.covers r = true → r.covers p = true → attached r = none) :
    nearest? attached q = nearest? attached p := by
  rw [nearest?_of_bare h.new_covers fun r below _ => bareNew r below,
    nearest?_of_bare h.covers bareOld, siblings]

end Follows

end Path

end StorageGateway
