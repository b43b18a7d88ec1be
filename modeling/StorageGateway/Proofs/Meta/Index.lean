import StorageGateway.Meta.Basic
import StorageGateway.Proofs.Path.Following

/-!
# Which meta governs a path

Metas are kept at their paths, so that a path is governed by the meta with the longest path above
it. Main statements: `Built.of_nearest?`, `nearest?_child` and `Built.nearest?_follow`.
-/

namespace StorageGateway

namespace MetaIndex

variable {i : MetaIndex} {old new p q : Path}

/-- A path in a directory is governed by a meta of its own or else like the directory. -/
theorem nearest?_child {s : String} (child : q.IsChild p s) :
    i.nearest? q = (i.get? q).or (i.nearest? p) :=
  Path.nearest?_child child

variable [PatternEngine]

/-- The indexes that come about by setting and removing metas. -/
inductive Built : MetaIndex → Prop
  | empty : Built .empty
  | set {i : MetaIndex} (m : Meta) : Built i → Built (i.set m)
  | remove {i : MetaIndex} (p : Path) : Built i → Built (i.remove p)

/-- A meta is kept at its own path. -/
theorem Built.path_eq (built : i.Built) {r : DirectoryRules}
    (found : i.get? p = some r) : Path.ofText r.source.path = p := by
  induction built with
  | empty => contradiction
  | @set i m _ ih =>
    rw [get?, MetaIndex.set, Dict.find?_insert] at found
    split at found
    · next same =>
      cases found
      rw [same]
      exact Path.ofText_text _
    · exact ih found
  | @remove i q _ ih =>
    rw [get?, MetaIndex.remove, Dict.find?_erase] at found
    split at found
    · contradiction
    · exact ih found

/-- A meta that governs a path is above it, and no other is nearer. -/
theorem Built.of_nearest? (built : i.Built) {r : DirectoryRules} (governs : i.nearest? p = some r) :
    i.get? (.ofText r.source.path) = some r ∧ (Path.ofText r.source.path).covers p = true ∧
      ∀ q, q.covers p = true → (Path.ofText r.source.path).strictlyCovers q = true →
        i.get? q = none := by
  obtain ⟨q, above, found, between⟩ := Path.nearest?_eq_some_iff.mp governs
  obtain rfl := built.path_eq found
  exact ⟨found, above, between⟩

/-- Where the meta that governs a path is not at `old` or beneath it, no meta is there on the way. -/
theorem Built.bare_of_outside (built : i.Built)
    (outside : ∀ r ∈ i.nearest? p, old.covers (.ofText r.source.path) = false) (q : Path)
    (below : old.covers q = true) (covers : q.covers p = true) : i.get? q = none := by
  cases governs : i.nearest? p with
  | none => exact Path.nearest?_eq_none_iff.mp governs q covers
  | some r =>
    obtain ⟨-, reaches, between⟩ := built.of_nearest? governs
    have apart := outside r governs
    refine between q covers (Path.strictlyCovers_iff.mpr ⟨?_, ?_⟩)
    · intro same
      rw [same, below] at apart
      contradiction
    · rcases Path.covers_total reaches covers with inside | inside
      · exact inside
      · rw [Path.covers_trans below inside] at apart
        contradiction

/-- A path that follows is governed as before. -/
theorem Built.nearest?_follow (built : i.Built) (follows : Path.Follows old new p q)
    (siblings : old.parent = new.parent) (free : Path.NoneBelow i.get? new)
    (outside : ∀ r ∈ i.nearest? p, old.covers (.ofText r.source.path) = false) :
    i.nearest? q = i.nearest? p :=
  follows.nearest?_eq siblings free (built.bare_of_outside outside)

end MetaIndex

end StorageGateway
