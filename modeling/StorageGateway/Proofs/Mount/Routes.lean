import StorageGateway.Mount.Routes
import StorageGateway.Proofs.Path.Following

/-!
# Where paths lead

Mounts are kept at their paths, so that a path leads to the mount with the longest path above it.
Renaming a mount moves this mount and no other. Main statements: `resolve?_eq_some_iff`,
`resolve?_of_follows` and `resolve?_of_apart`.
-/

namespace StorageGateway

theorem Path.Follows.within_eq {old new p q : Path} (h : Path.Follows old new p q) :
    q.within new = p.within old := by
  obtain ⟨rest, before, after⟩ := h
  apply Path.ext
  change q.segments.drop _ = p.segments.drop _
  rw [before, after, List.drop_left, List.drop_left]

/-- A child is a child, seen from further up as well. -/
theorem Path.IsChild.within {p q base : Path} {s : String} (child : q.IsChild p s)
    (covers : base.covers p = true) : (q.within base).IsChild (p.within base) s := by
  show q.segments.drop base.segments.length = p.segments.drop base.segments.length ++ [s]
  rw [child, List.drop_append_of_le_length (Path.covers_iff.mp covers).length_le]

namespace Routes

/-- The routes that come about by mounting, unmounting and renaming. -/
inductive Built : Routes → Prop
  | empty : Built .empty
  | mount {r : Routes} (p : Path) (backend : BackendId) (now : Time) :
    Built r → Built (r.mount p backend now)
  | unmount {r : Routes} (p : Path) : Built r → Built (r.unmount p)
  | rename {r s : Routes} {old new : Path} {now : Time} :
    Built r → r.rename old new now = .ok s → Built s

variable {r s : Routes} {old new p q : Path} {now : Time}

/-- A mount is renamed to a free path, and all others stay. -/
theorem of_rename (renamed : r.rename old new now = .ok s) :
    r.get? new = none ∧ ∃ m, r.get? old = some m ∧
      ∀ p, s.get? p = if p = new then some { m with path := new, modified := now }
        else if p = old then none else r.get? p := by
  rw [rename] at renamed
  split at renamed
  · contradiction
  · next free =>
    split at renamed
    · contradiction
    · next m found =>
      cases renamed
      refine ⟨?_, m, found, fun p => ?_⟩
      · simpa [Dict.contains, get?] using free
      · rw [get?, get?, Dict.find?_insert, Dict.find?_erase]

/-- A path that is taken is refused, whatever is to be moved there. -/
theorem rename_of_taken {m : Mount} (taken : r.get? new = some m) (old : Path) (now : Time) :
    r.rename old new now = .error (.alreadyExists new.text) := by
  rw [rename, if_pos]
  exact Option.isSome_of_eq_some taken

theorem not_contains_of_free (free : r.get? p = none) : r.mounts.contains p = false := by
  change (r.get? p).isSome = false
  rw [free]
  rfl

/-- What is not mounted cannot be moved to a path that is free. -/
theorem rename_of_missing (free : r.get? new = none) (missing : r.get? old = none) (now : Time) :
    r.rename old new now = .error (.noMountPoint old.text) := by
  rw [rename, not_contains_of_free free, missing]
  rfl

/-- A mount can be moved to a path that is free. -/
theorem exists_rename {m : Mount} (free : r.get? new = none) (mounted : r.get? old = some m)
    (now : Time) : ∃ s, r.rename old new now = .ok s := by
  rw [rename, not_contains_of_free free, mounted]
  exact ⟨_, rfl⟩

theorem ne_of_rename (renamed : r.rename old new now = .ok s) : old ≠ new := by
  obtain ⟨free, m, found, -⟩ := of_rename renamed
  rintro rfl
  rw [free] at found
  contradiction

/-- A mount is kept at its own path. -/
theorem Built.path_eq (built : r.Built) {m : Mount} (found : r.get? p = some m) : m.path = p := by
  induction built generalizing p m with
  | empty => contradiction
  | @mount r q backend now _ ih =>
    rw [get?, Routes.mount, Dict.find?_insert] at found
    split at found
    · next same =>
      cases found
      exact same.symm
    · exact ih found
  | @unmount r q _ ih =>
    rw [get?, Routes.unmount, Dict.find?_erase] at found
    split at found
    · contradiction
    · exact ih found
  | @rename r s old new now _ renamed ih =>
    obtain ⟨-, known, -, moved⟩ := of_rename renamed
    rw [moved] at found
    split at found
    · next same =>
      cases found
      exact same.symm
    · split at found
      · contradiction
      · exact ih found

/-! ## Routing -/

theorem resolve?_eq (r : Routes) (p : Path) :
    r.resolve? p = (Path.nearest? r.get? p).map fun m => { mount := m, place := p.within m.path } :=
  rfl

/-- A path leads to a mount above it if no other mount is nearer. -/
theorem resolve?_eq_some_iff (built : r.Built) {d : Destination} :
    r.resolve? p = some d ↔
      d.mount.path.covers p = true ∧ r.get? d.mount.path = some d.mount ∧
        (∀ q, q.covers p = true → d.mount.path.strictlyCovers q = true → r.get? q = none) ∧
        d.place = p.within d.mount.path := by
  rw [resolve?_eq, Option.map_eq_some_iff]
  constructor
  · rintro ⟨m, near, rfl⟩
    obtain ⟨q, above, found, between⟩ := Path.nearest?_eq_some_iff.mp near
    obtain rfl := built.path_eq found
    exact ⟨above, found, between, rfl⟩
  · rintro ⟨above, found, between, place⟩
    refine ⟨d.mount, Path.nearest?_eq_some_iff.mpr ⟨_, above, found, between⟩, ?_⟩
    rw [← place]

/-- Below a mount, a path leads to it or to a mount further down. -/
theorem Built.covers_of_resolve? (built : r.Built) {d : Destination} (leads : r.resolve? p = some d)
    {m : Mount} (mounted : r.get? q = some m) (above : q.covers p = true) :
    q.covers d.mount.path = true := by
  obtain ⟨nearer, -, between, -⟩ := (resolve?_eq_some_iff built).mp leads
  rcases Path.covers_total above nearer with covers | covers
  · exact covers
  · by_cases same : d.mount.path = q
    · rw [same]
      exact Path.covers_refl q
    · rw [between q above (Path.strictlyCovers_iff.mpr ⟨same, covers⟩)] at mounted
      contradiction

/-- A path at which there is a mount leads to the root of its backend. -/
theorem resolve?_of_get? (built : r.Built) {m : Mount} (mounted : r.get? p = some m) :
    r.resolve? p = some ⟨m, .root⟩ := by
  obtain rfl := built.path_eq mounted
  refine (resolve?_eq_some_iff built).mpr ⟨Path.covers_refl _, mounted, ?_, ?_⟩
  · intro q above below
    obtain ⟨differ, covers⟩ := Path.strictlyCovers_iff.mp below
    exact absurd (Path.covers_antisymm covers above) differ
  · apply Path.ext
    exact List.drop_length.symm

/-- A path at which there is no mount leads to where its directory leads. -/
theorem resolve?_child {s : String} (child : q.IsChild p s) (free : r.get? q = none) :
    r.resolve? q = (r.resolve? p).map fun d => { d with place := q.within d.mount.path } := by
  rw [resolve?_eq, resolve?_eq, Path.nearest?_child child, free, Option.none_or, Option.map_map]
  rfl

/-- A name at which there is no mount leads to what has this name where its directory leads. -/
theorem resolve?_join (built : r.Built) {s : String} {d : Destination} (segment : IsSegment s)
    (leads : r.resolve? p = some d) (free : r.get? (p.join s) = none) :
    r.resolve? (p.join s) = some ⟨d.mount, d.place.join s⟩ := by
  obtain ⟨covers, -, -, place⟩ := (resolve?_eq_some_iff built).mp leads
  have child := p.isChild_join segment
  have inside : ((p.join s).within d.mount.path).IsChild d.place s := place ▸ child.within covers
  rw [resolve?_child child free, leads, inside.join_eq]
  rfl

/-! ## After a mount was renamed -/

/-- A path that follows leads to the mount that was renamed, whatever mounts it passed before. -/
theorem resolve?_of_follows (built : r.Built) (renamed : r.rename old new now = .ok s)
    (free : Path.NoneBelow r.get? new) (follows : Path.Follows old new p q) :
    ∃ m, r.get? old = some m ∧
      s.resolve? q = some ⟨{ m with path := new, modified := now }, p.within old⟩ := by
  obtain ⟨-, m, found, moved⟩ := of_rename renamed
  refine ⟨m, found, (resolve?_eq_some_iff (built.rename renamed)).mpr ?_⟩
  refine ⟨follows.new_covers, ?_, fun t above below => ?_, follows.within_eq.symm⟩
  · rw [moved, if_pos rfl]
  · obtain ⟨differ, inside⟩ := Path.strictlyCovers_iff.mp below
    rw [moved, if_neg (Ne.symm differ), free t inside, ite_self]

/-- A path apart from both places leads where it led. -/
theorem resolve?_of_apart (renamed : r.rename old new now = .ok s)
    (apartOld : old.covers p = false) (apartNew : new.covers p = false) :
    s.resolve? p = r.resolve? p := by
  obtain ⟨-, m, -, moved⟩ := of_rename renamed
  rw [resolve?_eq, resolve?_eq]
  refine congrArg _ (Path.nearest?_congr fun q above => ?_)
  have isNot : ∀ {base : Path}, base.covers p = false → q ≠ base := by
    rintro base apart rfl
    rw [above] at apart
    contradiction
  rw [moved, if_neg (isNot apartNew), if_neg (isNot apartOld)]

end Routes

end StorageGateway
