import StorageGateway.Proofs.Dict.Entries
import StorageGateway.Proofs.Mount.Routes

/-!
# The longest path above

Of the mounts at a path and above it, the path leads to the one with the longest path, and to the rest
of the way within its backend. Mounts that come, go or move elsewhere have no say in it. Main
statement: `resolve?_longestFirst`.
-/

namespace StorageGateway

namespace Path

variable {p q : Path}

theorem not_up_text (p : Path) : ".." ∉ pieces p.text := by
  intro up
  unfold text at up
  split at up
  · exact absurd up (by decide)
  · next below =>
    rw [pieces_written p.isSegment below, List.mem_cons] at up
    rcases up with empty | among
    · contradiction
    · exact (p.isSegment _ among).2.2.1 rfl

/-- A written path after another leads through the segments of both. -/
theorem segments_join_text (base place : Path) :
    (base.join place.text).segments = base.segments ++ place.segments := by
  have own : place.segments = named place.text := by
    have reads := segments_join place.not_up_text root
    rwa [show root.join place.text = place from ofText_text place] at reads
  rw [segments_join place.not_up_text, ← own]

/-- From a path above, just one way leads to a path. -/
theorem ofText_append_text_eq_iff {base place : Path} (covers : base.covers p = true) :
    ofText (base.text ++ "/" ++ place.text) = p ↔ place = p.within base := by
  obtain ⟨rest, shape⟩ := covers_iff.mp covers
  have within : (p.within base).segments = rest := by
    show p.segments.drop base.segments.length = rest
    rw [← shape, List.drop_left]
  rw [ofText_append, Path.ext_iff, Path.ext_iff, segments_join_text, within, ← shape,
    List.append_right_inj]

end Path

namespace Routes

variable {r s : Routes} {p q old new : Path} {m : Mount} {now : Time}

/-- The mounts are those that are found at their own paths. -/
theorem mem_toList (built : r.Built) : m ∈ r.toList ↔ r.get? m.path = some m := by
  unfold toList Dict.values get?
  rw [List.mem_map]
  constructor
  · rintro ⟨⟨q, m⟩, among, rfl⟩
    have found := (Dict.mem_entries_iff _ _ _).mp among
    rwa [show m.path = q from built.path_eq found]
  · intro found
    exact ⟨(m.path, m), (Dict.mem_entries_iff _ _ _).mpr found, rfl⟩

/-- Of the mounts at a path and above it, the mount has the longest path. -/
structure LongestAbove (r : Routes) (p : Path) (m : Mount) : Prop where
  mounted : m ∈ r.toList
  covers : m.path.covers p = true
  longest : ∀ other ∈ r.toList, other.path.covers p = true →
    other = m ∨ other.path.text.length < m.path.text.length

/-- That no mount is nearer is to say that no mount above has a path as long. -/
theorem longestAbove_iff (built : r.Built) :
    r.LongestAbove p m ↔ m.path.covers p = true ∧ r.get? m.path = some m ∧
      ∀ q, q.covers p = true → m.path.strictlyCovers q = true → r.get? q = none := by
  constructor
  · rintro ⟨mounted, covers, longest⟩
    refine ⟨covers, (mem_toList built).mp mounted, ?_⟩
    intro q above below
    by_contra present
    obtain ⟨other, found⟩ := Option.ne_none_iff_exists'.mp present
    obtain rfl := built.path_eq found
    have longer := Path.length_text_lt below
    rcases longest other ((mem_toList built).mpr found) above with rfl | shorter
    · omega
    · omega
  · rintro ⟨covers, found, between⟩
    refine ⟨(mem_toList built).mpr found, covers, ?_⟩
    intro other mounted above
    have known := (mem_toList built).mp mounted
    by_cases same : other.path = m.path
    · rw [same, found] at known
      exact .inl (Option.some.inj known.symm)
    · right
      apply Path.length_text_lt
      rcases Path.covers_total above covers with further | nearer
      · exact Path.strictlyCovers_iff.mpr ⟨same, further⟩
      · rw [between _ above (Path.strictlyCovers_iff.mpr ⟨Ne.symm same, nearer⟩)] at known
        contradiction

/-- Where a path leads depends on the mounts at it and above it alone. -/
theorem resolve?_congr (same : ∀ q, q.covers p = true → r.get? q = s.get? q) :
    r.resolve? p = s.resolve? p := by
  rw [resolve?_eq, resolve?_eq, Path.nearest?_congr same]

/-- A path leads to the mount with the longest path at it or above it, if there is one, and within its
backend along the rest of the way; and mounts at other paths can come, go and move. -/
structure LongestFirst (r : Routes) (p : Path) : Prop where
  nowhere : r.resolve? p = none ↔ ∀ m ∈ r.toList, m.path.covers p = false
  leads : ∀ d, r.resolve? p = some d ↔
    r.LongestAbove p d.mount ∧ .ofText (d.mount.path.text ++ "/" ++ d.place.text) = p
  mount : ∀ q, q.covers p = false → ∀ backend now,
    (r.mount q backend now).resolve? p = r.resolve? p
  unmount : ∀ q, q.covers p = false → (r.unmount q).resolve? p = r.resolve? p
  rename : ∀ old new now s, old.covers p = false → new.covers p = false →
    r.rename old new now = .ok s → s.resolve? p = r.resolve? p

/-- Every text is routed by the longest path above the path that it names. -/
theorem resolve?_longestFirst (built : r.Built) (text : String) :
    r.LongestFirst (.ofText text) := by
  generalize Path.ofText text = p
  have elsewhere : ∀ {base q : Path}, base.covers p = false → q.covers p = true → q ≠ base := by
    rintro base q apart above rfl
    rw [above] at apart
    contradiction
  refine ⟨?_, ?_, ?_, ?_, ?_⟩
  · rw [resolve?_eq, Option.map_eq_none_iff, Path.nearest?_eq_none_iff]
    constructor
    · intro bare m mounted
      by_contra above
      have found := (mem_toList built).mp mounted
      rw [bare _ (Bool.eq_true_of_not_eq_false above)] at found
      contradiction
    · intro apart q above
      by_contra present
      obtain ⟨m, found⟩ := Option.ne_none_iff_exists'.mp present
      obtain rfl := built.path_eq found
      rw [apart m ((mem_toList built).mpr found)] at above
      contradiction
  · intro d
    rw [resolve?_eq_some_iff built, longestAbove_iff built]
    constructor
    · rintro ⟨covers, found, between, place⟩
      exact ⟨⟨covers, found, between⟩, (Path.ofText_append_text_eq_iff covers).mpr place⟩
    · rintro ⟨⟨covers, found, between⟩, joined⟩
      exact ⟨covers, found, between, (Path.ofText_append_text_eq_iff covers).mp joined⟩
  · intro q apart backend now
    apply resolve?_congr
    intro x above
    unfold get? Routes.mount
    rw [Dict.find?_insert, if_neg (elsewhere apart above)]
  · intro q apart
    apply resolve?_congr
    intro x above
    unfold get? Routes.unmount
    rw [Dict.find?_erase, if_neg (elsewhere apart above)]
  · intro old new now s apartOld apartNew renamed
    exact resolve?_of_apart renamed apartOld apartNew

/-- Mounts at the root, at `/mnt` and beneath it. -/
def threeMounts : Routes :=
  ((Routes.empty.mount .root ⟨0⟩ 0).mount (.ofText "/mnt") ⟨1⟩ 0).mount (.ofText "/mnt/project") ⟨2⟩ 0

theorem resolve?_longestFirst_threeMounts :
    threeMounts.Built ∧ threeMounts.LongestFirst (.ofText "/mnt//project/./src") ∧
      threeMounts.resolve? (.ofText "/mnt//project/./src") =
        some ⟨⟨.ofText "/mnt/project", ⟨2⟩, 0, 0⟩, .ofText "/src"⟩ := by
  have built : threeMounts.Built := .mount _ _ _ (.mount _ _ _ (.mount _ _ _ .empty))
  exact ⟨built, resolve?_longestFirst built "/mnt//project/./src", by decide +kernel⟩

end Routes

end StorageGateway
