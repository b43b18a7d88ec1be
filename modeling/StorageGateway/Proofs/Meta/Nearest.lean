import Mathlib.Data.List.Induction
import StorageGateway.Proofs.Meta.Index

/-!
# The nearest meta is the one with the longest path

Metas are set, replaced and removed in any order and by any texts. What a path is governed by is told
by the calls alone: the last of them that touches a directory settles which meta stands there, and of
the metas that stand at a path or above it the one with the longest path governs. Main statements:
`get?_run_eq_some_iff` and `MetaIndex.governed_by_longest`.
-/

namespace StorageGateway

/-- A change of the metas in use. -/
inductive MetaCall where
  | set (m : Meta)
  | remove (path : String)
  | clear
deriving DecidableEq, Repr

namespace MetaCall

/-- A call says what is at `q` from now on. -/
def Touches (q : Path) : MetaCall → Prop
  | set m => Path.ofText m.path = q
  | remove path => Path.ofText path = q
  | clear => True

/-- The meta was set at `q`, and no later call says anything about `q`. -/
def Stands (calls : List MetaCall) (q : Path) (m : Meta) : Prop :=
  ∃ before after, calls = before ++ set m :: after ∧ Path.ofText m.path = q ∧
    ∀ c ∈ after, ¬ c.Touches q

variable {i j : MetaIndex} {c : MetaCall} {calls later : List MetaCall} {p q : Path} {m : Meta}
  {r : DirectoryRules}

/-- With one call more, the meta is the one just set, or it stood before and is not touched. -/
theorem stands_concat_iff :
    Stands (calls ++ [c]) q m ↔
      (c = set m ∧ Path.ofText m.path = q) ∨ (Stands calls q m ∧ ¬ c.Touches q) := by
  constructor
  · rintro ⟨before, after, shape, place, untouched⟩
    -- the last call is the one that set the meta, or one of those after it
    rcases List.eq_nil_or_concat after with rfl | ⟨front, last, rfl⟩
    · obtain ⟨-, same⟩ := List.append_inj' shape rfl
      exact .inl ⟨List.singleton_inj.mp same, place⟩
    · rw [List.concat_eq_append, ← List.cons_append, ← List.append_assoc] at shape
      obtain ⟨rfl, same⟩ := List.append_inj' shape rfl
      obtain rfl := List.singleton_inj.mp same
      refine .inr ⟨⟨before, front, rfl, place, fun d among => untouched d ?_⟩, untouched c ?_⟩
      · simp [among]
      · simp
  · rintro (⟨rfl, place⟩ | ⟨⟨before, after, rfl, place, untouched⟩, other⟩)
    · exact ⟨calls, [], rfl, place, by simp⟩
    · refine ⟨before, after ++ [c], by simp, place, fun d among => ?_⟩
      rcases List.mem_append.mp among with among | last
      · exact untouched d among
      · rwa [List.mem_singleton.mp last]

variable [PatternEngine]

/-- The metas after a call. -/
def apply (i : MetaIndex) : MetaCall → MetaIndex
  | set m => i.set m
  | remove path => i.remove (.ofText path)
  | clear => .empty

/-- The metas after calls one after another, with none at first. -/
def run (calls : List MetaCall) : MetaIndex := calls.foldl apply .empty

/-- What a call puts where it says something. -/
def put? : MetaCall → Option DirectoryRules
  | set m => some (.ofMeta m)
  | remove _ => none
  | clear => none

/-! ## One call -/

theorem get?_apply_of_touches (touches : c.Touches q) : (c.apply i).get? q = c.put? := by
  cases c with
  | set m => rw [apply, MetaIndex.get?, MetaIndex.set, Dict.find?_insert, if_pos touches.symm, put?]
  | remove path =>
    rw [apply, MetaIndex.get?, MetaIndex.remove, Dict.find?_erase, if_pos touches.symm, put?]
  | clear => exact Dict.find?_empty q

theorem get?_apply_of_not_touches (other : ¬ c.Touches q) : (c.apply i).get? q = i.get? q := by
  cases c with
  | set m =>
    rw [apply, MetaIndex.get?, MetaIndex.set, Dict.find?_insert, if_neg (Ne.symm other),
      MetaIndex.get?]
  | remove path =>
    rw [apply, MetaIndex.get?, MetaIndex.remove, Dict.find?_erase, if_neg (Ne.symm other),
      MetaIndex.get?]
  | clear => exact absurd trivial other

theorem put?_eq_some_iff : c.put? = some r ↔ ∃ m, c = set m ∧ r = .ofMeta m := by
  cases c <;> simp [put?, eq_comm]

/-! ## Calls one after another -/

theorem run_concat (calls : List MetaCall) (c : MetaCall) : run (calls ++ [c]) = c.apply (run calls) := by
  rw [run, List.foldl_concat, run]

/-- What is at a path is the meta that stands there. -/
theorem get?_run_eq_some_iff :
    (run calls).get? q = some r ↔ ∃ m, Stands calls q m ∧ r = .ofMeta m := by
  -- the last call settles what is at the path if it touches it, and else nothing has changed there
  induction calls using List.reverseRecOn with
  | nil =>
    refine iff_of_false (by simp [run, MetaIndex.get?, MetaIndex.empty]) ?_
    rintro ⟨m, ⟨before, after, shape, -⟩, -⟩
    simp at shape
  | append_singleton calls c ih =>
    rw [run_concat]
    simp only [stands_concat_iff]
    by_cases touches : c.Touches q
    · rw [get?_apply_of_touches touches, put?_eq_some_iff]
      constructor
      · rintro ⟨m, rfl, same⟩
        exact ⟨m, .inl ⟨rfl, touches⟩, same⟩
      · rintro ⟨m, ⟨now, -⟩ | ⟨-, other⟩, same⟩
        · exact ⟨m, now, same⟩
        · exact absurd touches other
    · rw [get?_apply_of_not_touches touches, ih]
      constructor
      · rintro ⟨m, stands, same⟩
        exact ⟨m, .inr ⟨stands, touches⟩, same⟩
      · rintro ⟨m, ⟨rfl, place⟩ | ⟨stands, -⟩, same⟩
        · exact absurd place touches
        · exact ⟨m, stands, same⟩

theorem get?_run_eq_none_iff : (run calls).get? q = none ↔ ∀ m, ¬ Stands calls q m := by
  rw [Option.eq_none_iff_forall_ne_some]
  constructor
  · exact fun bare m stands => bare _ (get?_run_eq_some_iff.mpr ⟨m, stands, rfl⟩)
  · intro none r found
    obtain ⟨m, stands, -⟩ := get?_run_eq_some_iff.mp found
    exact none m stands

/-- Whatever is called later, what is at a path depends only on what was there. -/
theorem get?_foldl_congr (same : i.get? q = j.get? q) :
    (later.foldl apply i).get? q = (later.foldl apply j).get? q := by
  induction later generalizing i j with
  | nil => exact same
  | cons c rest ih =>
    refine ih ?_
    by_cases touches : c.Touches q
    · rw [get?_apply_of_touches touches, get?_apply_of_touches touches]
    · rw [get?_apply_of_not_touches touches, get?_apply_of_not_touches touches, same]

/-- A call that touches no directory on the way up could as well be left out. -/
theorem nearest?_run_omit (apart : ∀ q, c.Touches q → q.covers p = false) :
    (run (calls ++ c :: later)).nearest? p = (run (calls ++ later)).nearest? p := by
  refine Path.nearest?_congr fun q above => ?_
  change (run (calls ++ c :: later)).get? q = (run (calls ++ later)).get? q
  have other : ¬ c.Touches q := fun touches => by
    rw [apart q touches] at above
    contradiction
  rw [run, run, List.foldl_append, List.foldl_append, List.foldl_cons]
  exact get?_foldl_congr (get?_apply_of_not_touches other)

end MetaCall

namespace MetaIndex

open MetaCall

variable {i : MetaIndex} {p q : Path} {n : Nat} {answer : Option DirectoryRules}

/-! ## The way up, step by step -/

/-- A search from `p` ends with an answer after `n` steps up. -/
inductive Climbs (i : MetaIndex) : Path → Nat → Option DirectoryRules → Prop
  | found {p : Path} {r : DirectoryRules} : i.get? p = some r → Climbs i p 0 (some r)
  | bare : i.get? .root = none → Climbs i .root 0 none
  | up {p : Path} {n : Nat} {answer : Option DirectoryRules} : i.get? p = none → p ≠ .root →
      Climbs i p.parent n answer → Climbs i p (n + 1) answer

/-- The search ends, at the root at the latest. -/
theorem exists_climbs (i : MetaIndex) (p : Path) :
    ∃ n ≤ p.segments.length, Climbs i p n (i.nearest? p) := by
  induction p using Path.inductionOn with
  | atRoot =>
    have settled : i.nearest? .root = i.get? .root := Path.nearest?_root
    refine ⟨0, Nat.le_refl _, ?_⟩
    rw [settled]
    cases own : i.get? .root with
    | some r => exact .found own
    | none => exact .bare own
  | @step q p s child ih =>
    rw [nearest?_child child]
    cases own : i.get? q with
    | some r => exact ⟨0, Nat.zero_le _, .found own⟩
    | none =>
      obtain ⟨n, few, climbs⟩ := ih
      refine ⟨n + 1, ?_, .up own child.ne_root (child.parent_eq.symm ▸ climbs)⟩
      rw [child, List.length_append]
      exact Nat.succ_le_succ few

/-- It ends with what is nearest. -/
theorem Climbs.answer_eq (climbs : Climbs i p n answer) : answer = i.nearest? p := by
  induction climbs with
  | found own => exact (Path.nearest?_of_attached own).symm
  | bare own => exact own.symm.trans Path.nearest?_root.symm
  | @up p n answer own beneath _ ih =>
    rw [nearest?_child (p.eq_root_or_isChild.resolve_left beneath), own, Option.none_or, ih]

/-! ## The longest path -/

section Longest

variable [PatternEngine] {calls : List MetaCall} {r : DirectoryRules}

/-- What governs is a meta that stands above, and none that stands above has a longer path. -/
theorem nearest?_run_eq_some_iff :
    (run calls).nearest? p = some r ↔
      ∃ q m, Stands calls q m ∧ q.covers p = true ∧
        (∀ other m', Stands calls other m' → other.covers p = true →
          other.text.length ≤ q.text.length) ∧ r = .ofMeta m := by
  rw [nearest?, ← Path.nearest?, Path.nearest?_eq_some_iff]
  constructor
  · rintro ⟨q, above, found, between⟩
    obtain ⟨m, stands, rfl⟩ := get?_run_eq_some_iff.mp found
    refine ⟨q, m, stands, above, fun other m' present covers => ?_, rfl⟩
    by_contra longer
    have below := (Path.strictlyCovers_iff_length_text above covers).mpr (Nat.lt_of_not_le longer)
    exact get?_run_eq_none_iff.mp (between other covers below) m' present
  · rintro ⟨q, m, stands, above, longest, rfl⟩
    refine ⟨q, above, get?_run_eq_some_iff.mpr ⟨m, stands, rfl⟩, fun other covers below => ?_⟩
    refine get?_run_eq_none_iff.mpr fun m' present => ?_
    have longer := Path.length_text_lt below
    have shorter := longest other m' present covers
    omega

theorem nearest?_run_eq_none_iff :
    (run calls).nearest? p = none ↔ ∀ q m, Stands calls q m → q.covers p = false := by
  rw [nearest?, ← Path.nearest?, Path.nearest?_eq_none_iff]
  constructor
  · intro bare q m stands
    by_contra above
    exact get?_run_eq_none_iff.mp (bare q (by simpa using above)) m stands
  · intro apart q above
    refine get?_run_eq_none_iff.mpr fun m stands => ?_
    rw [apart q m stands] at above
    contradiction

/-- The laws of what governs a path after calls, whatever text names the path. -/
structure GovernedByLongest (calls : List MetaCall) (path : String) : Prop where
  /-- The search upwards ends within as many steps as the path has segments, -/
  ends : ∃ n ≤ (Path.ofText path).segments.length,
    Climbs (run calls) (.ofText path) n ((run calls).nearest? (.ofText path))
  /-- and with nothing else. -/
  only : ∀ n answer, Climbs (run calls) (.ofText path) n answer →
    answer = (run calls).nearest? (.ofText path)
  /-- Nothing governs a path if no meta stands at it or above it. -/
  ungoverned : (run calls).nearest? (.ofText path) = none ↔
    ∀ q m, Stands calls q m → q.covers (.ofText path) = false
  /-- Otherwise it is the meta last set at the longest such path. -/
  governed : ∀ r, (run calls).nearest? (.ofText path) = some r ↔
    ∃ q m, Stands calls q m ∧ q.covers (.ofText path) = true ∧
      (∀ other m', Stands calls other m' → other.covers (.ofText path) = true →
        other.text.length ≤ q.text.length) ∧ r = .ofMeta m
  /-- To set a meta elsewhere changes nothing, whatever is called later, -/
  setElsewhere : ∀ m later, (Path.ofText m.path).covers (.ofText path) = false →
    (run (calls ++ .set m :: later)).nearest? (.ofText path) =
      (run (calls ++ later)).nearest? (.ofText path)
  /-- nor does it to remove one. -/
  removeElsewhere : ∀ other later, (Path.ofText other).covers (.ofText path) = false →
    (run (calls ++ .remove other :: later)).nearest? (.ofText path) =
      (run (calls ++ later)).nearest? (.ofText path)
  /-- The path of every meta is the clean one that it is kept at. -/
  clean : ∀ q r, (run calls).get? q = some r → r.source.path = q.text ∧ IsCleanPath r.source.path

/-- After any calls a path is governed by the meta with the longest path above it. -/
theorem governed_by_longest (calls : List MetaCall) (path : String) :
    GovernedByLongest calls path where
  ends := exists_climbs _ _
  only _ _ climbs := climbs.answer_eq
  ungoverned := nearest?_run_eq_none_iff
  governed _ := nearest?_run_eq_some_iff
  setElsewhere m later apart := nearest?_run_omit fun q touches => touches ▸ apart
  removeElsewhere other later apart := nearest?_run_omit fun q touches => touches ▸ apart
  clean q r found := by
    obtain ⟨m, ⟨_, _, _, rfl, _⟩, rfl⟩ := get?_run_eq_some_iff.mp found
    exact ⟨rfl, isCleanPath_text _⟩

end Longest

/-- Unclean texts name the same directories, a meta takes the stead of the one before, and `/docs` is
not above `/docsx`. -/
example :
    let calls : List MetaCall := [.set (.plain "/docs/"), .set ((Meta.plain "docs\\./a").openToWrite true),
      .set ((Meta.plain "/docs/a").openToWrite false), .set (.plain "//docs/a/../b"), .remove "docs/b"]
    ((run calls).nearest? (.ofText "/docs/a/x/..")).map DirectoryRules.source =
        some ((Meta.plain "/docs/a").openToWrite false) ∧
      ((run calls).nearest? (.ofText "/docs/b/c")).map DirectoryRules.source =
        some (Meta.plain "/docs") ∧
      ((run calls).nearest? (.ofText "/docsx")).isNone := by
  decide +kernel

end MetaIndex

end StorageGateway
