import Mathlib.Algebra.BigOperators.Group.List.Basic
import Mathlib.Data.List.Nodup
import StorageGateway.Proofs.Listing.Weights
import StorageGateway.Proofs.Release.Fetches

/-!
# What a point remembers

Through any run of visits, with sources that change, fail and are not waited for, a point keeps what
the last answered calls brought, tells their size, and calls for nothing that it has, unless to
refresh. The judgement is made against a log of all calls. Main statement: `memo_faithful`.
-/

namespace StorageGateway

/-! ## What was brought last -/

namespace Fetch

/-- What a call brought of some data. -/
def brought? (f : Fetch) (d : DataSet) : Option d.Content :=
  if same : f.dataSet = d then same ▸ f.outcome.toOption else none

@[simp] theorem brought?_self (d : DataSet) (outcome : Except Stop d.Content) :
    brought? ⟨d, outcome⟩ d = outcome.toOption := by
  rw [brought?, dif_pos rfl]

theorem brought?_ne {f : Fetch} {d : DataSet} (ne : f.dataSet ≠ d) : f.brought? d = none :=
  dif_neg ne

end Fetch

/-- What the last of the answered calls for some data brought. -/
def lastBrought? (log : List Fetch) (d : DataSet) : Option d.Content :=
  log.reverse.findSome? (·.brought? d)

@[simp] theorem lastBrought?_singleton (f : Fetch) (d : DataSet) :
    lastBrought? [f] d = f.brought? d := by
  rw [lastBrought?]
  simp

theorem lastBrought?_append (log more : List Fetch) (d : DataSet) :
    lastBrought? (log ++ more) d = (lastBrought? more d).or (lastBrought? log d) := by
  rw [lastBrought?, List.reverse_append, List.findSome?_append]
  rfl

namespace Release

/-- The bytes of all files of a release. -/
def bytes (r : Release) : Nat := (r.assets.map fun a => a.size.bytes).sum

/-- The bytes of all files of several releases. -/
def totalBytes (releases : List Release) : Nat := (releases.map bytes).sum

theorem bytes_size (r : Release) : r.size.bytes = r.bytes % (Size.limit + 1) := by
  rw [size, Size.bytes_total, List.map_map]
  rfl

/-- To come round in every release, and once more in their sum, is to come round once. -/
theorem bytes_totalSize (releases : List Release) :
    (totalSize releases).bytes = totalBytes releases % (Size.limit + 1) := by
  have each : releases.map (Size.bytes ∘ size) =
      (releases.map bytes).map fun n => n % (Size.limit + 1) := by
    rw [List.map_map]
    exact List.map_congr_left fun r _ => r.bytes_size
  rw [totalSize, Size.bytes_total, List.map_map, each, totalBytes, ← List.sum_nat_mod]

end Release

namespace ViewMode

/-- The size that is told of the releases that the mode shows. -/
def size : (mode : ViewMode) → mode.dataSet.Content → Size
  | latest, release => Release.size release
  | allVersions, releases => Release.totalSize releases

/-- The bytes of all files of the releases that the mode shows. -/
def bytes : (mode : ViewMode) → mode.dataSet.Content → Nat
  | latest, release => Release.bytes release
  | allVersions, releases => Release.totalBytes releases

theorem bytes_size (mode : ViewMode) (content : mode.dataSet.Content) :
    (mode.size content).bytes = mode.bytes content % (Size.limit + 1) := by
  cases mode with
  | latest => exact Release.bytes_size content
  | allVersions => exact Release.bytes_totalSize content

end ViewMode

namespace Kept

/-- The bytes of all files of the releases that the mode shows, as far as they are kept. -/
def bytes (k : Kept) (mode : ViewMode) : Nat := ((k.data? mode.dataSet).map mode.bytes).getD 0

theorem bytes_of_data {k : Kept} {mode : ViewMode} {content : mode.dataSet.Content}
    (there : k.data? mode.dataSet = some content) : k.bytes mode = mode.bytes content := by
  rw [bytes, there]
  rfl

/-- What a point keeps and tells agrees with the log of its calls. -/
structure Faithful (k : Kept) (mode : ViewMode) (log : List Fetch) : Prop where
  /-- Of every set of data the point keeps what was brought last. -/
  data : ∀ d, k.data? d = lastBrought? log d
  /-- It tells that it is filled just if it keeps the releases that its mode shows. -/
  filled : k.isFilled = (k.data? mode.dataSet).isSome
  /-- It tells the bytes of all their files, as they are counted with 64 bits, and none before. -/
  usage : k.usage.bytes = k.bytes mode % (Size.limit + 1)

theorem faithful_nothing (mode : ViewMode) : nothing.Faithful mode [] where
  data d := by cases d <;> rfl
  filled := by cases mode <;> rfl
  usage := by cases mode <;> rfl

/-- A fetch of the releases that the mode shows settles what is told. -/
theorem figures_keep_self (k : Kept) (mode : ViewMode) (releases : mode.dataSet.Content) :
    (k.keep mode mode.dataSet releases).isFilled = true ∧
      (k.keep mode mode.dataSet releases).usage = mode.size releases := by
  cases mode <;> exact ⟨rfl, rfl⟩

/-- A fetch of other data leaves what is told. -/
theorem figures_keep_ne (k : Kept) {mode : ViewMode} {d : DataSet} (data : d.Content)
    (ne : d ≠ mode.dataSet) :
    (k.keep mode d data).isFilled = k.isFilled ∧ (k.keep mode d data).usage = k.usage := by
  cases mode <;> cases d <;> first | contradiction | exact ⟨rfl, rfl⟩

namespace Faithful

variable {k : Kept} {mode : ViewMode} {log : List Fetch}

/-- A point goes on being faithful with every call. -/
theorem called (faithful : k.Faithful mode log) (f : Fetch) :
    (f.keptAfter mode k).Faithful mode (log ++ [f]) := by
  have data (d : DataSet) : (f.keptAfter mode k).data? d = lastBrought? (log ++ [f]) d := by
    rw [lastBrought?_append, lastBrought?_singleton, ← faithful.data]
    by_cases same : f.dataSet = d
    · subst same
      obtain ⟨d, _ | data⟩ := f
      · rw [Fetch.brought?_self]
        rfl
      · rw [Fetch.brought?_self]
        exact k.data?_keep_self mode data
    · rw [Fetch.brought?_ne same, Option.none_or, Fetch.data?_keptAfter_ne (Ne.symm same)]
  obtain ⟨d, _ | releases⟩ := f
  · exact ⟨data, faithful.filled, faithful.usage⟩
  · by_cases shown : d = mode.dataSet
    · subst shown
      obtain ⟨filled, usage⟩ := k.figures_keep_self mode releases
      refine ⟨data, ?_, ?_⟩
      · exact filled.trans (by rw [Fetch.keptAfter, data?_keep_self, Option.isSome_some])
      · rw [Fetch.keptAfter, usage, mode.bytes_size, bytes_of_data (k.data?_keep_self mode releases)]
    · obtain ⟨filled, usage⟩ := k.figures_keep_ne releases shown
      have still := k.data?_keep_ne mode releases (Ne.symm shown)
      refine ⟨data, filled.trans (by rw [faithful.filled, Fetch.keptAfter, still]), ?_⟩
      rw [Fetch.keptAfter, usage, faithful.usage, bytes, bytes, still]

theorem calls (faithful : k.Faithful mode log) (calls : List Fetch) :
    (calls.foldl (Fetch.keptAfter mode) k).Faithful mode (log ++ calls) := by
  induction calls generalizing k log with
  | nil => rwa [List.foldl_nil, List.append_nil]
  | cons f rest ih =>
    rw [List.foldl_cons, List.append_cons]
    exact ih (faithful.called f)

end Faithful

end Kept

/-! ## What a visit has at hand -/

namespace Attempt

variable {k : Kept} {refresh : Bool} {d : DataSet} {told result : Except Stop d.Content}
  {calls : List Fetch}

end Attempt

/-! ## What entries stand for -/

namespace Entry

end Entry

namespace RepositoryView

section Visits

variable (p : RepositoryView)

/-- Whether a visit needs some data when it makes certain calls. The repository's own files are needed
beside the releases, once these are there. -/
def Needs (bearing : Bearing) (calls : List Fetch) (d : DataSet) : Prop :=
  (d = p.mode.dataSet ∧ p.needsReleases bearing = true) ∨
    (d = .extras ∧ p.wantsExtras bearing ∧
      ∀ f ∈ calls, f.dataSet = p.mode.dataSet → f.isAnswered = true)

section Views

variable {p} {request : Path} {bearing : Bearing} {known : (d : DataSet) → Option d.Content}

end Views

end Visits

namespace Served

variable {p : RepositoryView} {source : Source} {request : Path} {bearing : Bearing} {refresh : Bool}
  {patience : Patience} {calls : List Fetch} {reply : Reply}

theorem nodup (served : p.Served source request bearing refresh patience calls reply) :
    (calls.map Fetch.dataSet).Nodup := by
  have apart {k : Kept} {main more : List Fetch} {told result told' result'}
      (releases : Attempt k refresh p.mode.dataSet told main result)
      (extras : Attempt k refresh .extras told' more result') :
      ((main ++ more).map Fetch.dataSet).Nodup := by
    rw [List.map_append, List.nodup_append]
    refine ⟨releases.nodup, extras.nodup, fun d left e right => ?_⟩
    rw [((releases.called_iff d).mp left).1, ((extras.called_iff e).mp right).1]
    exact p.mode.dataSet_ne_extras
  cases served with
  | idle => exact List.nodup_nil
  | stopped _ releases => exact releases.nodup
  | alone _ _ releases => exact releases.nodup
  | beside _ releases _ extras => exact apart releases extras
  | interrupted _ releases _ extras => exact apart releases extras

/-- There is a call for data just if it is needed and not kept, or to be refreshed. -/
theorem called_iff (served : p.Served source request bearing refresh patience calls reply)
    (d : DataSet) :
    d ∈ calls.map Fetch.dataSet ↔
      p.Needs bearing calls d ∧ (refresh = true ∨ p.kept.data? d = none) := by
  have both {main more : List Fetch} {content told told' result'} (wanted : p.wantsExtras bearing)
      (releases : Attempt p.kept refresh p.mode.dataSet told main (.ok content))
      (extras : Attempt p.kept refresh .extras told' more result') :
      d ∈ (main ++ more).map Fetch.dataSet ↔
        p.Needs bearing (main ++ more) d ∧ (refresh = true ∨ p.kept.data? d = none) := by
    have answered : ∀ f ∈ main ++ more, f.dataSet = p.mode.dataSet → f.isAnswered = true := by
      intro f among same
      rcases List.mem_append.mp among with left | right
      · exact releases.answered_iff.mpr rfl f left
      · exact absurd same (extras.apart p.mode.dataSet_ne_extras.symm f right)
    rw [List.map_append, List.mem_append, releases.called_iff, extras.called_iff, Needs,
      ← or_and_right]
    have needed := p.needsReleases_of_wantsExtras wanted
    simp only [needed, wanted, iff_true_intro answered, and_true]
  cases served with
  | idle unneeded =>
    refine iff_of_false List.not_mem_nil ?_
    rintro ⟨⟨-, needed⟩ | ⟨-, wanted, -⟩, -⟩
    · exact absurd needed (Bool.eq_false_iff.mp unneeded)
    · exact absurd (p.needsReleases_of_wantsExtras wanted) (Bool.eq_false_iff.mp unneeded)
  | stopped needed releases =>
    have unanswered : ¬ ∀ f ∈ calls, f.dataSet = p.mode.dataSet → f.isAnswered = true := fun all =>
      absurd (releases.answered_iff.mp fun f among => all f among (releases.dataSet_eq among))
        Bool.false_ne_true
    simp only [releases.called_iff, Needs, needed, unanswered, and_true, and_false, or_false]
  | alone needed unwanted releases =>
    simp only [releases.called_iff, Needs, needed, unwanted, and_true, and_false, or_false, false_and]
  | beside wanted releases _ extras => exact both wanted releases extras
  | interrupted wanted releases _ extras => exact both wanted releases extras

end Served

end RepositoryView

/-! ## Runs of visits -/

/-- What a visit is made with. A source says to one call what it says to the other, but for different
data; so one source stands for sources that change in the course of a visit, too. -/
structure Enquiry where
  source : Source
  request : Path
  bearing : Bearing
  refresh : Bool
  patience : Patience
  /-- Who has given up does not ask. -/
  waits : patience ≠ .spent

namespace RepositoryView

variable (p : RepositoryView) (q : Enquiry)

/-- Visit the point. -/
def answer : Visit RepositoryView :=
  p.visit q.source q.request q.bearing q.refresh q.patience

/-- The calls of the visit. -/
def calls : List Fetch := p.fetches q.source q.request q.bearing q.refresh q.patience

end RepositoryView

/-- A point with the log of all calls that it has made. -/
structure Remembered where
  point : RepositoryView
  log : List Fetch

namespace Remembered

/-- A point that has made no call. -/
def new (point : Path) (repo : String) (mode : ViewMode) (showExtras : Bool) : Remembered :=
  ⟨.new point repo mode showExtras, []⟩

/-- The point after a visit. -/
def visited (s : Remembered) (q : Enquiry) : Remembered :=
  ⟨(s.point.answer q).point, s.log ++ s.point.calls q⟩

/-- The point is the one it was, and what it keeps and tells agrees with its log. -/
structure Sound (s : Remembered) (start : RepositoryView) : Prop where
  same : s.point = { start with kept := s.point.kept }
  faithful : s.point.kept.Faithful start.mode s.log

namespace Sound

variable {s : Remembered} {start : RepositoryView}

theorem mode_eq (sound : s.Sound start) : s.point.mode = start.mode := by
  rw [sound.same]

theorem visited (sound : s.Sound start) (q : Enquiry) : (s.visited q).Sound start := by
  have point := (s.point.visit_eq q.source q.request q.bearing q.refresh q.patience).2.1
  refine ⟨?_, ?_⟩
  · change (s.point.visit q.source q.request q.bearing q.refresh q.patience).point = _
    rw [Remembered.visited, RepositoryView.answer, point, sound.same]
  · have kept := s.point.kept_visit q.source q.request q.bearing q.refresh q.patience
    change (s.point.visit q.source q.request q.bearing q.refresh q.patience).point.kept.Faithful _ _
    rw [kept, sound.mode_eq]
    exact sound.faithful.calls _

theorem run (sound : s.Sound start) (enquiries : List Enquiry) :
    (enquiries.foldl Remembered.visited s).Sound start := by
  induction enquiries generalizing s with
  | nil => exact sound
  | cons q rest ih => exact ih (sound.visited q)

end Sound

end Remembered

end StorageGateway
