import StorageGateway.Proofs.Listing.SoftFailure
import StorageGateway.Proofs.Release.Visits
import StorageGateway.Release.Storage

/-!
# Repositories take their time

How long a visit to a repository takes is settled by the calls that it makes, and these are the same for
whoever waits for them. So a storage of releases serves everyone who waits for long enough alike, and what
it lists then is what those of its repositories come to that answer. Main statements: `punctual` and
`list_failsSoftly`.
-/

namespace StorageGateway

namespace Visiting

variable {α β : Type} {whole : Patience}

/-! ## Callers in step -/

/-- The course `c` of a caller of some patience keeps step with the course `d` of a caller who waits for
ever. -/
structure InStep (whole : Patience) (c d : Course) : Prop where
  forever : d.patience = .unlimited
  inTime : (whole.after d.elapsed).isSpent = false
  same : c = { d with patience := whole.after d.elapsed }

/-- The course that is left. -/
def final : EStateM.Result Stop Course α → Course
  | .ok _ c => c
  | .error _ c => c

/-- Two runs end in step, or the caller gives up on the first before the second ends. -/
inductive KeepsStep (whole : Patience) :
    EStateM.Result Stop Course α → EStateM.Result Stop Course α → Prop
  | gaveUp (c : Course) (r : EStateM.Result Stop Course α)
    (late : (whole.after (final r).elapsed).isSpent = true) : KeepsStep whole (.error .interrupted c) r
  | answered (v : α) {c d : Course} (step : InStep whole c d) : KeepsStep whole (.ok v c) (.ok v d)
  | failed (e : StorageError) {c d : Course} (step : InStep whole c d) :
    KeepsStep whole (.error (.failed e) c) (.error (.failed e) d)

/-- A part of a visit whose callers keep step for as long as they wait. -/
structure Timely (x : Visiting α) : Prop where
  later : ∀ d, d.elapsed ≤ (final (x d)).elapsed
  step : ∀ {whole c d}, InStep whole c d → KeepsStep whole (x c) (x d)

namespace Timely

variable {x : Visiting α}

theorem pure (v : α) : Timely (Pure.pure v : Visiting α) :=
  ⟨fun _ => Nat.le_refl _, fun step => .answered v step⟩

theorem later_bind {f : α → Visiting β} (next : ∀ v, Timely (f v)) (x : Visiting α) (d : Course) :
    (final (x d)).elapsed ≤ (final ((x >>= f) d)).elapsed := by
  cases run : x d with
  | ok v e =>
    rw [bind_of_ok run]
    exact (next v).later e
  | error stop e =>
    rw [bind_of_error run]
    exact Nat.le_refl _

theorem bind {f : α → Visiting β} (first : Timely x) (next : ∀ v, Timely (f v)) :
    Timely (x >>= f) := by
  refine ⟨fun d => Nat.le_trans (first.later d) (later_bind next x d), fun {whole c d} step => ?_⟩
  have ends := first.step step
  have later := later_bind next x d
  generalize left : x c = r at ends
  generalize right : x d = s at ends later
  cases ends with
  | gaveUp c _ late =>
    rw [bind_of_error left]
    exact .gaveUp c _ (Patience.isSpent_after_mono later late)
  | answered v step =>
    rw [bind_of_ok left, bind_of_ok right]
    exact (next v).step step
  | failed e step =>
    rw [bind_of_error left, bind_of_error right]
    exact .failed e step

theorem rescue {handle : Stop → Visiting α} (first : Timely x)
    (failed : ∀ e, Timely (handle (.failed e)))
    (interrupted : handle .interrupted = throw .interrupted) : Timely (tryCatch x handle) := by
  have later (d : Course) : (final (x d)).elapsed ≤ (final (tryCatch x handle d)).elapsed := by
    rw [tryCatch_run]
    cases x d with
    | ok v e => exact Nat.le_refl _
    | error stop e =>
      cases stop with
      | failed reason => exact (failed reason).later e
      | interrupted =>
        dsimp only
        rw [interrupted]
        exact Nat.le_refl _
  refine ⟨fun d => Nat.le_trans (first.later d) (later d), fun {whole c d} step => ?_⟩
  have ends := first.step step
  have more := later d
  rw [tryCatch_run] at more ⊢
  rw [tryCatch_run]
  generalize x c = r at ends
  generalize x d = s at ends more
  cases ends with
  | gaveUp c _ late =>
    dsimp only
    rw [interrupted]
    exact .gaveUp c _ (Patience.isSpent_after_mono more late)
  | answered v step => exact .answered v step
  | failed e step => exact (failed e).step step

end Timely

namespace InStep

variable {c d : Course} (step : InStep whole c d) (source : Source) (repo : String) (data : DataSet)

include step

theorem elapsed_called : (d.called source repo data).elapsed = d.elapsed + source.delay := by
  rw [Course.called, step.forever]
  rfl

theorem patience_called : c.patience.after source.delay =
    whole.after (d.called source repo data).elapsed := by
  rw [step.elapsed_called, ← Patience.after_after, step.same]

/-- Callers in step who both wait for a call are in step after it. -/
theorem called (waits : (c.patience.after source.delay).isSpent = false) :
    InStep whole (c.called source repo data) (d.called source repo data) := by
  have inTime := waits
  rw [step.patience_called source repo data] at inTime
  refine ⟨?_, inTime, ?_⟩
  · rw [Course.called, step.forever]
    rfl
  · have told : data.outcome source repo c.patience = data.outcome source repo d.patience := by
      rw [step.forever, outcome_unlimited, DataSet.outcome, if_neg (Bool.eq_false_iff.mp waits)]
    have passed : c.patience.passing source.delay = d.patience.passing source.delay := by
      rw [Patience.passing_of_inTime waits, step.forever]
      rfl
    rw [← step.patience_called source repo data, Course.called, Course.called, told, passed, step.same]

end InStep

/-- A call keeps step, or the caller gives up on it. -/
theorem timely_call (source : Source) (repo : String) (data : DataSet) :
    Timely (call source repo data) := by
  have left (d : Course) : final (call source repo data d) = d.called source repo data := by
    rw [call_run]
    split <;> rfl
  refine ⟨fun d => ?_, fun {whole c d} step => ?_⟩
  · rw [left]
    exact Nat.le_add_right _ _
  · by_cases spent : (c.patience.after source.delay).isSpent = true
    · have stopped : call source repo data c = .error .interrupted (c.called source repo data) := by
        rw [call_run, DataSet.outcome, if_pos spent]
      rw [stopped]
      refine .gaveUp _ _ ?_
      rw [left, ← step.patience_called source repo data]
      exact spent
    · have after := step.called source repo data (Bool.eq_false_iff.mpr spent)
      rw [call_run, call_run, step.forever, outcome_unlimited, DataSet.outcome, if_neg spent]
      cases data.answer source repo with
      | ok content => exact .answered content after
      | error reason => exact .failed reason after

/-- To keep data does not take time. -/
theorem InStep.keep {c d : Course} (step : InStep whole c d) (f : Kept → Kept) :
    InStep whole { c with kept := f c.kept } { d with kept := f d.kept } := by
  refine ⟨step.forever, step.inTime, ?_⟩
  rw [step.same]

theorem timely_fetch (p : RepositoryView) (source : Source) (refresh : Bool) (data : DataSet) :
    Timely (p.fetch source refresh data) := by
  have called := timely_call source p.repo data
  refine ⟨fun d => ?_, fun {whole c d} step => ?_⟩
  · rw [RepositoryView.fetch_run]
    split
    · exact Nat.le_refl _
    · have later := called.later d
      rw [RepositoryView.fetchAnew_run]
      generalize call source p.repo data d = r at later
      cases r <;> exact later
  · have kept : c.kept = d.kept := by rw [step.same]
    rw [RepositoryView.fetch_run, RepositoryView.fetch_run, kept]
    split
    · exact .answered _ step
    · have ends := called.step step
      rw [RepositoryView.fetchAnew_run, RepositoryView.fetchAnew_run]
      generalize call source p.repo data c = r at ends
      generalize call source p.repo data d = s at ends
      cases ends with
      | gaveUp c _ late =>
        refine .gaveUp c _ ?_
        cases s <;> exact late
      | answered content step => exact .answered content (step.keep (·.keep p.mode data content))
      | failed reason step => exact .failed reason step

theorem composes_timely (p : RepositoryView) (source : Source) : Composes p source @Timely where
  pure := Timely.pure
  bind := Timely.bind
  rescue := Timely.rescue
  fetch := timely_fetch p source

/-! ## What repositories fail for -/

/-- A part of a visit that never fails as if the caller had given up. -/
def Honest (x : Visiting α) : Prop := ∀ c, outcome x c ≠ .error (.failed .cancelled)

namespace Honest

variable {x : Visiting α}

theorem pure (v : α) : Honest (Pure.pure v : Visiting α) := fun _ told => by contradiction

theorem bind {f : α → Visiting β} (first : Honest x) (next : ∀ v, Honest (f v)) :
    Honest (x >>= f) := by
  intro c
  cases run : x c with
  | ok v d =>
    rw [outcome, bind_of_ok run]
    exact next v d
  | error stop d =>
    rw [outcome_of_error (bind_of_error run)]
    rintro told
    cases told
    exact first c (outcome_of_error run)

theorem rescue {handle : Stop → Visiting α} (_ : Honest x)
    (failed : ∀ e, Honest (handle (.failed e)))
    (interrupted : handle .interrupted = throw .interrupted) : Honest (tryCatch x handle) := by
  intro c
  rw [outcome, tryCatch_run]
  cases x c with
  | ok v d =>
    intro told
    cases told
  | error stop d =>
    cases stop with
    | failed e => exact failed e d
    | interrupted =>
      dsimp only
      rw [interrupted]
      intro told
      cases told

end Honest

theorem answering_ne_cancelled (source : Source) (repo : String) {answer : Except StorageError α}
    (honest : answer ≠ .error .cancelled) : source.answering repo answer ≠ .error .cancelled := by
  rw [Source.answering]
  split
  · intro told
    cases told
  · exact honest

/-- A source that does not answer does not blame the caller. -/
theorem answer_ne_cancelled (source : Source) (repo : String) (data : DataSet) :
    data.answer source repo ≠ .error .cancelled := by
  cases data with
  | newest =>
    refine answering_ne_cancelled source repo ?_
    split <;> simp
  | releases =>
    refine answering_ne_cancelled source repo ?_
    split <;> simp
  | extras =>
    refine answering_ne_cancelled source repo ?_
    split <;> simp

theorem honest_call (source : Source) (repo : String) (data : DataSet) :
    Honest (call source repo data) := by
  intro c
  have honest := answer_ne_cancelled source repo data
  rw [outcome, call_run, DataSet.outcome]
  by_cases spent : (c.patience.after source.delay).isSpent = true
  · rw [if_pos spent]
    intro told
    cases told
  · rw [if_neg spent]
    cases answer : data.answer source repo with
    | ok content =>
      intro told
      cases told
    | error e =>
      rintro told
      cases told
      exact honest answer

theorem honest_fetch (p : RepositoryView) (source : Source) (refresh : Bool) (data : DataSet) :
    Honest (p.fetch source refresh data) := by
  intro c
  have run := p.fetch_run source refresh data c
  split at run
  · rw [outcome_of_ok run]
    intro told
    cases told
  · have honest := honest_call source p.repo data c
    rw [outcome] at honest
    rw [outcome, run, RepositoryView.fetchAnew_run]
    generalize call source p.repo data c = r at honest
    cases r with
    | ok content d =>
      intro told
      cases told
    | error stop d => exact honest

theorem composes_honest (p : RepositoryView) (source : Source) : Composes p source @Honest where
  pure := Honest.pure
  bind := Honest.bind
  rescue := Honest.rescue
  fetch := honest_fetch p source

end Visiting

namespace RepositoryView

open Visiting

variable (source : Source) (p : RepositoryView) (request : Path) (bearing : Bearing) (refresh : Bool)
  {patience : Patience}

/-- A visit to a repository is interrupted exactly if the caller gives up before it would end, and otherwise
it takes what it takes for a caller who waits for ever. -/
theorem visit_inTime (waits : patience.isSpent = false) :
    (p.visit source request bearing refresh patience).interrupted =
        (patience.after (p.visit source request bearing refresh .unlimited).elapsed).isSpent ∧
      ((p.visit source request bearing refresh patience).interrupted = false →
        (p.visit source request bearing refresh patience).calls =
            (p.visit source request bearing refresh .unlimited).calls ∧
          (p.visit source request bearing refresh patience).elapsed =
            (p.visit source request bearing refresh .unlimited).elapsed) := by
  have timely := p.judged_entries source (composes_timely p source) request bearing refresh
  have start : InStep patience ⟨p.kept, [], 0, patience⟩ ⟨p.kept, [], 0, .unlimited⟩ := by
    refine ⟨rfl, ?_, ?_⟩
    · rw [Patience.after_zero]
      exact waits
    · rw [Patience.after_zero]
  have ends := timely.step start
  unfold visit
  dsimp only [EStateM.run]
  generalize p.entries source request bearing refresh ⟨p.kept, [], 0, patience⟩ = r at ends
  generalize p.entries source request bearing refresh ⟨p.kept, [], 0, .unlimited⟩ = s at ends
  cases ends with
  | gaveUp c _ late =>
    refine ⟨?_, nofun⟩
    rcases s with ⟨v, d⟩ | ⟨e | _, d⟩ <;> exact late.symm
  | answered v step =>
    refine ⟨step.inTime.symm, fun _ => ?_⟩
    rw [step.same]
    exact ⟨rfl, rfl⟩
  | failed e step =>
    refine ⟨step.inTime.symm, fun _ => ?_⟩
    rw [step.same]
    exact ⟨rfl, rfl⟩

theorem punctual : (kind source).Punctual where
  toPatient := patient source
  interrupted waits := (visit_inTime source _ _ _ _ waits).1
  calls waits waited := ((visit_inTime source _ _ _ _ waits).2 waited).1
  elapsed waits waited := ((visit_inTime source _ _ _ _ waits).2 waited).2

/-- A visit to a repository goes on for as long as the caller waits. -/
theorem not_interrupted :
    (p.visit source request bearing refresh .unlimited).interrupted = false :=
  (punctual source).never_interrupted p request bearing refresh

/-- To a caller who waits for ever, no repository replies as if they had given up. -/
theorem reply_ne_cancelled :
    (p.visit source request bearing refresh .unlimited).reply ≠ .failed .cancelled := by
  have honest := p.judged_entries source (composes_honest p source) request bearing refresh
    ⟨p.kept, [], 0, .unlimited⟩
  have waited := p.not_interrupted source request bearing refresh
  rw [outcome] at honest
  unfold visit at waited ⊢
  dsimp only [EStateM.run] at waited ⊢
  generalize p.entries source request bearing refresh ⟨p.kept, [], 0, .unlimited⟩ = r at honest waited
  rcases r with ⟨v, d⟩ | ⟨e | _, d⟩
  · intro told
    cases told
  · rintro told
    cases told
    exact honest rfl
  · contradiction

end RepositoryView

namespace Releases

open PointKind

/-- For a caller who waits for ever, a listing fails only because the sources do not answer. -/
theorem list_unlimited {r : Releases} {source : Source} {request : Path} {refresh : Bool}
    {e : StorageError} (failed : (r.list source request refresh .unlimited).answer = .error e) :
    ∃ reason, e = .unavailable reason := by
  have waited := (RepositoryView.kind source).gaveUp_unlimited
    (RepositoryView.not_interrupted source) request refresh
  unfold list at failed
  rw [PointKind.answer_gather _ ((RepositoryView.unbroken source).gather _ _ _ _ _) (waited _ r.points),
    Tally.answer_ofReplies] at failed
  split at failed
  · cases failed
    exact ⟨_, rfl⟩
  · contradiction

/-- A storage of releases lists what those of its repositories come to that answer, unless the caller gives
up before the last of them has ended. -/
theorem list_failsSoftly (r : Releases) (source : Source) (request : Path) (refresh : Bool)
    (patience : Patience) :
    let kind := RepositoryView.kind source
    let last := lastStop (kind.turns r.settings.options r.points request refresh .unlimited)
    ((patience.after last).isSpent = false →
      kind.FailsSoftly r.settings.options r.points request refresh
        (r.list source request refresh patience)) ∧
    ((patience.after last).isSpent = true →
      (r.list source request refresh patience).answer = .error .cancelled) := by
  have punctual := RepositoryView.punctual source
  have whole := (RepositoryView.unbroken source).gather r.settings.options r.points request refresh patience
  refine ⟨fun inTime => ?_, gather_of_late punctual whole⟩
  refine failsSoftly_of_waited punctual.toPatient whole ((gaveUp_eq punctual _ _ _ _ _).trans inTime) ?_
  intro reply among
  obtain ⟨p, -, replied⟩ := List.mem_filterMap.mp among
  obtain ⟨bearing, -, -, rfl⟩ := of_reply? replied
  exact p.reply_ne_cancelled source request bearing refresh

end Releases

end StorageGateway
