/-!
# Runs of requests

A request runs on a state that it can change, and answers or fails; what it has changed before it
fails stays changed. Its run is followed step by step with `bind_of_ok` and `bind_of_error`. What a
request keeps, it keeps in both outcomes (`Keeps`); what it ensures holds of its answers (`Ensures`).
What is to hold at every moment of a course of requests is judged request by request
(`forall_moments_iff`), where a course may be bound to certain requests (`Throughout`).
-/

namespace StorageGateway

variable {ε σ α β : Type}

section Steps

variable {x : EStateM ε σ α} {f : α → EStateM ε σ β} {s t : σ}

theorem bind_of_ok {v : α} (run : x s = .ok v t) : (x >>= f) s = f v t := by
  change EStateM.bind x f s = _
  rw [EStateM.bind, run]

theorem bind_of_error {e : ε} (run : x s = .error e t) : (x >>= f) s = .error e t := by
  change EStateM.bind x f s = _
  rw [EStateM.bind, run]

/-- Steps that answer answer one after the other. -/
theorem of_bind_ok {w : β} {u : σ} (run : (x >>= f) s = .ok w u) :
    ∃ v t, x s = .ok v t ∧ f v t = .ok w u := by
  cases first : x s with
  | ok v t => exact ⟨v, t, rfl, (bind_of_ok first).symm.trans run⟩
  | error e t =>
    rw [bind_of_error first] at run
    contradiction

theorem tryCatch_run (x : EStateM ε σ α) (handle : ε → EStateM ε σ α) (s : σ) :
    (tryCatch x handle : EStateM ε σ α) s =
      match x s with
      | .ok v t => .ok v t
      | .error e t => handle e t := by
  change EStateM.tryCatch x handle s = _
  delta EStateM.tryCatch
  dsimp only
  cases x s <;> rfl

theorem discard_run (x : EStateM ε σ α) (s : σ) :
    (discard x : EStateM ε σ Unit) s =
      match x s with
      | .ok _ t => .ok () t
      | .error e t => .error e t := by
  change EStateM.map _ x s = _
  rw [EStateM.map]
  cases x s <;> rfl

theorem map_run (g : α → β) (x : EStateM ε σ α) (s : σ) :
    (g <$> x) s =
      match x s with
      | .ok v t => .ok (g v) t
      | .error e t => .error e t := by
  change EStateM.map g x s = _
  rw [EStateM.map]
  cases x s <;> rfl

/-- The state that a request leaves, whether it answers or fails. -/
def after (x : EStateM ε σ α) (s : σ) : σ :=
  match x s with
  | .ok _ t => t
  | .error _ t => t

theorem after_of_ok {v : α} (run : x s = .ok v t) : after x s = t := by
  rw [after, run]

theorem after_of_error {e : ε} (run : x s = .error e t) : after x s = t := by
  rw [after, run]

@[simp] theorem after_discard (x : EStateM ε σ α) (s : σ) :
    after (discard x : EStateM ε σ Unit) s = after x s := by
  rw [after, discard_run, after]
  cases x s <;> rfl

@[simp] theorem after_map (g : α → β) (x : EStateM ε σ α) (s : σ) :
    after (g <$> x) s = after x s := by
  rw [after, map_run, after]
  cases x s <;> rfl

/-- What a request comes to: its answer, or why it fails. -/
def outcome (x : EStateM ε σ α) (s : σ) : Except ε α :=
  match x s with
  | .ok v _ => .ok v
  | .error e _ => .error e

theorem outcome_of_ok {v : α} (run : x s = .ok v t) : outcome x s = .ok v := by
  rw [outcome, run]

theorem outcome_of_error {e : ε} (run : x s = .error e t) : outcome x s = .error e := by
  rw [outcome, run]

theorem of_outcome_ok {v : α} (told : outcome x s = .ok v) : ∃ t, x s = .ok v t := by
  unfold outcome at told
  cases run : x s with
  | ok w t =>
    rw [run] at told
    cases told
    exact ⟨t, rfl⟩
  | error e t =>
    rw [run] at told
    contradiction

end Steps

theorem of_map_ok {x : Except ε α} {f : α → β} {b : β} (told : x.map f = .ok b) :
    ∃ a, x = .ok a ∧ f a = b := by
  cases x with
  | ok a => exact ⟨a, rfl, Except.ok.inj told⟩
  | error e => contradiction

/-- A request keeps what holds of the state. -/
def Keeps (P : σ → Prop) (x : EStateM ε σ α) : Prop := ∀ s, P s → P (after x s)

namespace Keeps

variable {P : σ → Prop} {x : EStateM ε σ α}

theorem of_ok (h : Keeps P x) {s t : σ} {v : α} (holds : P s) (run : x s = .ok v t) : P t :=
  after_of_ok run ▸ h s holds

theorem of_error (h : Keeps P x) {s t : σ} {e : ε} (holds : P s) (run : x s = .error e t) : P t :=
  after_of_error run ▸ h s holds

theorem and {Q : σ → Prop} (first : Keeps P x) (second : Keeps Q x) :
    Keeps (fun s => P s ∧ Q s) x :=
  fun s both => ⟨first s both.1, second s both.2⟩

theorem pure (v : α) : Keeps P (Pure.pure v : EStateM ε σ α) := fun _ holds => holds

theorem throw (e : ε) : Keeps P (MonadExcept.throw e : EStateM ε σ α) := fun _ holds => holds

/-- What comes next can rely on what is known of the answer. -/
theorem bind_of {Q : α → Prop} {f : α → EStateM ε σ β} (first : Keeps P x)
    (answers : ∀ {s v t}, P s → x s = .ok v t → Q v) (next : ∀ v, Q v → Keeps P (f v)) :
    Keeps P (x >>= f) := by
  intro s holds
  cases run : x s with
  | ok v t =>
    have kept := next v (answers holds run) t (first.of_ok holds run)
    rwa [after, bind_of_ok run, ← after]
  | error e t =>
    have kept := first.of_error holds run
    rwa [after, bind_of_error run]

theorem bind {f : α → EStateM ε σ β} (first : Keeps P x) (next : ∀ v, Keeps P (f v)) :
    Keeps P (x >>= f) :=
  first.bind_of (fun _ _ => True.intro) fun v _ => next v

theorem mapM {f : β → EStateM ε σ α} {ys : List β} (each : ∀ y ∈ ys, Keeps P (f y)) :
    Keeps P (ys.mapM f) := by
  induction ys with
  | nil => exact .pure []
  | cons y rest ih =>
    rw [List.mapM_cons]
    refine (each y List.mem_cons_self).bind fun _ => ?_
    exact (ih fun z later => each z (List.mem_cons_of_mem _ later)).bind fun _ => .pure _

theorem rescue {handle : ε → EStateM ε σ α} (first : Keeps P x) (next : ∀ e, Keeps P (handle e)) :
    Keeps P (tryCatch x handle) := by
  intro s holds
  rw [after, tryCatch_run]
  cases run : x s with
  | ok v t => exact first.of_ok holds run
  | error e t => exact next e t (first.of_error holds run)

theorem discard (h : Keeps P x) : Keeps P (Functor.discard x : EStateM ε σ Unit) := by
  intro s holds
  rw [after, discard_run]
  cases run : x s with
  | ok v t => exact h.of_ok holds run
  | error e t => exact h.of_error holds run

end Keeps

/-- Every answer of a request is as it should be. -/
def Ensures (x : EStateM ε σ α) (Q : α → Prop) : Prop := ∀ s v t, x s = .ok v t → Q v

namespace Ensures

variable {x : EStateM ε σ α} {Q : α → Prop}

theorem pure {v : α} (holds : Q v) : Ensures (Pure.pure v : EStateM ε σ α) Q := by
  intro s w t run
  cases run
  exact holds

theorem throw (e : ε) : Ensures (MonadExcept.throw e : EStateM ε σ α) Q := by
  intro s v t run
  contradiction

theorem bind {f : α → EStateM ε σ β} {R : β → Prop} (first : Ensures x Q)
    (next : ∀ v, Q v → Ensures (f v) R) : Ensures (x >>= f) R := by
  intro s w u run
  obtain ⟨v, t, answered, rest⟩ := of_bind_ok run
  exact next v (first s v t answered) t w u rest

theorem trivial (x : EStateM ε σ α) : Ensures x fun _ => True := fun _ _ _ _ => True.intro

theorem rescue {handle : ε → EStateM ε σ α} (first : Ensures x Q) (next : ∀ e, Ensures (handle e) Q) :
    Ensures (tryCatch x handle) Q := by
  intro s v t run
  rw [tryCatch_run] at run
  cases answered : x s with
  | ok w u =>
    rw [answered] at run
    cases run
    exact first s _ _ answered
  | error e u =>
    rw [answered] at run
    exact next e u v t run

end Ensures

/-! ## Courses -/

section Courses

variable {ι : Type} {f : σ → ι → σ} {C : ι → σ → Prop} {P Q : σ → Prop} {Ends : ι → σ → Prop}

/-- Each request of a course is as `C` says of it and of the state that it meets. -/
def Throughout (f : σ → ι → σ) (C : ι → σ → Prop) (s : σ) : List ι → Prop
  | [] => True
  | request :: rest => C request s ∧ Throughout f C (f s request) rest

instance Throughout.decidable (f : σ → ι → σ) [∀ request s, Decidable (C request s)] (s : σ) :
    (requests : List ι) → Decidable (Throughout f C s requests)
  | [] => .isTrue trivial
  | request :: rest =>
    have : Decidable (Throughout f C (f s request) rest) := decidable f (f s request) rest
    inferInstanceAs (Decidable (_ ∧ _))

theorem Throughout.of_forall (always : ∀ request s, C request s) (s : σ) (requests : List ι) :
    Throughout f C s requests := by
  induction requests generalizing s with
  | nil => trivial
  | cons request rest ih => exact ⟨always request s, ih _⟩

theorem throughout_append {s : σ} {first next : List ι} :
    Throughout f C s (first ++ next) ↔
      Throughout f C s first ∧ Throughout f C (first.foldl f s) next := by
  induction first generalizing s with
  | nil => exact ⟨fun later => ⟨trivial, later⟩, And.right⟩
  | cons request rest ih =>
    rw [List.cons_append, Throughout, Throughout, ih, and_assoc]
    rfl

theorem Throughout.of_prefix {s : σ} {done requests : List ι} (all : Throughout f C s requests)
    (sub : done <+: requests) : Throughout f C s done := by
  obtain ⟨rest, rfl⟩ := sub
  exact (throughout_append.mp all).1

/-- What every request of a course keeps holds at its end. -/
theorem Throughout.induction {s : σ} {requests : List ι} (all : Throughout f C s requests)
    (kept : ∀ {s request}, request ∈ requests → C request s → P s → P (f s request)) (first : P s) :
    P (requests.foldl f s) := by
  induction requests generalizing s with
  | nil => exact first
  | cons request rest ih =>
    exact ih all.2 (fun later => kept (List.mem_cons_of_mem _ later))
      (kept List.mem_cons_self all.1 first)

/-- When every moment of a course is as it should be: exactly if none of the requests is, at its
moment, one of those that put an end to it. -/
theorem forall_moments_iff (holds : ∀ {s}, P s → Q s)
    (kept : ∀ {s i}, C i s → P s → ¬ Ends i s → P (f s i))
    (ended : ∀ {s i}, C i s → P s → Ends i s → ¬ Q (f s i)) {s : σ} (first : P s)
    {requests : List ι} (all : Throughout f C s requests) :
    (∀ done, done <+: requests → Q (done.foldl f s)) ↔
      ∀ done request, done ++ [request] <+: requests → ¬ Ends request (done.foldl f s) := by
  -- the first request puts an end to it, or the rest goes on from the state that it leaves
  induction requests generalizing s with
  | nil =>
    refine iff_of_true (fun done sub => ?_) fun done request sub => ?_
    · rw [List.prefix_nil.mp sub]
      exact holds first
    · exact absurd (List.prefix_nil.mp sub) (by simp)
  | cons request rest ih =>
    constructor
    · intro always
      have fine : ¬ Ends request s := fun bad =>
        ended all.1 first bad (always [request] (List.cons_prefix_cons.mpr ⟨rfl, List.nil_prefix⟩))
      have later := (ih (kept all.1 first fine) all.2).mp fun done sub =>
        always (request :: done) (List.cons_prefix_cons.mpr ⟨rfl, sub⟩)
      intro done other sub
      cases done with
      | nil =>
        obtain ⟨rfl, -⟩ := List.cons_prefix_cons.mp sub
        exact fine
      | cons _ done =>
        obtain ⟨rfl, inner⟩ := List.cons_prefix_cons.mp sub
        exact later done other inner
    · intro never
      have fine : ¬ Ends request s :=
        never [] request (List.cons_prefix_cons.mpr ⟨rfl, List.nil_prefix⟩)
      have later := (ih (kept all.1 first fine) all.2).mpr fun done other sub =>
        never (request :: done) other (List.cons_prefix_cons.mpr ⟨rfl, sub⟩)
      intro done sub
      cases done with
      | nil => exact holds first
      | cons _ done =>
        obtain ⟨rfl, inner⟩ := List.cons_prefix_cons.mp sub
        exact later done inner

end Courses

end StorageGateway
