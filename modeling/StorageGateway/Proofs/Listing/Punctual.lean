import StorageGateway.Listing.Scripted
import StorageGateway.Proofs.Listing.Replies

/-!
# Waiting for long enough

Visits go on until they end or until the caller gives up, and take no heed of the caller otherwise. So
whoever waits until the last visit would end is served as if they waited for ever, and whoever gives up
before is told just that. Main statements: `gaveUp_eq` and `gather_of_late`.
-/

namespace StorageGateway

namespace Patience

theorem after_zero (p : Patience) : p.after 0 = p := by
  cases p <;> rfl

/-- Waits one after the other use up as much as one long wait. -/
theorem after_after (p : Patience) (first second : Nat) :
    (p.after first).after second = p.after (first + second) := by
  cases p with
  | unlimited => rfl
  | spent => rfl
  | limited left =>
    by_cases enough : first ≤ left
    · by_cases more : second ≤ left - first
      · have all : first + second ≤ left := by omega
        simp only [after, if_pos enough, if_pos more, if_pos all, Nat.sub_sub]
      · have none : ¬ first + second ≤ left := by omega
        simp only [after, if_pos enough, if_neg more, if_neg none]
    · have none : ¬ first + second ≤ left := by omega
      simp only [after, if_neg enough, if_neg none]

/-- Whoever waits for the longer of two waits waits for both. -/
theorem isSpent_after_max (p : Patience) (a b : Nat) :
    (p.after (max a b)).isSpent = false ↔
      (p.after a).isSpent = false ∧ (p.after b).isSpent = false := by
  cases p with
  | unlimited => exact ⟨fun _ => ⟨rfl, rfl⟩, fun _ => rfl⟩
  | spent => exact ⟨fun waits => absurd waits nofun, fun waits => absurd waits.1 nofun⟩
  | limited left =>
    have inTime (wait : Nat) : ((limited left).after wait).isSpent = false ↔ wait ≤ left := by
      by_cases enough : wait ≤ left <;> simp [after, isSpent, enough]
    rw [inTime, inTime, inTime, Nat.max_le]

/-- Whoever waits for a while has not given up before. -/
theorem isSpent_of_after {p : Patience} {wait : Nat} (waits : (p.after wait).isSpent = false) :
    p.isSpent = false := by
  cases p with
  | spent => contradiction
  | _ => rfl

/-- Whoever has given up after a while has given up later on. -/
theorem isSpent_after_mono {p : Patience} {a b : Nat} (le : a ≤ b)
    (spent : (p.after a).isSpent = true) : (p.after b).isSpent = true := by
  by_contra waits
  rw [Bool.not_eq_true, ← Nat.add_sub_cancel' le, ← after_after] at waits
  rw [isSpent_of_after waits] at spent
  contradiction

/-- All of a wait passes for whoever waits for all of it. -/
theorem passing_of_inTime {p : Patience} {wait : Nat} (waits : (p.after wait).isSpent = false) :
    p.passing wait = wait := by
  cases p with
  | unlimited => rfl
  | spent => contradiction
  | limited left =>
    by_cases enough : wait ≤ left
    · exact if_pos enough
    · rw [after, if_neg enough] at waits
      contradiction

end Patience

namespace PointKind

variable {π : Type} {kind : PointKind π} {request : Path} {refresh : Bool} {patience : Patience}

/-- Points whose visits are interrupted exactly if the caller gives up before they end. A visit that is
not interrupted takes what it takes for a caller who waits for ever. -/
structure Punctual (kind : PointKind π) : Prop extends kind.Patient where
  interrupted : ∀ {p request bearing refresh patience}, patience.isSpent = false →
    (kind.visit p request bearing refresh patience).interrupted =
      (patience.after (kind.visit p request bearing refresh .unlimited).elapsed).isSpent
  calls : ∀ {p request bearing refresh patience}, patience.isSpent = false →
    (kind.visit p request bearing refresh patience).interrupted = false →
      (kind.visit p request bearing refresh patience).calls =
        (kind.visit p request bearing refresh .unlimited).calls
  elapsed : ∀ {p request bearing refresh patience}, patience.isSpent = false →
    (kind.visit p request bearing refresh patience).interrupted = false →
      (kind.visit p request bearing refresh patience).elapsed =
        (kind.visit p request bearing refresh .unlimited).elapsed

namespace Punctual

theorem never_interrupted (punctual : kind.Punctual) (p : π) (request : Path) (bearing : Bearing)
    (refresh : Bool) : (kind.visit p request bearing refresh .unlimited).interrupted = false :=
  punctual.interrupted rfl

/-- For a caller who waits for long enough, a visit is the same as for one who waits for ever. -/
theorem visit_eq (punctual : kind.Punctual) {p : π} {bearing : Bearing}
    (waits : patience.isSpent = false)
    (waited : (kind.visit p request bearing refresh patience).interrupted = false) :
    kind.visit p request bearing refresh patience =
      kind.visit p request bearing refresh .unlimited := by
  have reply := punctual.reply waited
  have point := punctual.point waited
  have calls := punctual.calls waits waited
  have elapsed := punctual.elapsed waits waited
  have never := punctual.never_interrupted p request bearing refresh
  rw [← never] at waited
  generalize kind.visit p request bearing refresh patience = v at *
  generalize kind.visit p request bearing refresh .unlimited = w at *
  cases v
  cases w
  simp_all

end Punctual

/-! ## The last visit -/

/-- The moment at which the last of the visits ends. -/
def lastStop (turns : List (Turn π)) : Nat :=
  (turns.filterMap fun t => t.outcome.map Prod.snd).foldr max 0

theorem lastStop_cons_passedOver (p : π) (bearing : Bearing) (rest : List (Turn π)) :
    lastStop (⟨p, bearing, none⟩ :: rest) = lastStop rest := rfl

theorem lastStop_cons_visited (p : π) (bearing : Bearing) (visit : Visit π) (stop : Nat)
    (rest : List (Turn π)) :
    lastStop (⟨p, bearing, some (visit, stop)⟩ :: rest) = max stop (lastStop rest) := rfl

/-- Whoever waits until the last visit would end has the same course as who waits for ever. -/
theorem schedule_of_inTime (punctual : kind.Punctual) (points : List π) (slots : List Nat)
    (inTime : (patience.after
      (lastStop (kind.schedule request refresh .unlimited slots points))).isSpent = false) :
    kind.schedule request refresh patience slots points =
      kind.schedule request refresh .unlimited slots points := by
  induction points generalizing slots with
  | nil => rfl
  | cons p rest ih =>
    obtain ⟨bearing, bears⟩ : ∃ bearing,
        Bearing.between (Path.ofText (kind.label p)) request = bearing := ⟨_, rfl⟩
    by_cases unrelated : bearing = .unrelated
    · subst unrelated
      rw [schedule_cons_unrelated bears, lastStop_cons_passedOver] at inTime
      rw [schedule_cons_unrelated bears, schedule_cons_unrelated bears, ih slots inTime]
    · rw [schedule_cons_unlimited bears unrelated] at inTime ⊢
      rw [schedule_cons_related bears unrelated]
      dsimp only at inTime ⊢
      rw [lastStop_cons_visited, Patience.isSpent_after_max] at inTime
      obtain ⟨thisOne, others⟩ := inTime
      -- so the caller is still there when the visit starts, and until it ends
      rw [← Patience.after_after] at thisOne
      have waits := Patience.isSpent_of_after thisOne
      have same : kind.visit p request bearing refresh (patience.after ((slots.min?).getD 0)) =
          kind.visit p request bearing refresh .unlimited :=
        punctual.visit_eq waits ((punctual.interrupted waits).trans thisOne)
      rw [if_neg (Bool.eq_false_iff.mp waits), same]
      exact congrArg _ (ih _ others)

/-- Whoever has not given up has waited until the last visit ended. -/
theorem inTime_of_waited (punctual : kind.Punctual) (points : List π) (slots : List Nat)
    (waited : gaveUp patience (kind.schedule request refresh patience slots points) = false) :
    (patience.after
      (lastStop (kind.schedule request refresh .unlimited slots points))).isSpent = false := by
  induction points generalizing slots with
  | nil =>
    rw [gaveUp, Bool.or_eq_false_iff] at waited
    exact (congrArg Patience.isSpent patience.after_zero).trans waited.1
  | cons p rest ih =>
    obtain ⟨bearing, bears⟩ : ∃ bearing,
        Bearing.between (Path.ofText (kind.label p)) request = bearing := ⟨_, rfl⟩
    by_cases unrelated : bearing = .unrelated
    · subst unrelated
      rw [schedule_cons_unrelated bears] at waited ⊢
      exact ih slots (gaveUp_cons waited).1
    · rw [schedule_cons_related bears unrelated] at waited
      rw [schedule_cons_unlimited bears unrelated]
      dsimp only at waited ⊢
      rw [lastStop_cons_visited, Patience.isSpent_after_max]
      by_cases spent : (patience.after ((slots.min?).getD 0)).isSpent = true
      · rw [if_pos spent] at waited
        obtain ⟨visit, stop, outcome, -⟩ := (gaveUp_cons waited).2 unrelated
        contradiction
      · rw [if_neg spent] at waited
        obtain ⟨visit, stop, outcome, settled⟩ := (gaveUp_cons waited).2 unrelated
        cases outcome
        have others := (gaveUp_cons waited).1
        have waits := Bool.eq_false_iff.mpr spent
        rw [punctual.visit_eq waits settled] at others
        rw [punctual.interrupted waits, Patience.after_after] at settled
        exact ⟨settled, ih _ others⟩

/-- A caller gives up on a listing exactly if they give up before the last visit would end. -/
theorem gaveUp_eq (punctual : kind.Punctual) (options : GatherOptions) (points : List π)
    (request : Path) (refresh : Bool) (patience : Patience) :
    gaveUp patience (kind.turns options points request refresh patience) =
      (patience.after (lastStop (kind.turns options points request refresh .unlimited))).isSpent := by
  cases late : (patience.after
      (lastStop (kind.turns options points request refresh .unlimited))).isSpent with
  | false =>
    have same := schedule_of_inTime punctual points _ late
    rw [turns, same, gaveUp, Patience.isSpent_of_after late]
    exact kind.gaveUp_unlimited punctual.never_interrupted request refresh _ points
  | true =>
    by_contra waited
    have inTime := inTime_of_waited punctual points _ (Bool.not_eq_true _ ▸ waited)
    exact absurd late (Bool.eq_false_iff.mp inTime)

/-- Whoever gives up before the last visit would end gets no listing. -/
theorem gather_of_late (punctual : kind.Punctual) {options : GatherOptions} {points : List π}
    (whole : (kind.gather options points request refresh patience).brokeOff = false)
    (late : (patience.after
      (lastStop (kind.turns options points request refresh .unlimited))).isSpent = true) :
    (kind.gather options points request refresh patience).answer = .error .cancelled := by
  have impatient := (gaveUp_eq punctual options points request refresh patience).trans late
  rw [gather_eq _ whole, ofTurns, impatient]
  rfl

end PointKind

/-! ## Scripted points -/

/-- Scripted points are punctual: they wait as it is laid down, and then they answer. -/
theorem ScriptedPoint.punctual : ScriptedPoint.kind.Punctual where
  label _ _ _ _ _ := rfl
  reply waited := if_neg (Bool.eq_false_iff.mp waited)
  point _ := rfl
  interrupted _ := rfl
  calls _ _ := rfl
  elapsed _ waited := Patience.passing_of_inTime waited

end StorageGateway
