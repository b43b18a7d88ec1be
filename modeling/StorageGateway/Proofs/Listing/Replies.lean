import Mathlib.Data.List.Perm.Basic
import StorageGateway.Listing.Gather
import StorageGateway.Proofs.Listing.Merging

/-!
# Replies in any order

A listing of many points comes to what their replies come to. The replies of points that wait for
their sources do not depend on when they are visited, so that every way of visiting them gathers the
same replies, in the order in which the visits end. Main statements: `Tally.answer_ofReplies` and
`replies_perm`.
-/

namespace StorageGateway

/-! ## What replies come to -/

namespace Reply

/-- The entries that a reply shows. -/
def shown : Reply → List Entry
  | .entries es => es
  | _ => []

/-- Only an answer shows entries. -/
theorem eq_entries_of_mem_shown {reply : Reply} {e : Entry} (among : e ∈ reply.shown) :
    reply = .entries reply.shown := by
  cases reply with
  | entries es => rfl
  | failed e => exact absurd among List.not_mem_nil
  | aborted => exact absurd among List.not_mem_nil

/-- Whether a reply is an answer, if only that there is nothing to show. -/
def isAnswer : Reply → Bool
  | .entries _ => true
  | _ => false

/-- What a reply that counts as a failure says, with the label of its point. -/
def failure? (label : String) : Reply → Option String
  | .entries _ => none
  | .failed .cancelled => none
  | .failed e => some (label ++ ": " ++ e.message)
  | @Reply.aborted report => some report

theorem failure?_of_isAnswer {reply : Reply} (answer : reply.isAnswer = true) (label : String) :
    reply.failure? label = none := by
  cases reply with
  | entries => rfl
  | failed => contradiction
  | aborted => contradiction

end Reply

/-- What went wrong at each point that failed. -/
def failureTexts (replies : List (String × Reply)) : List String :=
  replies.filterMap fun r => r.2.failure? r.1

/-- The entries that replies show, one reply after another. -/
def shownBy (replies : List (String × Reply)) : List Entry :=
  replies.flatMap fun r => r.2.shown

namespace Tally

/-- What is gathered from replies, in the order in which they come. -/
def ofReplies (replies : List (String × Reply)) : Tally :=
  replies.foldl (fun t r => t.record r.1 r.2) .empty

theorem record_eq (t : Tally) (label : String) (reply : Reply) :
    t.record label reply =
      { listing := t.listing.extend reply.shown
        answered := t.answered + if reply.isAnswer then 1 else 0
        failures := t.failures ++ (reply.failure? label).toList } := by
  cases reply with
  | entries entries => simp [record, Reply.shown, Reply.isAnswer, Reply.failure?]
  | failed e => cases e <;> simp [record, Reply.shown, Reply.isAnswer, Reply.failure?, Listing.extend]
  | aborted => simp [record, Reply.shown, Reply.isAnswer, Reply.failure?, Listing.extend]

/-- The parts of a tally are gathered side by side. -/
theorem foldl_record (replies : List (String × Reply)) (t : Tally) :
    replies.foldl (fun t r => t.record r.1 r.2) t =
      { listing := t.listing.extend (shownBy replies)
        answered := t.answered + replies.countP fun r => r.2.isAnswer
        failures := t.failures ++ failureTexts replies } := by
  induction replies generalizing t with
  | nil => simp [shownBy, failureTexts, Listing.extend]
  | cons r rest ih =>
    have texts : failureTexts (r :: rest) = (r.2.failure? r.1).toList ++ failureTexts rest := by
      rw [failureTexts, List.filterMap_cons]
      cases r.2.failure? r.1 <;> rfl
    have entries : shownBy (r :: rest) = r.2.shown ++ shownBy rest := List.flatMap_cons
    rw [List.foldl_cons, ih, record_eq, texts, entries, Listing.extend_append, List.countP_cons]
    simp only [Nat.add_assoc, Nat.add_comm (List.countP _ rest), List.append_assoc]

theorem ofReplies_eq (replies : List (String × Reply)) :
    ofReplies replies =
      { listing := Listing.empty.extend (shownBy replies)
        answered := replies.countP fun r => r.2.isAnswer
        failures := failureTexts replies } := by
  rw [ofReplies, foldl_record]
  simp [empty]

/-- What replies come to: the entries that are listed, or the failures that are told. -/
theorem answer_ofReplies (replies : List (String × Reply)) :
    (ofReplies replies).answer =
      if replies.countP (fun r => r.2.isAnswer) = 0 ∧ failureTexts replies ≠ [] then
        .error (.unavailable ("; ".intercalate (failureTexts replies)))
      else .ok (Listing.empty.extend (shownBy replies)).entries := by
  rw [ofReplies_eq, answer]

theorem eq_of_answer {replies : List (String × Reply)} {entries : List Entry}
    (answered : (ofReplies replies).answer = .ok entries) :
    entries = (Listing.empty.extend (shownBy replies)).entries := by
  rw [answer_ofReplies] at answered
  split at answered
  · contradiction
  · exact (Except.ok.inj answered).symm

end Tally

/-! ## What is gathered -/

namespace PointKind

variable {π : Type} (kind : PointKind π)

/-- The course of a request over several points, as long as no visit breaks it off. -/
def turns (options : GatherOptions) (points : List π) (request : Path) (refresh : Bool)
    (patience : Patience) : List (Turn π) :=
  kind.schedule request refresh patience
    (List.replicate (options.width (kind.related points request)) 0) points

/-- What a course of turns comes to that nothing breaks off. -/
def ofTurns (patience : Patience) (turns : List (Turn π)) : Gathering π :=
  { answer := if gaveUp patience turns then .error .cancelled
      else (Tally.ofReplies (kind.replies turns)).answer
    points := turns.map Turn.point
    visited := turns.filterMap fun t => t.outcome.map fun _ => (kind.label t.point, t.bearing)
    calls := (turns.map Turn.calls).foldr (· + ·) 0
    brokeOff := false }

/-- Nothing is cut off where no visit breaks off. -/
theorem untilBreak_of_whole {request : Path} {turns : List (Turn π)}
    (whole : turns.any Turn.brokeOff = false) (points : List π) :
    kind.untilBreak request points turns = turns := by
  induction turns generalizing points with
  | nil => cases points <;> rfl
  | cons t rest ih =>
    rw [List.any_cons, Bool.or_eq_false_iff] at whole
    cases points with
    | nil => rfl
    | cons p points => rw [untilBreak, if_neg (Bool.eq_false_iff.mp whole.1), ih whole.2]

variable {options : GatherOptions} {points : List π} {request : Path} {refresh : Bool}
  {patience : Patience}

theorem brokeOff_gather : (kind.gather options points request refresh patience).brokeOff =
    (!options.asksAtOnce (kind.related points request) &&
      (kind.turns options points request refresh patience).any Turn.brokeOff) := rfl

/-- A gathering that does not break off is what its turns come to. -/
theorem gather_eq (whole : (kind.gather options points request refresh patience).brokeOff = false) :
    kind.gather options points request refresh patience =
      kind.ofTurns patience (kind.turns options points request refresh patience) := by
  have course : (if options.asksAtOnce (kind.related points request) then
        kind.turns options points request refresh patience
      else kind.untilBreak request points (kind.turns options points request refresh patience)) =
      kind.turns options points request refresh patience := by
    rw [brokeOff_gather, Bool.and_eq_false_iff] at whole
    rcases whole with atOnce | unbroken
    · exact if_pos (by simpa using atOnce)
    · rw [kind.untilBreak_of_whole unbroken, ite_self]
  unfold gather ofTurns
  dsimp only
  rw [← turns, course, ← whole]
  rfl

/-- A caller who waits gets what the replies come to. -/
theorem answer_gather (whole : (kind.gather options points request refresh patience).brokeOff = false)
    (waited : gaveUp patience (kind.turns options points request refresh patience) = false) :
    (kind.gather options points request refresh patience).answer =
      (Tally.ofReplies (kind.replies (kind.turns options points request refresh patience))).answer := by
  rw [kind.gather_eq whole, ofTurns, waited]
  rfl

/-- Who has not given up is told so by the answer. -/
theorem waited_of_answer
    (whole : (kind.gather options points request refresh patience).brokeOff = false)
    (answered : (kind.gather options points request refresh patience).answer ≠ .error .cancelled) :
    gaveUp patience (kind.turns options points request refresh patience) = false := by
  rw [kind.gather_eq whole] at answered
  by_contra impatient
  exact answered (if_pos (Bool.not_eq_false _ ▸ impatient))

theorem nodup_ofTurns {turns : List (Turn π)} {entries : List Entry}
    (answered : (kind.ofTurns patience turns).answer = .ok entries) : (directoryNames entries).Nodup := by
  rw [ofTurns] at answered
  dsimp only at answered
  split at answered
  · contradiction
  · rw [Tally.eq_of_answer answered]
    exact (Listing.indexed_empty.extend _).nodup_names

/-- Whatever is gathered has no directory twice. -/
theorem nodup_gather {entries : List Entry}
    (answered : (kind.gather options points request refresh patience).answer = .ok entries) :
    (directoryNames entries).Nodup :=
  kind.nodup_ofTurns answered

/-- Points whose visits never break off. -/
def Unbroken : Prop :=
  ∀ p request bearing refresh patience,
    (kind.visit p request bearing refresh patience).reply.isAborted = false

/-- Points reply alike whether the caller waits for long enough or for ever, and are left alike; they
keep their labels. -/
structure Patient : Prop where
  label : ∀ p request bearing refresh patience,
    kind.label (kind.visit p request bearing refresh patience).point = kind.label p
  reply : ∀ {p request bearing refresh patience},
    (kind.visit p request bearing refresh patience).interrupted = false →
      (kind.visit p request bearing refresh patience).reply =
        (kind.visit p request bearing refresh .unlimited).reply
  point : ∀ {p request bearing refresh patience},
    (kind.visit p request bearing refresh patience).interrupted = false →
      (kind.visit p request bearing refresh patience).point =
        (kind.visit p request bearing refresh .unlimited).point

/-- What a point replies in the end, if the request concerns it. -/
def reply? (request : Path) (refresh : Bool) (p : π) : Option (String × Reply) :=
  match Bearing.between (Path.ofText (kind.label p)) request with
  | .unrelated => none
  | bearing => some (kind.label p, (kind.visit p request bearing refresh .unlimited).reply)

/-- The replies of a course in the order of the points. -/
def repliesInTurn (turns : List (Turn π)) : List (String × Reply) :=
  turns.filterMap fun t => t.outcome.map fun (visit, _) => (kind.label t.point, visit.reply)

/-- The same with the moments at which the visits end. -/
def ended (turns : List (Turn π)) : List (Nat × String × Reply) :=
  turns.filterMap fun t => t.outcome.map fun (visit, stop) => (stop, kind.label t.point, visit.reply)

theorem repliesInTurn_eq (turns : List (Turn π)) :
    kind.repliesInTurn turns = (kind.ended turns).map Prod.snd := by
  rw [repliesInTurn, ended, List.map_filterMap]
  refine List.filterMap_congr fun t _ => ?_
  cases t.outcome <;> rfl

theorem replies_perm_inTurn (turns : List (Turn π)) :
    (kind.replies turns).Perm (kind.repliesInTurn turns) := by
  rw [repliesInTurn_eq]
  exact (List.mergeSort_perm _ _).map _

/-- Visits that end one after another have their replies in the order of the points. -/
theorem replies_eq_inTurn {turns : List (Turn π)}
    (later : (kind.ended turns).Pairwise fun a b => a.1 ≤ b.1) :
    kind.replies turns = kind.repliesInTurn turns := by
  rw [repliesInTurn_eq]
  exact congrArg _ (List.mergeSort_of_pairwise (later.imp decide_eq_true))

variable {kind}

/-- A point that the request concerns is visited when a slot is free, unless the caller gave up. -/
theorem schedule_cons_related {request : Path} {refresh : Bool} {patience : Patience}
    {slots : List Nat} {p : π} {rest : List π} {bearing : Bearing}
    (bears : Bearing.between (Path.ofText (kind.label p)) request = bearing)
    (related : bearing ≠ .unrelated) :
    kind.schedule request refresh patience slots (p :: rest) =
      let start := (slots.min?).getD 0
      let left := patience.after start
      if left.isSpent then
        ⟨p, bearing, none⟩ :: kind.schedule request refresh patience slots rest
      else
        let visit := kind.visit p request bearing refresh left
        let stop := start + visit.elapsed
        ⟨visit.point, bearing, some (visit, stop)⟩ ::
          kind.schedule request refresh patience (occupy slots start stop) rest := by
  rw [schedule, bears]
  cases bearing with
  | unrelated => contradiction
  | _ => rfl

/-- For a caller who waits for ever, it is visited in any case. -/
theorem schedule_cons_unlimited {request : Path} {refresh : Bool} {slots : List Nat} {p : π}
    {rest : List π} {bearing : Bearing}
    (bears : Bearing.between (Path.ofText (kind.label p)) request = bearing)
    (related : bearing ≠ .unrelated) :
    kind.schedule request refresh .unlimited slots (p :: rest) =
      let start := (slots.min?).getD 0
      let visit := kind.visit p request bearing refresh .unlimited
      let stop := start + visit.elapsed
      ⟨visit.point, bearing, some (visit, stop)⟩ ::
        kind.schedule request refresh .unlimited (occupy slots start stop) rest := by
  rw [schedule_cons_related bears related]
  exact if_neg Bool.false_ne_true

/-- A point that the request does not concern is passed over. -/
theorem schedule_cons_unrelated {request : Path} {refresh : Bool} {patience : Patience}
    {slots : List Nat} {p : π} {rest : List π}
    (bears : Bearing.between (Path.ofText (kind.label p)) request = .unrelated) :
    kind.schedule request refresh patience slots (p :: rest) =
      ⟨p, .unrelated, none⟩ :: kind.schedule request refresh patience slots rest := by
  rw [schedule, bears]

theorem reply?_of_related {request : Path} {refresh : Bool} {p : π} {bearing : Bearing}
    (bears : Bearing.between (Path.ofText (kind.label p)) request = bearing)
    (related : bearing ≠ .unrelated) :
    kind.reply? request refresh p =
      some (kind.label p, (kind.visit p request bearing refresh .unlimited).reply) := by
  rw [reply?, bears]
  cases bearing with
  | unrelated => contradiction
  | _ => rfl

/-- Only a point that the request concerns replies. -/
theorem of_reply? {request : Path} {refresh : Bool} {p : π} {r : String × Reply}
    (replied : kind.reply? request refresh p = some r) :
    ∃ bearing, Bearing.between (Path.ofText (kind.label p)) request = bearing ∧
      bearing ≠ .unrelated ∧
      r = (kind.label p, (kind.visit p request bearing refresh .unlimited).reply) := by
  obtain ⟨bearing, bears⟩ : ∃ bearing,
      Bearing.between (Path.ofText (kind.label p)) request = bearing := ⟨_, rfl⟩
  by_cases unrelated : bearing = .unrelated
  · rw [reply?, bears, unrelated] at replied
    cases replied
  · rw [reply?_of_related bears unrelated] at replied
    exact ⟨bearing, bears, unrelated, (Option.some.inj replied).symm⟩

/-- Who gives up on no turn gives up on none of the later ones. -/
theorem gaveUp_cons {patience : Patience} {t : Turn π} {rest : List (Turn π)}
    (waited : gaveUp patience (t :: rest) = false) :
    gaveUp patience rest = false ∧
      (t.bearing ≠ .unrelated → ∃ visit stop, t.outcome = some (visit, stop) ∧
        visit.interrupted = false) := by
  simp only [gaveUp, List.any_cons, Bool.or_eq_false_iff] at waited
  obtain ⟨patient, settled, others⟩ := waited
  refine ⟨by simp only [gaveUp, patient, others, Bool.or_false], fun related => ?_⟩
  cases outcome : t.outcome with
  | none =>
    rw [outcome] at settled
    cases bears : t.bearing with
    | unrelated => exact absurd bears related
    | _ =>
      rw [bears] at settled
      contradiction
  | some ended =>
    obtain ⟨visit, stop⟩ := ended
    refine ⟨visit, stop, rfl, ?_⟩
    rw [outcome] at settled
    cases bears : t.bearing with
    | unrelated => exact absurd bears related
    | _ =>
      rw [bears] at settled
      exact settled

/-- Who does not give up on a turn gives up just if they give up on a later one. -/
theorem gaveUp_cons_of_settled {patience : Patience} {t : Turn π} {rest : List (Turn π)}
    (settled : t.bearing = .unrelated ∨
      ∃ visit stop, t.outcome = some (visit, stop) ∧ visit.interrupted = false) :
    gaveUp patience (t :: rest) = gaveUp patience rest := by
  obtain ⟨point, bearing, outcome⟩ := t
  unfold gaveUp
  rw [List.any_cons]
  rcases settled with unrelated | ⟨visit, stop, ended, waited⟩
  · simp only at unrelated
    subst unrelated
    rfl
  · simp only at ended
    subst ended
    cases bearing <;> simp [waited]

theorem Unbroken.schedule (unbroken : kind.Unbroken) (request : Path) (refresh : Bool) (patience : Patience)
    (slots : List Nat) (points : List π) :
    (kind.schedule request refresh patience slots points).any Turn.brokeOff = false := by
  induction points generalizing slots with
  | nil => rfl
  | cons p rest ih =>
    obtain ⟨bearing, bears⟩ : ∃ bearing,
        Bearing.between (Path.ofText (kind.label p)) request = bearing := ⟨_, rfl⟩
    by_cases unrelated : bearing = .unrelated
    · subst unrelated
      rw [schedule_cons_unrelated bears]
      exact ih slots
    · rw [schedule_cons_related bears unrelated]
      dsimp only
      split
      · exact ih slots
      · rw [List.any_cons, ih, Bool.or_false]
        exact unbroken _ _ _ _ _

/-- Nothing breaks off where no visit does. -/
theorem Unbroken.gather (unbroken : kind.Unbroken) (options : GatherOptions) (points : List π)
    (request : Path) (refresh : Bool) (patience : Patience) :
    (kind.gather options points request refresh patience).brokeOff = false := by
  have whole : (kind.turns options points request refresh patience).any Turn.brokeOff = false :=
    unbroken.schedule request refresh patience _ points
  rw [brokeOff_gather, whole, Bool.and_false]

/-- Nobody gives up who waits for ever on points that are never interrupted then. -/
theorem gaveUp_unlimited (kind : PointKind π)
    (never : ∀ p request bearing refresh,
      (kind.visit p request bearing refresh .unlimited).interrupted = false)
    (request : Path) (refresh : Bool) (slots : List Nat) (points : List π) :
    gaveUp .unlimited (kind.schedule request refresh .unlimited slots points) = false := by
  induction points generalizing slots with
  | nil => rfl
  | cons p rest ih =>
    obtain ⟨bearing, bears⟩ : ∃ bearing,
        Bearing.between (Path.ofText (kind.label p)) request = bearing := ⟨_, rfl⟩
    by_cases unrelated : bearing = .unrelated
    · subst unrelated
      rw [schedule_cons_unrelated bears]
      exact (gaveUp_cons_of_settled (.inl rfl)).trans (ih slots)
    · rw [schedule_cons_unlimited bears unrelated]
      exact (gaveUp_cons_of_settled (.inr ⟨_, _, rfl, never _ _ _ _⟩)).trans (ih _)

/-! ## Callers who wait -/

/-- How a point takes its turn if the caller waits: it is passed over, or it replies in the end. -/
inductive Waited (kind : PointKind π) (request : Path) (refresh : Bool) (p : π) : Turn π → Prop
  | passedOver (bears : Bearing.between (Path.ofText (kind.label p)) request = .unrelated) :
    Waited kind request refresh p ⟨p, .unrelated, none⟩
  | replied {bearing : Bearing} {visit : Visit π} (stop : Nat)
    (bears : Bearing.between (Path.ofText (kind.label p)) request = bearing)
    (related : bearing ≠ .unrelated)
    (label : kind.label visit.point = kind.label p)
    (reply : visit.reply = (kind.visit p request bearing refresh .unlimited).reply)
    (point : visit.point = (kind.visit p request bearing refresh .unlimited).point) :
    Waited kind request refresh p ⟨visit.point, bearing, some (visit, stop)⟩

/-- If the caller waits, every point takes its turn, whenever it is visited. -/
theorem waited_schedule (patient : kind.Patient) {request : Path} {refresh : Bool}
    {patience : Patience} (points : List π) (slots : List Nat)
    (waited : gaveUp patience (kind.schedule request refresh patience slots points) = false) :
    List.Forall₂ (kind.Waited request refresh) points
      (kind.schedule request refresh patience slots points) := by
  -- the slots decide when a point is visited, and a patient point replies alike at any time
  induction points generalizing slots with
  | nil => exact .nil
  | cons p rest ih =>
    obtain ⟨bearing, bears⟩ : ∃ bearing,
        Bearing.between (Path.ofText (kind.label p)) request = bearing := ⟨_, rfl⟩
    by_cases unrelated : bearing = .unrelated
    · subst unrelated
      rw [schedule_cons_unrelated bears] at waited ⊢
      exact .cons (.passedOver bears) (ih slots (gaveUp_cons waited).1)
    · rw [schedule_cons_related bears unrelated] at waited ⊢
      dsimp only at waited ⊢
      by_cases spent : (patience.after ((slots.min?).getD 0)).isSpent = true
      · rw [if_pos spent] at waited
        obtain ⟨visit, stop, outcome, -⟩ := (gaveUp_cons waited).2 unrelated
        contradiction
      · rw [if_neg spent] at waited ⊢
        obtain ⟨visit, stop, outcome, settled⟩ := (gaveUp_cons waited).2 unrelated
        cases outcome
        exact .cons (.replied _ bears unrelated (patient.label _ _ _ _ _) (patient.reply settled)
          (patient.point settled)) (ih _ (gaveUp_cons waited).1)

/-- What is read off the turns can be read off the points. -/
theorem filterMap_of_waited {γ : Type} {request : Path} {refresh : Bool} {points : List π}
    {turns : List (Turn π)} (waited : List.Forall₂ (kind.Waited request refresh) points turns)
    {f : Turn π → Option γ} {g : π → Option γ}
    (alike : ∀ {p t}, kind.Waited request refresh p t → f t = g p) :
    turns.filterMap f = points.filterMap g := by
  induction waited with
  | nil => rfl
  | cons turn _ ih => rw [List.filterMap_cons, List.filterMap_cons, alike turn, ih]

/-- If the caller waits, every point that is concerned replies. -/
theorem repliesInTurn_schedule (patient : kind.Patient) {request : Path} {refresh : Bool}
    {patience : Patience} (points : List π) (slots : List Nat)
    (waited : gaveUp patience (kind.schedule request refresh patience slots points) = false) :
    kind.repliesInTurn (kind.schedule request refresh patience slots points) =
      points.filterMap (kind.reply? request refresh) := by
  refine filterMap_of_waited (waited_schedule patient points slots waited) fun {p t} turn => ?_
  cases turn with
  | passedOver bears =>
    rw [reply?, bears]
    rfl
  | replied stop bears related label reply point =>
    rw [reply?_of_related bears related, ← reply, ← label]
    rfl

/-- A point after it has replied, if the request concerns it. -/
def settled (kind : PointKind π) (request : Path) (refresh : Bool) (p : π) : π :=
  match Bearing.between (Path.ofText (kind.label p)) request with
  | .unrelated => p
  | bearing => (kind.visit p request bearing refresh .unlimited).point

theorem settled_of_related {request : Path} {refresh : Bool} {p : π} {bearing : Bearing}
    (bears : Bearing.between (Path.ofText (kind.label p)) request = bearing)
    (related : bearing ≠ .unrelated) :
    kind.settled request refresh p = (kind.visit p request bearing refresh .unlimited).point := by
  rw [settled, bears]
  cases bearing with
  | unrelated => contradiction
  | _ => rfl

/-- If the caller waits, every point is left as its reply leaves it. -/
theorem points_schedule (patient : kind.Patient) {request : Path} {refresh : Bool}
    {patience : Patience} (points : List π) (slots : List Nat)
    (waited : gaveUp patience (kind.schedule request refresh patience slots points) = false) :
    (kind.schedule request refresh patience slots points).map Turn.point =
      points.map (kind.settled request refresh) := by
  rw [← List.filterMap_eq_map, ← List.filterMap_eq_map]
  refine filterMap_of_waited (waited_schedule patient points slots waited) fun {p t} turn => ?_
  refine congrArg some ?_
  cases turn with
  | passedOver bears => rw [settled, bears]
  | replied stop bears related label reply point => rw [settled_of_related bears related, point]

/-- If the caller waits, the replies are those that the points give in the end, in some order. -/
theorem replies_perm (patient : kind.Patient) {options : GatherOptions} {points : List π}
    {request : Path} {refresh : Bool} {patience : Patience}
    (waited : gaveUp patience (kind.turns options points request refresh patience) = false) :
    (kind.replies (kind.turns options points request refresh patience)).Perm
      (points.filterMap (kind.reply? request refresh)) := by
  have inTurn := repliesInTurn_schedule patient points _ waited
  rw [← inTurn]
  exact kind.replies_perm_inTurn _

end PointKind

end StorageGateway
