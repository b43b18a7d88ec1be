import StorageGateway.Proofs.Listing.Namesakes
import StorageGateway.Proofs.Listing.Punctual

/-!
# Points that fail

A listing asks every point that the request concerns, once, and shows what the answers come to. Points
that fail leave no trace in it, as long as one point answers, be it with nothing to show. If the caller
gives up before the last visit would end, there is no listing at all. None of this is said where a visit
breaks off everything, which happens just to points that are asked in turn. Main statement:
`gather_failsSoftly`.
-/

namespace StorageGateway

/-! ## Answers and failures -/

/-- The entries of an answer. -/
def Reply.answer? : Reply → Option (List Entry)
  | .entries es => some es
  | _ => none

/-- The answers among replies. -/
def answersAmong (replies : List (String × Reply)) : List (List Entry) :=
  replies.filterMap fun r => r.2.answer?

/-- There are replies, and none of them is an answer. -/
def AllFailed (replies : List (String × Reply)) : Prop :=
  replies ≠ [] ∧ ∀ r ∈ replies, r.2.isAnswer = false

instance (replies : List (String × Reply)) : Decidable (AllFailed replies) :=
  inferInstanceAs (Decidable (_ ∧ _))

theorem allFailed_of_perm {replies others : List (String × Reply)} (same : replies.Perm others)
    (failed : AllFailed replies) : AllFailed others :=
  ⟨fun nil => failed.1 (List.perm_nil.mp (nil ▸ same)),
    fun r among => failed.2 r (same.mem_iff.mpr among)⟩

theorem flatten_answersAmong (replies : List (String × Reply)) :
    (answersAmong replies).flatten = shownBy replies := by
  induction replies with
  | nil => rfl
  | cons r rest ih =>
    obtain ⟨label, reply⟩ := r
    have others : shownBy ((label, reply) :: rest) = reply.shown ++ shownBy rest := List.flatMap_cons
    rw [others, ← ih]
    cases reply with
    | entries es => exact List.flatten_cons
    | failed e => rfl
    | aborted => rfl

/-- What is listed one by one is what is added where nothing is. -/
theorem Listing.entries_extend_empty (es : List Entry) : (empty.extend es).entries = addedTo [] es :=
  (leads_ofEntries []).entries_extend es

theorem Reply.failure?_ne_none {reply : Reply} (fails : reply.isAnswer = false)
    (honest : reply ≠ .failed .cancelled) (label : String) : reply.failure? label ≠ none := by
  cases reply with
  | entries => contradiction
  | aborted => exact Option.some_ne_none _
  | failed e =>
    cases e with
    | cancelled => contradiction
    | _ => exact Option.some_ne_none _

theorem failureTexts_ne_nil {replies : List (String × Reply)} (failed : AllFailed replies)
    (honest : ∀ r ∈ replies, r.2 ≠ .failed .cancelled) : failureTexts replies ≠ [] := by
  obtain ⟨some, none⟩ := failed
  obtain ⟨r, among⟩ := List.exists_mem_of_ne_nil replies some
  obtain ⟨text, told⟩ := Option.ne_none_iff_exists'.mp
    (Reply.failure?_ne_none (none r among) (honest r among) r.1)
  exact List.ne_nil_of_mem (List.mem_filterMap.mpr ⟨r, among, told⟩)

namespace Tally

/-- If all fail, what went wrong is told. -/
theorem answer_of_allFailed {replies : List (String × Reply)} (failed : AllFailed replies)
    (honest : ∀ r ∈ replies, r.2 ≠ .failed .cancelled) :
    ∃ reason, (ofReplies replies).answer = .error (.unavailable reason) := by
  have none : replies.countP (fun r => r.2.isAnswer) = 0 :=
    List.countP_eq_zero.mpr fun r among => Bool.eq_false_iff.mp (failed.2 r among)
  rw [answer_ofReplies, if_pos ⟨none, failureTexts_ne_nil failed honest⟩]
  exact ⟨_, rfl⟩

/-- Unless all fail, the answers come to a listing. -/
theorem answer_of_not_allFailed {replies : List (String × Reply)} (fine : ¬ AllFailed replies) :
    (ofReplies replies).answer = .ok (Listing.addedTo [] (answersAmong replies).flatten) := by
  rw [answer_ofReplies, Listing.entries_extend_empty, flatten_answersAmong, if_neg]
  rintro ⟨none, told⟩
  refine fine ⟨?_, fun r among => Bool.eq_false_iff.mpr (List.countP_eq_zero.mp none r among)⟩
  rintro rfl
  exact told rfl

end Tally

/-! ## Points in turn -/

namespace PointKind

variable {π : Type} {kind : PointKind π} {points : List π} {request : Path} {refresh : Bool}

/-- With a single slot, every visit ends after those before it. -/
theorem ended_inTurn (kind : PointKind π) (request : Path) (refresh : Bool) (patience : Patience)
    (points : List π) (start : Nat) :
    (start :: (kind.ended (kind.schedule request refresh patience [start] points)).map
      Prod.fst).Pairwise (· ≤ ·) := by
  induction points generalizing start with
  | nil => exact List.pairwise_singleton _ _
  | cons p rest ih =>
    obtain ⟨bearing, bears⟩ : ∃ bearing,
        Bearing.between (Path.ofText (kind.label p)) request = bearing := ⟨_, rfl⟩
    by_cases unrelated : bearing = .unrelated
    · subst unrelated
      rw [schedule_cons_unrelated bears]
      exact ih start
    · have first : ([start].min?).getD 0 = start := rfl
      have freed (stop : Nat) : occupy [start] start stop = [stop] := by simp [occupy]
      rw [schedule_cons_related bears unrelated]
      simp only [first, freed]
      split
      · exact ih start
      · generalize kind.visit p request bearing refresh (patience.after start) = visit
        have later := ih (start + visit.elapsed)
        refine List.pairwise_cons.mpr ⟨fun stop among => ?_, later⟩
        have grows : start ≤ start + visit.elapsed := Nat.le_add_right _ _
        rcases List.mem_cons.mp among with rfl | after
        · exact grows
        · exact Nat.le_trans grows ((List.pairwise_cons.mp later).1 stop after)

/-! ## What is gathered -/

/-- A point that a request concerns, as a visit to it is told. -/
def concern? (kind : PointKind π) (request : Path) (p : π) : Option (String × Bearing) :=
  match Bearing.between (Path.ofText (kind.label p)) request with
  | .unrelated => none
  | bearing => some (kind.label p, bearing)

/-- The replies of all points that the request concerns, in the order of the points. -/
def finalReplies (kind : PointKind π) (points : List π) (request : Path) (refresh : Bool) :
    List (String × Reply) :=
  points.filterMap (kind.reply? request refresh)

/-- A listing for which every point that the request concerns is asked once, and no other. It fails if
there are such points and all of them fail. Otherwise it has what is in the answers, one after another in
some order, which is that of the points if they are asked in turn: every file, and every directory whose
name no earlier one has, together with the later ones of its name. -/
structure FailsSoftly (kind : PointKind π) (options : GatherOptions) (points : List π) (request : Path)
    (refresh : Bool) (g : Gathering π) : Prop where
  visited : g.visited = points.filterMap (kind.concern? request)
  unavailable : (∃ reason, g.answer = .error (.unavailable reason)) ↔
    AllFailed (kind.finalReplies points request refresh)
  listed : ¬ AllFailed (kind.finalReplies points request refresh) →
    ∃ answers, answers.Perm (answersAmong (kind.finalReplies points request refresh)) ∧
      (options.asksAtOnce (kind.related points request) = false →
        answers = answersAmong (kind.finalReplies points request refresh)) ∧
      g.answer = .ok (Listing.addedTo [] answers.flatten)
  empty : ¬ AllFailed (kind.finalReplies points request refresh) →
    (∀ entries ∈ answersAmong (kind.finalReplies points request refresh), entries = []) →
      g.answer = .ok []

theorem visited_schedule (patient : kind.Patient) {patience : Patience} (slots : List Nat)
    (waited : gaveUp patience (kind.schedule request refresh patience slots points) = false) :
    (kind.ofTurns patience (kind.schedule request refresh patience slots points)).visited =
      points.filterMap (kind.concern? request) := by
  refine filterMap_of_waited (waited_schedule patient points slots waited) fun {p t} turn => ?_
  cases turn with
  | passedOver bears =>
    rw [concern?, bears]
    rfl
  | @replied bearing visit stop bears related label reply point =>
    rw [concern?, bears, Option.map_some, label]
    cases bearing with
    | unrelated => contradiction
    | _ => rfl

/-- Points that are asked in turn reply in their order. -/
theorem replies_inTurn (patient : kind.Patient) {options : GatherOptions} {patience : Patience}
    (inTurn : options.asksAtOnce (kind.related points request) = false)
    (waited : gaveUp patience (kind.turns options points request refresh patience) = false) :
    kind.replies (kind.turns options points request refresh patience) =
      kind.finalReplies points request refresh := by
  have single : kind.turns options points request refresh patience =
      kind.schedule request refresh patience [0] points := by
    rw [turns, GatherOptions.width, inTurn]
    rfl
  rw [single] at waited ⊢
  have later := (List.pairwise_cons.mp (kind.ended_inTurn request refresh patience points 0)).2
  rw [kind.replies_eq_inTurn (List.pairwise_map.mp later), repliesInTurn_schedule patient _ _ waited]
  rfl

/-- Where a caller waits, everything breaks off just if points are asked in turn and the visit to one of
them breaks off. -/
theorem brokeOff_of_waited (patient : kind.Patient) {options : GatherOptions} {patience : Patience}
    (waited : gaveUp patience (kind.turns options points request refresh patience) = false) :
    (kind.gather options points request refresh patience).brokeOff = true ↔
      options.asksAtOnce (kind.related points request) = false ∧
        ∃ r ∈ kind.finalReplies points request refresh, r.2.isAborted = true := by
  have replies : kind.repliesInTurn (kind.turns options points request refresh patience) =
      kind.finalReplies points request refresh := repliesInTurn_schedule patient points _ waited
  have broke (turns : List (Turn π)) : turns.any Turn.brokeOff =
      (kind.repliesInTurn turns).any fun r => r.2.isAborted := by
    rw [repliesInTurn, List.any_filterMap]
    refine List.any_congr rfl fun t => ?_
    unfold Turn.brokeOff
    cases t.outcome <;> rfl
  rw [brokeOff_gather, broke, replies, Bool.and_eq_true, Bool.not_eq_true', List.any_eq_true]

/-- A caller who waits gets what the points that are concerned come to. -/
theorem failsSoftly_of_waited (patient : kind.Patient) {options : GatherOptions} {patience : Patience}
    (whole : (kind.gather options points request refresh patience).brokeOff = false)
    (waited : gaveUp patience (kind.turns options points request refresh patience) = false)
    (honest : ∀ r ∈ kind.finalReplies points request refresh, r.2 ≠ .failed .cancelled) :
    kind.FailsSoftly options points request refresh
      (kind.gather options points request refresh patience) := by
  have answer := kind.answer_gather whole waited
  have same : (kind.replies (kind.turns options points request refresh patience)).Perm
      (kind.finalReplies points request refresh) := replies_perm patient waited
  have inTurn (turn : options.asksAtOnce (kind.related points request) = false) :=
    replies_inTurn patient turn waited
  have visited : (kind.gather options points request refresh patience).visited =
      points.filterMap (kind.concern? request) := by
    rw [gather_eq _ whole]
    exact visited_schedule patient _ waited
  generalize kind.replies (kind.turns options points request refresh patience) = replies at *
  have listed (fine : ¬ AllFailed (kind.finalReplies points request refresh)) :
      (Tally.ofReplies replies).answer =
        .ok (Listing.addedTo [] (answersAmong replies).flatten) :=
    Tally.answer_of_not_allFailed fun failed => fine (allFailed_of_perm same failed)
  refine ⟨visited, ⟨fun unavailable => ?_, fun failed => ?_⟩, fun fine => ?_, fun fine nothing => ?_⟩
  · by_contra fine
    obtain ⟨reason, told⟩ := unavailable
    rw [answer, listed fine] at told
    contradiction
  · rw [answer]
    exact Tally.answer_of_allFailed (allFailed_of_perm same.symm failed) fun r among =>
      honest r (same.mem_iff.mp among)
  · refine ⟨answersAmong replies, same.filterMap _, fun turn => ?_, answer.trans (listed fine)⟩
    rw [inTurn turn]
  · have none : (answersAmong replies).flatten = [] :=
      List.flatten_eq_nil_iff.mpr fun entries among =>
        nothing entries ((same.filterMap _).mem_iff.mp among)
    rw [answer, listed fine, none]
    rfl

/-- As long as no point says of its own accord that the caller gave up, a listing of many points fails
softly for every caller who waits until the last visit would end. Whoever gives up before is told just
that. Only where points are asked in turn, a visit that breaks off leaves nobody to be told anything. -/
theorem gather_failsSoftly (punctual : kind.Punctual) (options : GatherOptions) (points : List π)
    (text : String) (refresh : Bool) (patience : Patience)
    (honest : ∀ r ∈ kind.finalReplies points (.ofText text) refresh, r.2 ≠ .failed .cancelled) :
    let g := kind.gather options points (.ofText text) refresh patience
    let last := lastStop (kind.turns options points (.ofText text) refresh .unlimited)
    ((patience.after last).isSpent = false →
      (g.brokeOff = true ↔ options.asksAtOnce (kind.related points (.ofText text)) = false ∧
        ∃ r ∈ kind.finalReplies points (.ofText text) refresh, r.2.isAborted = true) ∧
      (g.brokeOff = false → kind.FailsSoftly options points (.ofText text) refresh g)) ∧
    ((patience.after last).isSpent = true → g.brokeOff = false → g.answer = .error .cancelled) := by
  refine ⟨fun inTime => ?_, fun late whole => gather_of_late punctual whole late⟩
  have waited := (gaveUp_eq punctual options points (.ofText text) refresh patience).trans inTime
  exact ⟨brokeOff_of_waited punctual.toPatient waited,
    fun whole => failsSoftly_of_waited punctual.toPatient whole waited honest⟩

/-- Points that answer, with and without something to show, points that do not, and one elsewhere. -/
def flakyPoints : List ScriptedPoint :=
  [⟨"/gh/down", .fail (.unavailable "down"), 2, .ofNat 0, 1, 2⟩, ⟨"/gh/a/x", .entry, 9, .ofNat 3, 4, 6⟩,
    ⟨"/gh/broken", .abort, 1, .ofNat 0, 1, 2⟩, ⟨"/other", .entry, 30, .ofNat 8, 1, 2⟩,
    ⟨"/gh/quiet", .empty, 4, .ofNat 0, 1, 2⟩, ⟨"/gh/a/y", .entry, 3, .ofNat 5, 3, 5⟩]

/-- Two at a time take ten milliseconds: there is a listing for whoever waits for as long, and none for
whoever does not. -/
theorem gather_failsSoftly_flakyPoints :
    let kind := ScriptedPoint.kind
    let request := Path.ofText "gh//"
    (∀ r ∈ kind.finalReplies flakyPoints request false, r.2 ≠ .failed .cancelled) ∧
      ¬ AllFailed (kind.finalReplies flakyPoints request false) ∧
      kind.FailsSoftly (.atOnce 2) flakyPoints request false
        (kind.gather (.atOnce 2) flakyPoints request false (.limited 10)) ∧
      (kind.gather (.atOnce 2) flakyPoints request false (.limited 9)).answer = .error .cancelled ∧
      (kind.gather .inTurn flakyPoints request false .unlimited).brokeOff = true := by
  have honest : ∀ r ∈ ScriptedPoint.kind.finalReplies flakyPoints (.ofText "gh//") false,
      r.2 ≠ .failed .cancelled := by decide +kernel
  have atOnce := gather_failsSoftly ScriptedPoint.punctual (.atOnce 2) flakyPoints "gh//" false
  have inTurn := gather_failsSoftly ScriptedPoint.punctual .inTurn flakyPoints "gh//" false
  refine ⟨honest, by decide +kernel, ?_, ?_, ?_⟩
  · exact ((atOnce (.limited 10) honest).1 (by decide +kernel)).2 rfl
  · exact (atOnce (.limited 9) honest).2 (by decide +kernel) rfl
  · exact ((inTurn .unlimited honest).1 rfl).1.mpr ⟨rfl, by decide +kernel⟩

/-- Nobody is visited after the point whose visit breaks off. -/
example : (ScriptedPoint.kind.gather .inTurn flakyPoints (.ofText "/gh") false .unlimited).visited.map
    Prod.fst = ["/gh/down", "/gh/a/x", "/gh/broken"] := by
  decide +kernel

end PointKind

end StorageGateway
