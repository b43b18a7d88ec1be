import StorageGateway.Proofs.Release.Visits

/-!
# Repositories asked at once or in turn

A listing over repositories does not depend on how many of them are asked at a time, nor on the
order in which their visits end: it shows the same entries, or it fails and tells the same failures.
Main statement: `atOnce_agrees_inTurn`.
-/

namespace StorageGateway

namespace RepositoryView

open PointKind

/-- Directories of one name in the replies to a request are the same directory. -/
theorem alike_replies (source : Source) {points : List RepositoryView} {request : Path}
    {refresh : Bool} {order : List (String × Reply)}
    (same : order.Perm (points.filterMap ((kind source).reply? request refresh))) :
    Listing.Alike (shownBy order) := by
  have placed : DirectoriesIn request (shownBy order) := by
    intro e listed
    obtain ⟨r, replied, shown⟩ := List.mem_flatMap.mp listed
    obtain ⟨p, -, replies⟩ := List.mem_filterMap.mp (same.mem_iff.mp replied)
    exact p.directories_of_reply source replies e shown
  intro a first b second isDirectory alsoDirectory name
  obtain ⟨path, locator⟩ := placed a first isDirectory
  obtain ⟨otherPath, otherLocator⟩ := placed b second alsoDirectory
  exact ⟨by rw [path, otherPath, name], locator.trans otherLocator.symm⟩

/-- Replies that come in two orders come to the same entries or to the same failures. -/
theorem answers_agree {source : Source} {points : List RepositoryView} {request : Path}
    {refresh : Bool} {order others : List (String × Reply)}
    (left : order.Perm (points.filterMap ((kind source).reply? request refresh)))
    (right : others.Perm (points.filterMap ((kind source).reply? request refresh))) :
    (∃ entries listed, (Tally.ofReplies order).answer = .ok entries ∧
      (Tally.ofReplies others).answer = .ok listed ∧ entries.Perm listed) ∨
    ∃ failures told,
      (Tally.ofReplies order).answer = .error (.unavailable ("; ".intercalate failures)) ∧
      (Tally.ofReplies others).answer = .error (.unavailable ("; ".intercalate told)) ∧
      failures.Perm (failureTexts (points.filterMap ((kind source).reply? request refresh))) ∧
      told.Perm (failureTexts (points.filterMap ((kind source).reply? request refresh))) := by
  have same : order.Perm others := left.trans right.symm
  have answered := same.countP_eq fun r => r.2.isAnswer
  have failures : (failureTexts order).Perm (failureTexts others) := same.filterMap _
  have silent : failureTexts order = [] ↔ failureTexts others = [] :=
    ⟨fun none => (none ▸ failures).nil_eq.symm, fun none => (none ▸ failures).eq_nil⟩
  rw [Tally.answer_ofReplies, Tally.answer_ofReplies, ← answered]
  by_cases failed : order.countP (fun r => r.2.isAnswer) = 0 ∧ failureTexts order ≠ []
  · have alsoFailed : order.countP (fun r => r.2.isAnswer) = 0 ∧ failureTexts others ≠ [] :=
      ⟨failed.1, fun none => failed.2 (silent.mpr none)⟩
    rw [if_pos failed, if_pos alsoFailed]
    exact .inr ⟨_, _, rfl, rfl, left.filterMap _, right.filterMap _⟩
  · have alsoListed : ¬ (order.countP (fun r => r.2.isAnswer) = 0 ∧ failureTexts others ≠ []) :=
      fun other => failed ⟨other.1, fun none => other.2 (silent.mp none)⟩
    rw [if_neg failed, if_neg alsoListed]
    refine .inl ⟨_, _, rfl, rfl, ?_⟩
    exact Listing.extend_perm (same.flatMap_right _) (alike_replies source left)

/-- Whether repositories are asked at once or in turn, and in whichever order the visits end, who
waits for the answer sees the same entries, or is told the same failures. -/
theorem atOnce_agrees_inTurn (source : Source) (points : List RepositoryView) (request : Path)
    (refresh : Bool) (options others : GatherOptions) {patience wait : Patience}
    {order : List (String × Reply)}
    (waited : gaveUp patience
      ((kind source).turns options points request refresh patience) = false)
    (alsoWaited : gaveUp wait ((kind source).turns others points request refresh wait) = false)
    (ended : order.Perm
      ((kind source).replies ((kind source).turns options points request refresh patience))) :
    (∃ entries listed, (Tally.ofReplies order).answer = .ok entries ∧
      ((kind source).gather others points request refresh wait).answer = .ok listed ∧
      entries.Perm listed) ∨
    ∃ failures told,
      (Tally.ofReplies order).answer = .error (.unavailable ("; ".intercalate failures)) ∧
      ((kind source).gather others points request refresh wait).answer =
        .error (.unavailable ("; ".intercalate told)) ∧
      failures.Perm (failureTexts (points.filterMap ((kind source).reply? request refresh))) ∧
      told.Perm (failureTexts (points.filterMap ((kind source).reply? request refresh))) := by
  rw [answer_gather _ ((unbroken source).gather _ _ _ _ _) alsoWaited]
  exact answers_agree (ended.trans (replies_perm (patient source) waited))
    (replies_perm (patient source) alsoWaited)

/-- A source with two repositories that answer and one that does not. -/
def halfDeadSource : Source :=
  ((Source.empty.publish "o/old" [⟨"v1", 10, 20, [⟨"a.zip", .ofNat 5, "https://a", 10, 20⟩]⟩]).publish
    "o/new" [⟨"v2", 5, 30, [⟨"b.zip", .ofNat 7, "https://b", 5, 30⟩]⟩]).fail "o/dead" true

/-- Three points beneath one directory; two of them show the same directory there. -/
def neighbours : List RepositoryView :=
  [.new (.ofText "/gh/x/old") "o/old" .allVersions false, .new (.ofText "/gh/dead") "o/dead" .latest true,
    .new (.ofText "/gh/x/new") "o/new" .latest true]

theorem atOnce_agrees_inTurn_neighbours :
    let visits := (kind halfDeadSource).turns (.atOnce 2) neighbours (.ofText "/gh") true .unlimited
    let order := ((kind halfDeadSource).replies visits).reverse
    gaveUp .unlimited visits = false ∧
      gaveUp .unlimited
        ((kind halfDeadSource).turns .inTurn neighbours (.ofText "/gh") true .unlimited) = false ∧
      order.Perm ((kind halfDeadSource).replies visits) ∧
      ((∃ entries listed, (Tally.ofReplies order).answer = .ok entries ∧
        ((kind halfDeadSource).gather .inTurn neighbours (.ofText "/gh") true .unlimited).answer =
          .ok listed ∧ entries.Perm listed) ∨
      ∃ failures told,
        (Tally.ofReplies order).answer = .error (.unavailable ("; ".intercalate failures)) ∧
        ((kind halfDeadSource).gather .inTurn neighbours (.ofText "/gh") true .unlimited).answer =
          .error (.unavailable ("; ".intercalate told)) ∧
        failures.Perm (failureTexts
          (neighbours.filterMap ((kind halfDeadSource).reply? (.ofText "/gh") true))) ∧
        told.Perm (failureTexts
          (neighbours.filterMap ((kind halfDeadSource).reply? (.ofText "/gh") true)))) :=
  ⟨rfl, rfl, List.reverse_perm _,
    atOnce_agrees_inTurn halfDeadSource neighbours (.ofText "/gh") true (.atOnce 2) .inTurn rfl rfl
      (List.reverse_perm _)⟩

end RepositoryView

end StorageGateway
