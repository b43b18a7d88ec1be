import StorageGateway.Proofs.Release.Fetches
import StorageGateway.Proofs.Release.InTime

/-!
# Asking again

Who asks repositories once more, without a refresh and while their source stays as it is, is shown all
that was shown before: what was answered is kept now, and what was refused is refused again. More than
before is shown only after a refresh that a source refused, where older data is still kept. Main
statement: `list_again`.
-/

namespace StorageGateway

/-! ## A point -/

/-- A later reply shows all that a reply showed, before anything else. -/
def Reply.ExtendedBy (reply later : Reply) : Prop :=
  ∀ es, reply = .entries es → ∃ more, later = .entries (es ++ more)

namespace Reply

theorem extendedBy_refl (reply : Reply) : reply.ExtendedBy reply :=
  fun es shown => ⟨[], by rw [List.append_nil, shown]⟩

theorem extendedBy_append (es more : List Entry) :
    (Reply.entries es).ExtendedBy (.entries (es ++ more)) := by
  rintro _ ⟨⟩
  exact ⟨more, rfl⟩

end Reply

/-- Data that was come by is come by again. -/
theorem Attempt.again {k k' : Kept} {refresh : Bool} {d : DataSet} {mode : ViewMode}
    {told result result' : Except Stop d.Content} {calls calls' : List Fetch}
    (first : Attempt k refresh d told calls result) (second : Attempt k' false d told calls' result')
    (kept : k'.data? d = (calls.foldl (Fetch.keptAfter mode) k).data? d) :
    (∀ data, result = .ok data → result' = .ok data) ∧ (refresh = false → result' = result) := by
  have known {data : d.Content} (there : k'.data? d = some data) : result' = .ok data := by
    cases second with
    | known also => rw [Option.some.inj (there.symm.trans also)]
    | called needed => exact absurd (there.symm.trans (needed.resolve_left nofun)) nofun
  cases first with
  | @known data there content =>
    have same := known (kept.trans there)
    exact ⟨fun other had => same.trans had, fun _ => same⟩
  | called needed =>
    cases told with
    | ok data =>
      have same := known (kept.trans (k.data?_keep_self mode data))
      exact ⟨fun other had => same.trans had, fun _ => same⟩
    | error stop =>
      refine ⟨nofun, fun content => ?_⟩
      have missing : k'.data? d = none := kept.trans (needed.resolve_left (by simp [content]))
      cases second with
      | known also => exact absurd (missing.symm.trans also) nofun
      | called => rfl

namespace RepositoryView

variable {p : RepositoryView} {source : Source} {request : Path} {bearing : Bearing} {refresh : Bool}

/-- A point that has answered answers with the same again, and maybe with more after a refresh; without
a refresh, it replies as it did. -/
theorem Served.again {calls calls' : List Fetch} {reply reply' : Reply}
    (first : p.Served source request bearing refresh .unlimited calls reply)
    (second : ({ p with kept := calls.foldl (Fetch.keptAfter p.mode) p.kept } : RepositoryView).Served
      source request bearing false .unlimited calls' reply') :
    reply.ExtendedBy reply' ∧ (refresh = false → reply' = reply) := by
  cases first with
  | idle unneeded =>
    obtain rfl := second.of_idle unneeded
    exact ⟨Reply.extendedBy_refl _, fun _ => rfl⟩
  | stopped needed releases =>
    exact ⟨nofun, fun content =>
      second.of_failed needed fun again => (releases.again again rfl).2 content⟩
  | alone needed unwanted releases =>
    rcases second.of_had needed fun again => (releases.again again rfl).1 _ rfl with
      ⟨-, rfl⟩ | ⟨wanted, -⟩
    · exact ⟨Reply.extendedBy_refl _, fun _ => rfl⟩
    · exact absurd wanted unwanted
  | @beside wanted main content releases _ passed more result extras _ =>
    obtain rfl : _ = Patience.unlimited := passed.elim id id
    have needed := p.needsReleases_of_wantsExtras wanted
    -- what is kept of the releases is settled by the first calls, and of the other files by the rest
    have first : ((main ++ more).foldl (Fetch.keptAfter p.mode) p.kept).data? p.mode.dataSet =
        (main.foldl (Fetch.keptAfter p.mode) p.kept).data? p.mode.dataSet := by
      rw [List.foldl_append]
      exact extras.data?_foldl_ne p.mode.dataSet_ne_extras.symm p.mode _
    have untouched : p.kept.data? .extras =
        (main.foldl (Fetch.keptAfter p.mode) p.kept).data? .extras :=
      (releases.data?_foldl_ne p.mode.dataSet_ne_extras p.mode _).symm
    have rest := extras.of_data?_eq untouched
    rcases second.of_had needed fun again => (releases.again again first).1 _ rfl with
      ⟨unwanted, -⟩ | ⟨-, calls', result', extras', rfl⟩
    · exact absurd wanted unwanted
    · have again := rest.again extras' (by rw [List.foldl_append])
      cases result with
      | ok files =>
        obtain rfl := again.1 files rfl
        exact ⟨Reply.extendedBy_refl _, fun _ => rfl⟩
      | error stop =>
        refine ⟨?_, fun content => ?_⟩
        · have shown : p.extrasShown (Except.error stop).toOption = [] := rfl
          rw [shown, List.append_nil]
          exact Reply.extendedBy_append _ _
        · obtain rfl := again.2 content
          rfl
  | interrupted _ _ passed extras =>
    obtain rfl : _ = Patience.unlimited := passed.elim id id
    exact absurd rfl extras.not_interrupted

theorem visit_again (p : RepositoryView) (source : Source) (request : Path) (bearing : Bearing)
    (refresh : Bool) :
    let first := p.visit source request bearing refresh .unlimited
    let second := first.point.visit source request bearing false .unlimited
    first.reply.ExtendedBy second.reply ∧ (refresh = false → second.reply = first.reply) := by
  have first := p.visit_served source request bearing refresh .unlimited
  dsimp only
  rw [point_visit]
  exact first.again (visit_served _ source request bearing false .unlimited)

/-! ## Files -/

theorem locator_of_mem_assetEntries {dir : Path} {assets : List Asset} {e : Entry}
    (shown : e ∈ assetEntries dir assets) : ∃ url, e.locator = some url := by
  obtain ⟨a, -, rfl⟩ := List.mem_map.mp shown
  exact ⟨a.url, rfl⟩

/-- Releases are shown as directories and as files with their content somewhere. -/
theorem locator_of_mem_shown {p : RepositoryView} {request : Path} {bearing : Bearing}
    {releases : p.mode.dataSet.Content} {e : Entry}
    (among : e ∈ p.shown request bearing p.mode releases) (file : e.isDirectory = false) :
    ∃ url, e.locator = some url := by
  obtain ⟨point, repo, mode, showExtras, kept⟩ := p
  have notDirectory {dir : Path} {name : String} {size : Size} {created modified : Time}
      (same : e = .directory dir name size created modified) : ∃ url, e.locator = some url := by
    subst same
    contradiction
  cases mode with
  | latest =>
    cases bearing with
    | exact => exact locator_of_mem_assetEntries among
    | ancestor child => exact notDirectory (List.mem_singleton.mp among)
    | descendant selector rest => exact absurd among List.not_mem_nil
    | unrelated => exact absurd among List.not_mem_nil
  | allVersions =>
    cases bearing with
    | exact =>
      obtain ⟨r, -, same⟩ := List.mem_map.mp among
      exact notDirectory same.symm
    | ancestor child =>
      cases releases with
      | nil => exact absurd among List.not_mem_nil
      | cons newest older => exact notDirectory (List.mem_singleton.mp among)
    | descendant selector rest =>
      change e ∈ ite _ _ _ at among
      split at among
      · unfold filesOfTag at among
        split at among
        · exact locator_of_mem_assetEntries among
        · contradiction
      · contradiction
    | unrelated => exact absurd among List.not_mem_nil

theorem Served.locator {patience : Patience} {calls : List Fetch} {es : List Entry} {e : Entry}
    (served : p.Served source request bearing refresh patience calls (.entries es)) (among : e ∈ es)
    (file : e.isDirectory = false) : ∃ url, e.locator = some url := by
  cases served with
  | idle => contradiction
  | alone => exact locator_of_mem_shown among file
  | @beside _ _ _ _ _ _ _ outcome =>
    rcases List.mem_append.mp among with shown | beside
    · exact locator_of_mem_shown shown file
    · cases outcome with
      | ok extras => exact locator_of_mem_assetEntries beside
      | error => contradiction

/-! ## Many points -/

open PointKind

theorem label_settled (source : Source) (request : Path) (refresh : Bool) (p : RepositoryView) :
    (kind source).label ((kind source).settled request refresh p) = (kind source).label p := by
  obtain ⟨bearing, bears⟩ : ∃ bearing,
      Bearing.between (Path.ofText ((kind source).label p)) request = bearing := ⟨_, rfl⟩
  by_cases unrelated : bearing = .unrelated
  · rw [settled, bears, unrelated]
  · rw [settled_of_related bears unrelated]
    exact (patient source).label p request bearing refresh .unlimited

theorem reply?_settled {source : Source} {request : Path} {refresh : Bool} {p : RepositoryView}
    {bearing : Bearing} (bears : Bearing.between (Path.ofText ((kind source).label p)) request = bearing)
    (related : bearing ≠ .unrelated) :
    (kind source).reply? request false ((kind source).settled request refresh p) =
      some ((kind source).label p, ((p.visit source request bearing refresh .unlimited).point.visit
        source request bearing false .unlimited).reply) := by
  have label := label_settled source request refresh p
  rw [reply?_of_related (by rw [label]; exact bears) related, label, settled_of_related bears related]
  rfl

/-- What a point has replied, it replies again, and maybe it shows more after a refresh. -/
theorem reply?_again {source : Source} {request : Path} {refresh : Bool} {p : RepositoryView}
    {label : String} {reply : Reply}
    (replied : (kind source).reply? request refresh p = some (label, reply)) :
    ∃ later, (kind source).reply? request false ((kind source).settled request refresh p) =
      some (label, later) ∧ reply.ExtendedBy later := by
  obtain ⟨bearing, bears, related, same⟩ := of_reply? replied
  cases same
  exact ⟨_, reply?_settled bears related, (p.visit_again source request bearing refresh).1⟩

/-- Without a refresh, a point replies as it did. -/
theorem reply?_same (source : Source) (request : Path) (p : RepositoryView) :
    (kind source).reply? request false ((kind source).settled request false p) =
      (kind source).reply? request false p := by
  obtain ⟨bearing, bears⟩ : ∃ bearing,
      Bearing.between (Path.ofText ((kind source).label p)) request = bearing := ⟨_, rfl⟩
  by_cases unrelated : bearing = .unrelated
  · rw [settled, bears, unrelated]
  · rw [reply?_settled bears unrelated, reply?_of_related bears unrelated,
      (p.visit_again source request bearing false).2 rfl]
    rfl

theorem replies_same (source : Source) (request : Path) (points : List RepositoryView) :
    (points.map ((kind source).settled request false)).filterMap ((kind source).reply? request false) =
      points.filterMap ((kind source).reply? request false) := by
  induction points with
  | nil => rfl
  | cons p rest ih => rw [List.map_cons, List.filterMap_cons, List.filterMap_cons, reply?_same, ih]

end RepositoryView

/-- The files among some entries. -/
def filesOf (es : List Entry) : List Entry := es.filter fun e => !e.isDirectory

theorem mem_filesOf {es : List Entry} {e : Entry} :
    e ∈ filesOf es ↔ e ∈ es ∧ e.isDirectory = false := by
  rw [filesOf, List.mem_filter, Bool.not_eq_true']

namespace Releases

open PointKind RepositoryView

variable {r : Releases} {source : Source} {request : Path} {refresh : Bool} {patience : Patience}
  {own : List Entry} {e : Entry}

/-- No repository breaks off a listing. -/
theorem whole_list (r : Releases) : (r.list source request refresh patience).brokeOff = false :=
  (unbroken source).gather _ _ _ _ _

/-- What is listed for a caller who waited comes to the replies of the points. -/
theorem answer_of_waited
    (waited : gaveUp patience
      ((kind source).turns r.settings.options r.points request refresh patience) = false) :
    ∃ replies, replies.Perm (r.points.filterMap ((kind source).reply? request refresh)) ∧
      (r.list source request refresh patience).answer = (Tally.ofReplies replies).answer ∧
      (r.list source request refresh patience).points =
        r.points.map ((kind source).settled request refresh) :=
  ⟨_, replies_perm (patient source) waited, answer_gather _ (whole_list r) waited,
    (congrArg Gathering.points (gather_eq _ (whole_list r))).trans
      (points_schedule (patient source) r.points _ waited)⟩

/-- Where points are asked in turn, a listing has their replies in the order of the points. -/
theorem answer_inTurn
    (inTurn : r.settings.options.asksAtOnce ((kind source).related r.points request) = false) :
    (r.list source request refresh .unlimited).answer =
      (Tally.ofReplies ((kind source).finalReplies r.points request refresh)).answer := by
  have waited : gaveUp .unlimited
      ((kind source).turns r.settings.options r.points request refresh .unlimited) = false :=
    (kind source).gaveUp_unlimited (not_interrupted source) request refresh _ _
  exact (answer_gather _ (whole_list r) waited).trans
    (congrArg (fun replies => (Tally.ofReplies replies).answer)
      (replies_inTurn (patient source) inTurn waited))

theorem waited_of_list_ok (listed : (r.list source request refresh patience).answer = .ok own) :
    gaveUp patience ((kind source).turns r.settings.options r.points request refresh patience) =
      false :=
  waited_of_answer _ (whole_list r) (fun cancelled => absurd (listed.symm.trans cancelled) nofun)

theorem filesOf_of_answer {replies : List (String × Reply)}
    (answered : (Tally.ofReplies replies).answer = .ok own) : filesOf own = filesOf (shownBy replies) := by
  rw [Tally.eq_of_answer answered]
  exact Listing.indexed_empty.files_extend (shownBy replies)

/-- A file that was listed is listed again, by the storage as the listing has left it; without a
refresh no other files are. -/
theorem list_again (listed : (r.list source request refresh patience).answer = .ok own)
    (among : e ∈ own) (file : e.isDirectory = false) :
    ∃ again, (({ r with points := (r.list source request refresh patience).points } : Releases).list
        source request false .unlimited).answer = .ok again ∧ e ∈ again ∧
      (refresh = false → (filesOf own).Perm (filesOf again)) := by
  obtain ⟨replies, perm, answer, points⟩ := answer_of_waited (waited_of_list_ok listed)
  rw [answer] at listed
  rw [points]
  obtain ⟨later, alike, answerLater, -⟩ := answer_of_waited
    (r := { r with points := r.points.map ((kind source).settled request refresh) })
    ((kind source).gaveUp_unlimited (not_interrupted source) request false _ _)
  rw [answerLater]
  -- the point that shows the file answers again, and shows it again
  have shown : e ∈ filesOf (shownBy replies) :=
    filesOf_of_answer listed ▸ mem_filesOf.mpr ⟨among, file⟩
  obtain ⟨⟨label, reply⟩, replied, here⟩ := List.mem_flatMap.mp (mem_filesOf.mp shown).1
  obtain ⟨p, asked, replies⟩ := List.mem_filterMap.mp (perm.mem_iff.mp replied)
  obtain ⟨_, repliesAgain, extended⟩ := reply?_again replies
  obtain ⟨more, rfl⟩ := extended _ (Reply.eq_entries_of_mem_shown here)
  have repliedAgain : (label, Reply.entries (reply.shown ++ more)) ∈ later :=
    alike.mem_iff.mpr (List.mem_filterMap.mpr ⟨_, List.mem_map_of_mem asked, repliesAgain⟩)
  have answers : later.countP (fun r => r.2.isAnswer) ≠ 0 :=
    Nat.ne_of_gt (List.countP_pos_iff.mpr ⟨_, repliedAgain, rfl⟩)
  have listedAgain : (Tally.ofReplies later).answer =
      .ok (Listing.empty.extend (shownBy later)).entries := by
    rw [Tally.answer_ofReplies, if_neg fun failed => answers failed.1]
  refine ⟨_, listedAgain, ?_, fun content => ?_⟩
  · have present : e ∈ filesOf (shownBy later) := mem_filesOf.mpr
      ⟨List.mem_flatMap.mpr ⟨_, repliedAgain, List.mem_append_left more here⟩, file⟩
    rw [← filesOf_of_answer listedAgain] at present
    exact (mem_filesOf.mp present).1
  · subst content
    have same := alike
    rw [replies_same] at same
    rw [filesOf_of_answer listed, filesOf_of_answer listedAgain]
    exact ((perm.trans same.symm).flatMap_right _).filter _

/-- A file of a repository has its content somewhere. -/
theorem locator_of_listed (listed : (r.list source request refresh patience).answer = .ok own)
    (among : e ∈ own) (file : e.isDirectory = false) : ∃ url, e.locator = some url := by
  obtain ⟨replies, perm, answer, -⟩ := answer_of_waited (waited_of_list_ok listed)
  rw [answer] at listed
  have shown : e ∈ filesOf (shownBy replies) :=
    filesOf_of_answer listed ▸ mem_filesOf.mpr ⟨among, file⟩
  obtain ⟨⟨label, reply⟩, replied, here⟩ := List.mem_flatMap.mp (mem_filesOf.mp shown).1
  obtain ⟨p, -, replies⟩ := List.mem_filterMap.mp (perm.mem_iff.mp replied)
  obtain ⟨bearing, -, -, same⟩ := of_reply? replies
  cases same
  have shows : (p.visit source request bearing refresh .unlimited).reply = _ :=
    Reply.eq_entries_of_mem_shown here
  exact (shows ▸ p.visit_served source request bearing refresh .unlimited).locator here file

end Releases

end StorageGateway
