import StorageGateway.Proofs.Release.Visits

/-!
# The calls of a visit

A visit comes by its data one set after the other: what is kept is at hand, unless a refresh is asked
for, and everything else takes a call. Which calls there are settles what the point keeps afterwards
and what the visit replies. Main statements: `kept_visit` and `visit_served`.
-/

namespace StorageGateway

/-! ## What is kept -/

namespace ViewMode

/-- The releases that the mode shows. -/
def dataSet : ViewMode → DataSet
  | latest => .newest
  | allVersions => .releases

theorem dataSet_ne_extras (mode : ViewMode) : mode.dataSet ≠ .extras := by cases mode <;> decide

end ViewMode

namespace Kept

theorem data?_keep_self (k : Kept) (mode : ViewMode) {d : DataSet} (data : d.Content) :
    (k.keep mode d data).data? d = some data := by
  cases d <;> rfl

theorem data?_keep_ne (k : Kept) (mode : ViewMode) {d other : DataSet} (data : d.Content)
    (ne : other ≠ d) : (k.keep mode d data).data? other = k.data? other := by
  cases d <;> cases other <;> first | contradiction | (cases mode <;> rfl)

end Kept

/-- What is told of an early end. -/
def Stop.error : Stop → StorageError
  | failed e => e
  | interrupted => .cancelled

/-- What a visit replies. -/
def Reply.ofOutcome : Except Stop (List Entry) → Reply
  | .ok es => .entries es
  | .error stop => .failed stop.error

namespace Fetch

/-- The source answered while the caller was still there. -/
def isAnswered (f : Fetch) : Bool := f.outcome.isOk

/-- What a point keeps after a call. -/
def keptAfter (mode : ViewMode) (k : Kept) (f : Fetch) : Kept :=
  match f.outcome with
  | .ok data => k.keep mode f.dataSet data
  | .error _ => k

theorem keptAfter_of_unanswered {f : Fetch} (unanswered : f.isAnswered = false) (mode : ViewMode)
    (k : Kept) : f.keptAfter mode k = k := by
  obtain ⟨d, _ | data⟩ := f
  · rfl
  · contradiction

theorem data?_keptAfter_ne {f : Fetch} {d : DataSet} (ne : d ≠ f.dataSet) (mode : ViewMode)
    (k : Kept) : (f.keptAfter mode k).data? d = k.data? d := by
  obtain ⟨_, _ | data⟩ := f
  · rfl
  · exact k.data?_keep_ne mode data ne

/-- Data stays as it was if no call for it was answered. -/
theorem data?_foldl_keptAfter {calls : List Fetch} {d : DataSet}
    (unanswered : ∀ f ∈ calls, f.dataSet = d → f.isAnswered = false) (mode : ViewMode) (k : Kept) :
    (calls.foldl (keptAfter mode) k).data? d = k.data? d := by
  induction calls generalizing k with
  | nil => rfl
  | cons f rest ih =>
    obtain ⟨here, further⟩ := List.forall_mem_cons.mp unanswered
    rw [List.foldl_cons, ih further]
    by_cases same : f.dataSet = d
    · rw [keptAfter_of_unanswered (here same)]
    · exact data?_keptAfter_ne (Ne.symm same) mode k

end Fetch

/-- How data is come by: it is kept and not asked for anew, or there is a call, which is told
something. The list is that of the calls. -/
inductive Attempt (k : Kept) (refresh : Bool) (d : DataSet) (told : Except Stop d.Content) :
    List Fetch → Except Stop d.Content → Prop
  | known {data : d.Content} (kept : k.data? d = some data) (content : refresh = false) :
    Attempt k refresh d told [] (.ok data)
  | called (needed : refresh = true ∨ k.data? d = none) : Attempt k refresh d told [⟨d, told⟩] told

namespace Attempt

variable {k : Kept} {refresh : Bool} {d : DataSet} {told result : Except Stop d.Content}
  {fetches : List Fetch}

theorem dataSet_eq (attempt : Attempt k refresh d told fetches result) {f : Fetch}
    (called : f ∈ fetches) : f.dataSet = d := by
  cases attempt with
  | known => contradiction
  | called => rw [List.mem_singleton.mp called]

/-- There are no calls for other data. -/
theorem apart (attempt : Attempt k refresh d told fetches result) {other : DataSet} (ne : d ≠ other) :
    ∀ f ∈ fetches, f.dataSet ≠ other :=
  fun _ called same => ne ((attempt.dataSet_eq called).symm.trans same)

/-- What is kept of other data stays. -/
theorem data?_foldl_ne (attempt : Attempt k refresh d told fetches result) {other : DataSet}
    (ne : d ≠ other) (mode : ViewMode) (k' : Kept) :
    (fetches.foldl (Fetch.keptAfter mode) k').data? other = k'.data? other :=
  Fetch.data?_foldl_keptAfter (fun f called same => absurd same (attempt.apart ne f called)) mode k'

/-- There is a call just if the data has to be fetched. -/
theorem called_iff (attempt : Attempt k refresh d told fetches result) (other : DataSet) :
    other ∈ fetches.map Fetch.dataSet ↔ other = d ∧ (refresh = true ∨ k.data? other = none) := by
  cases attempt with
  | known kept content =>
    refine iff_of_false List.not_mem_nil ?_
    rintro ⟨rfl, needed⟩
    simp [kept, content] at needed
  | called needed =>
    refine List.mem_singleton.trans ⟨?_, And.left⟩
    rintro rfl
    exact ⟨rfl, needed⟩

/-- Data is at hand just if every call for it was answered. -/
theorem answered_iff (attempt : Attempt k refresh d told fetches result) :
    (∀ f ∈ fetches, f.isAnswered = true) ↔ result.isOk = true := by
  cases attempt with
  | known => simp [Except.isOk, Except.toBool]
  | called => simp [Fetch.isAnswered]

/-- How data is come by depends on nothing else that is kept. -/
theorem of_data?_eq (attempt : Attempt k refresh d told fetches result) {other : Kept}
    (same : k.data? d = other.data? d) : Attempt other refresh d told fetches result := by
  cases attempt with
  | known kept content => exact .known (same ▸ kept) content
  | called needed => exact .called (same ▸ needed)

/-- Whoever waits for ever does not give up on a call. -/
theorem not_interrupted {source : Source} {repo : String}
    (attempt : Attempt k refresh d (d.outcome source repo .unlimited) fetches result) :
    result ≠ .error .interrupted := by
  cases attempt with
  | known => exact nofun
  | called =>
    rw [Visiting.outcome_unlimited]
    cases d.answer source repo <;> exact nofun

theorem nodup (attempt : Attempt k refresh d told fetches result) :
    (fetches.map Fetch.dataSet).Nodup := by
  cases attempt with
  | known => exact List.nodup_nil
  | called => simp

end Attempt

namespace RepositoryView

open Visiting

variable (p : RepositoryView) (source : Source)

/-! ## One set of data -/

/-- A course goes on with some calls. -/
structure GoesOn (calls : List Fetch) (c next : Course) : Prop where
  fetches : next.fetches = c.fetches ++ calls
  kept : next.kept = calls.foldl (Fetch.keptAfter p.mode) c.kept
  patience : next.patience = c.patience ∨ next.patience = c.patience.after source.delay

theorem fetchAnew_attempt {refresh : Bool} {d : DataSet} {c : Course}
    (needed : refresh = true ∨ c.kept.data? d = none) :
    ∃ fetches, Attempt c.kept refresh d (d.outcome source p.repo c.patience) fetches
        (outcome (p.fetchAnew source d) c) ∧
      p.GoesOn source fetches c (after (p.fetchAnew source d) c) := by
  have run := p.fetchAnew_run source d c
  rw [call_run] at run
  refine ⟨[⟨d, d.outcome source p.repo c.patience⟩], ?_⟩
  cases told : d.outcome source p.repo c.patience with
  | ok data =>
    rw [told] at run
    rw [outcome_of_ok run, after_of_ok run]
    exact ⟨.called needed, by rw [← told]; rfl, rfl, .inr rfl⟩
  | error stop =>
    rw [told] at run
    rw [outcome_of_error run, after_of_error run]
    exact ⟨.called needed, by rw [← told]; rfl, rfl, .inr rfl⟩

theorem fetch_attempt (refresh : Bool) (d : DataSet) (c : Course) :
    ∃ fetches, Attempt c.kept refresh d (d.outcome source p.repo c.patience) fetches
        (outcome (p.fetch source refresh d) c) ∧
      p.GoesOn source fetches c (after (p.fetch source refresh d) c) := by
  unfold outcome after
  rw [p.fetch_run source refresh d c]
  cases kept : c.kept.data? d with
  | none => exact p.fetchAnew_attempt source (.inr kept)
  | some data =>
    cases refresh with
    | true => exact p.fetchAnew_attempt source (.inl rfl)
    | false => exact ⟨[], .known kept rfl, (List.append_nil _).symm, rfl, .inl rfl⟩

/-! ## A whole visit -/

/-- The course of a visit before its first call. -/
def setOut (patience : Patience) : Course := ⟨p.kept, [], 0, patience⟩

/-- The calls of a visit, the first one first. -/
def fetches (request : Path) (bearing : Bearing) (refresh : Bool) (patience : Patience) : List Fetch :=
  (after (p.entries source request bearing refresh) (p.setOut patience)).fetches

theorem visit_eq (request : Path) (bearing : Bearing) (refresh : Bool) (patience : Patience) :
    let entries := p.entries source request bearing refresh
    (p.visit source request bearing refresh patience).reply =
        .ofOutcome (outcome entries (p.setOut patience)) ∧
      (p.visit source request bearing refresh patience).point =
        { p with kept := (after entries (p.setOut patience)).kept } ∧
      (p.visit source request bearing refresh patience).calls =
        (p.fetches source request bearing refresh patience).length := by
  unfold visit fetches outcome after
  dsimp only [EStateM.run, setOut]
  cases p.entries source request bearing refresh ⟨p.kept, [], 0, patience⟩ with
  | ok es c => exact ⟨rfl, rfl, rfl⟩
  | error stop c => cases stop <;> exact ⟨rfl, rfl, rfl⟩

/-- What a point keeps is settled by the calls, at every moment of a visit. -/
theorem composes_kept (k : Kept) :
    Composes p source fun x => Keeps (fun c => c.kept = c.fetches.foldl (Fetch.keptAfter p.mode) k) x where
  pure := Keeps.pure
  bind := Keeps.bind
  rescue first failed interrupted := first.rescue fun stop => by
    cases stop with
    | failed e => exact failed e
    | interrupted => exact interrupted ▸ Keeps.throw _
  fetch refresh d := fun c kept => by
    obtain ⟨fetches, -, onward⟩ := p.fetch_attempt source refresh d c
    rw [onward.kept, onward.fetches, List.foldl_append, kept]

/-- After a visit, a point keeps what its calls brought. -/
theorem kept_visit (request : Path) (bearing : Bearing) (refresh : Bool) (patience : Patience) :
    (p.visit source request bearing refresh patience).point.kept =
      (p.fetches source request bearing refresh patience).foldl (Fetch.keptAfter p.mode) p.kept := by
  rw [(p.visit_eq source request bearing refresh patience).2.1]
  exact p.judged_entries source (p.composes_kept source p.kept) request bearing refresh _ rfl

/-- After a visit, a point is the one it was but for what it keeps. -/
theorem point_visit (request : Path) (bearing : Bearing) (refresh : Bool) (patience : Patience) :
    let calls := p.fetches source request bearing refresh patience
    (p.visit source request bearing refresh patience).point =
      { p with kept := calls.foldl (Fetch.keptAfter p.mode) p.kept } := by
  dsimp only
  rw [← p.kept_visit, (p.visit_eq source request bearing refresh patience).2.1]

/-- Whether there is anything to show without releases being known. -/
def needsReleases : Bearing → Bool
  | .exact => true
  | .ancestor _ => true
  | .descendant _ rest => p.mode = .allVersions ∧ rest = ""
  | .unrelated => false

/-- Whether the repository's own files are to be shown. -/
def wantsExtras (bearing : Bearing) : Prop := bearing = .exact ∧ p.showExtras = true

theorem needsReleases_of_wantsExtras {bearing : Bearing} (wanted : p.wantsExtras bearing) :
    p.needsReleases bearing = true := by
  rw [wanted.1]
  rfl

/-- The assets of the release with a tag, as files. -/
def filesOfTag (tag : String) (releases : List Release) : List Entry :=
  match releases.find? (·.tag == tag) with
  | some r => assetEntries (p.point.join tag) r.assets
  | none => []

/-- The entries that show releases at a path, apart from the repository's own files. -/
def shown (request : Path) (bearing : Bearing) : (mode : ViewMode) → mode.dataSet.Content → List Entry
  | .latest, release =>
    match bearing with
    | .exact => assetEntries p.point (Release.assets release)
    | .ancestor child =>
      [.directory request child (Release.size release) (Release.created release)
        (Release.published release)]
    | _ => []
  | .allVersions, releases =>
    match bearing with
    | .exact =>
      List.map (fun r : Release => .directory p.point r.tag r.size r.created r.published) releases
    | .ancestor child =>
      match (releases : List Release) with
      | [] => []
      | newest :: older =>
        [.directory request child (Release.totalSize (newest :: older)) newest.created
          newest.published]
    | .descendant selector rest => if rest = "" then p.filesOfTag selector releases else []
    | .unrelated => []

/-- Where no releases are needed, none are shown. -/
theorem shown_of_unneeded {p : RepositoryView} {bearing : Bearing}
    (unneeded : p.needsReleases bearing = false) (request : Path)
    (releases : p.mode.dataSet.Content) : p.shown request bearing p.mode releases = [] := by
  obtain ⟨point, repo, mode, showExtras, kept⟩ := p
  cases bearing with
  | exact => contradiction
  | ancestor child => contradiction
  | descendant selector rest =>
    cases mode with
    | latest => rfl
    | allVersions =>
      have deeper : rest ≠ "" := by simpa [needsReleases] using unneeded
      exact if_neg deeper
  | unrelated => cases mode <;> rfl

/-- The entries that show the repository's own files, if they could be had. -/
def extrasShown : Option DataSet.extras.Content → List Entry
  | some extras => assetEntries p.point extras
  | none => []

/-- Whichever releases a point shows, it shows them in one way. -/
theorem entries_eq (request : Path) (bearing : Bearing) (refresh : Bool) :
    p.entries source request bearing refresh =
      if p.needsReleases bearing then
        p.fetch source refresh p.mode.dataSet >>= fun releases =>
          if bearing = .exact then
            p.besideExtras source refresh (p.shown request bearing p.mode releases)
          else pure (p.shown request bearing p.mode releases)
      else pure [] := by
  obtain ⟨point, repo, mode, showExtras, kept⟩ := p
  cases bearing with
  | exact =>
    rw [entries, entriesHere_eq]
    cases mode <;> rfl
  | ancestor child =>
    cases mode with
    | latest => rfl
    | allVersions => exact bind_congr fun releases => by cases releases <;> rfl
  | descendant selector rest =>
    rw [entries, entriesOfTag]
    cases mode with
    | latest => rfl
    | allVersions =>
      by_cases deeper : rest = ""
      · subst deeper
        refine bind_congr fun (releases : List Release) => ?_
        rw [if_neg Bearing.noConfusion]
        change _ = pure (filesOfTag _ selector releases)
        rw [filesOfTag]
        cases releases.find? (·.tag == selector) <;> rfl
      · rw [if_pos (.inr deeper), needsReleases, if_neg]
        simp [deeper]
  | unrelated => rfl

theorem besideExtras_run {c : Course} (refresh : Bool) (entries : List Entry)
    (wanted : p.showExtras = true) :
    p.besideExtras source refresh entries c =
      match p.fetch source refresh .extras c with
      | .ok extras next => .ok (entries ++ assetEntries p.point extras) next
      | .error (.failed _) next => .ok entries next
      | .error .interrupted next => .error .interrupted next := by
  rw [besideExtras, if_pos wanted, tryCatch_run]
  have asked : p.extras source refresh c = p.fetch source refresh .extras c := rfl
  cases run : p.fetch source refresh .extras c with
  | ok extras next =>
    rw [bind_of_ok (asked.trans run)]
    rfl
  | error stop next =>
    rw [bind_of_error (asked.trans run)]
    cases stop <;> rfl

/-- What a visit does and replies. -/
inductive Served (request : Path) (bearing : Bearing) (refresh : Bool) (patience : Patience) :
    List Fetch → Reply → Prop
  /-- There is nothing to show. -/
  | idle (unneeded : p.needsReleases bearing = false) :
    Served request bearing refresh patience [] (.entries [])
  /-- Without the releases nothing is shown. -/
  | stopped (needed : p.needsReleases bearing = true) {calls : List Fetch} {stop : Stop}
    (releases : Attempt p.kept refresh p.mode.dataSet
      (p.mode.dataSet.outcome source p.repo patience) calls (.error stop)) :
    Served request bearing refresh patience calls (.failed stop.error)
  | alone (needed : p.needsReleases bearing = true) (unwanted : ¬ p.wantsExtras bearing)
    {calls : List Fetch} {content : p.mode.dataSet.Content}
    (releases : Attempt p.kept refresh p.mode.dataSet
      (p.mode.dataSet.outcome source p.repo patience) calls (.ok content)) :
    Served request bearing refresh patience calls
      (.entries (p.shown request bearing p.mode content))
  /-- The repository's own files are shown beside, unless there is a failure. -/
  | beside (wanted : p.wantsExtras bearing) {calls : List Fetch} {content : p.mode.dataSet.Content}
    (releases : Attempt p.kept refresh p.mode.dataSet
      (p.mode.dataSet.outcome source p.repo patience) calls (.ok content))
    {left : Patience} (passed : left = patience ∨ left = patience.after source.delay)
    {more : List Fetch} {outcome : Except Stop DataSet.extras.Content}
    (extras : Attempt p.kept refresh .extras (DataSet.extras.outcome source p.repo left) more outcome)
    (waited : outcome ≠ .error .interrupted) :
    Served request bearing refresh patience (calls ++ more)
      (.entries (p.shown request bearing p.mode content ++ p.extrasShown outcome.toOption))
  /-- The caller gives up on the repository's own files. -/
  | interrupted (wanted : p.wantsExtras bearing) {calls : List Fetch}
    {content : p.mode.dataSet.Content}
    (releases : Attempt p.kept refresh p.mode.dataSet
      (p.mode.dataSet.outcome source p.repo patience) calls (.ok content))
    {left : Patience} (passed : left = patience ∨ left = patience.after source.delay)
    {more : List Fetch}
    (extras : Attempt p.kept refresh .extras (DataSet.extras.outcome source p.repo left) more
      (.error .interrupted)) :
    Served request bearing refresh patience (calls ++ more) (.failed .cancelled)

/-- Once the releases are there, a visit goes on to the repository's own files. -/
theorem served_beside {p : RepositoryView} {source : Source} {request : Path} {bearing : Bearing}
    {refresh : Bool} {patience : Patience} {content : p.mode.dataSet.Content} {c : Course}
    (wanted : p.wantsExtras bearing)
    (releases : Attempt p.kept refresh p.mode.dataSet
      (p.mode.dataSet.outcome source p.repo patience) c.fetches (.ok content))
    (passed : c.patience = patience ∨ c.patience = patience.after source.delay)
    (apart : c.kept.data? .extras = p.kept.data? .extras) :
    let beside := p.besideExtras source refresh (p.shown request bearing p.mode content)
    p.Served source request bearing refresh patience (after beside c).fetches
      (.ofOutcome (outcome beside c)) := by
  dsimp only
  obtain ⟨more, extras, onward⟩ := p.fetch_attempt source refresh .extras c
  have called := onward.fetches
  replace extras := extras.of_data?_eq apart
  have run := p.besideExtras_run source refresh (c := c) (p.shown request bearing p.mode content) wanted.2
  cases asked : p.fetch source refresh .extras c with
  | ok files next =>
    rw [after_of_ok asked] at called
    rw [outcome_of_ok asked] at extras
    rw [asked] at run
    rw [after_of_ok run, outcome_of_ok run, called]
    exact .beside wanted releases passed extras (by simp)
  | error stop next =>
    rw [after_of_error asked] at called
    rw [outcome_of_error asked] at extras
    rw [asked] at run
    cases stop with
    | failed e =>
      rw [after_of_ok run, outcome_of_ok run, called,
        ← List.append_nil (p.shown request bearing p.mode content)]
      exact .beside wanted releases passed extras (by simp)
    | interrupted =>
      rw [after_of_error run, outcome_of_error run, called]
      exact .interrupted wanted releases passed extras

/-- A visit that comes by its data one set after the other, as it is needed. -/
theorem visit_served (request : Path) (bearing : Bearing) (refresh : Bool) (patience : Patience) :
    p.Served source request bearing refresh patience
      (p.fetches source request bearing refresh patience)
      (p.visit source request bearing refresh patience).reply := by
  rw [(p.visit_eq source request bearing refresh patience).1, fetches, entries_eq]
  by_cases needed : p.needsReleases bearing = true
  swap
  · rw [if_neg needed]
    exact .idle (Bool.eq_false_iff.mpr needed)
  rw [if_pos needed]
  obtain ⟨calls, releases, onward⟩ :=
    p.fetch_attempt source refresh p.mode.dataSet (p.setOut patience)
  obtain ⟨called, kept, passed⟩ := onward
  cases run : p.fetch source refresh p.mode.dataSet (p.setOut patience) with
  | error stop c =>
    rw [after_of_error run] at called
    rw [outcome_of_error run] at releases
    rw [outcome, after, bind_of_error run, called]
    exact .stopped needed releases
  | ok content c =>
    rw [after_of_ok run] at called kept passed
    rw [outcome_of_ok run] at releases
    obtain rfl : c.fetches = calls := called
    unfold outcome after
    rw [bind_of_ok run]
    by_cases wanted : p.wantsExtras bearing
    · rw [if_pos wanted.1]
      have apart : c.kept.data? .extras = p.kept.data? .extras := by
        rw [kept]
        exact releases.data?_foldl_ne p.mode.dataSet_ne_extras p.mode p.kept
      exact served_beside wanted releases passed apart
    · have plain : (if bearing = .exact then
          p.besideExtras source refresh (p.shown request bearing p.mode content)
        else pure (p.shown request bearing p.mode content)) =
          pure (p.shown request bearing p.mode content) := by
        rw [ite_eq_right_iff]
        intro exactly
        rw [besideExtras, if_neg fun shown => wanted ⟨exactly, shown⟩]
      rw [plain]
      exact .alone needed wanted releases

/-! ## A caller who waits for ever -/

namespace Served

variable {p : RepositoryView} {source : Source} {request : Path} {bearing : Bearing} {refresh : Bool}
  {patience : Patience} {calls : List Fetch} {reply : Reply}

theorem of_idle (served : p.Served source request bearing refresh patience calls reply)
    (unneeded : p.needsReleases bearing = false) : reply = .entries [] := by
  have never : p.needsReleases bearing ≠ true := Bool.eq_false_iff.mp unneeded
  cases served with
  | idle => rfl
  | stopped needed => exact absurd needed never
  | alone needed => exact absurd needed never
  | beside wanted => exact absurd (p.needsReleases_of_wantsExtras wanted) never
  | interrupted wanted => exact absurd (p.needsReleases_of_wantsExtras wanted) never

/-- Where the releases cannot be had, the reply tells why. -/
theorem of_failed (served : p.Served source request bearing refresh patience calls reply)
    (needed : p.needsReleases bearing = true) {stop : Stop}
    (failed : ∀ {calls result}, Attempt p.kept refresh p.mode.dataSet
      (p.mode.dataSet.outcome source p.repo patience) calls result → result = .error stop) :
    reply = .failed stop.error := by
  cases served with
  | idle unneeded => exact absurd needed (Bool.eq_false_iff.mp unneeded)
  | stopped _ releases =>
    cases failed releases
    rfl
  | alone _ _ releases => exact absurd (failed releases) nofun
  | beside _ releases => exact absurd (failed releases) nofun
  | interrupted _ releases => exact absurd (failed releases) nofun

/-- Where the releases can be had, they are shown, and beside them the repository's own files if these
are to be shown. -/
theorem of_had (served : p.Served source request bearing refresh .unlimited calls reply)
    (needed : p.needsReleases bearing = true) {content : p.mode.dataSet.Content}
    (had : ∀ {calls result}, Attempt p.kept refresh p.mode.dataSet
      (p.mode.dataSet.outcome source p.repo .unlimited) calls result → result = .ok content) :
    (¬ p.wantsExtras bearing ∧ reply = .entries (p.shown request bearing p.mode content)) ∨
      (p.wantsExtras bearing ∧ ∃ more outcome, Attempt p.kept refresh .extras
          (DataSet.extras.outcome source p.repo .unlimited) more outcome ∧
        reply = .entries (p.shown request bearing p.mode content ++ p.extrasShown outcome.toOption)) := by
  cases served with
  | idle unneeded => exact absurd needed (Bool.eq_false_iff.mp unneeded)
  | stopped _ releases => exact absurd (had releases) nofun
  | alone _ unwanted releases =>
    cases had releases
    exact .inl ⟨unwanted, rfl⟩
  | beside wanted releases passed extras =>
    cases had releases
    obtain rfl : _ = Patience.unlimited := passed.elim id id
    exact .inr ⟨wanted, _, _, extras, rfl⟩
  | interrupted _ _ passed extras =>
    obtain rfl : _ = Patience.unlimited := passed.elim id id
    exact absurd rfl extras.not_interrupted

end Served

end RepositoryView

end StorageGateway
