import Mathlib.Algebra.Order.BigOperators.Group.List
import Mathlib.Algebra.Order.Group.Nat
import StorageGateway.Proofs.Release.Again
import StorageGateway.Proofs.Release.Reached
import StorageGateway.Proofs.Release.Tags

/-!
# The bytes of a listing

A storage of releases tells how many bytes are at each of its points, and a listing shows just these: all
entries together have the size that is told of the points at the path and beneath it, and a directory has
the part that lies behind it. No point may lie above the path, since of such a point a single release
would be shown, and every point has to answer. Points tell their bytes in 64 bits, so what they keep
must not have more. Main statement: `listed_bytes`.
-/

namespace StorageGateway

/-! ## Sums that stay below the limit -/

namespace Release

theorem totalSize_eq_sum {releases : List Release} (fits : totalBytes releases ≤ Size.limit) :
    totalSize releases = .sum (releases.map size) := by
  refine Size.total_eq_sum (le_trans ?_ fits)
  rw [List.map_map]
  exact List.sum_le_sum fun r _ => r.bytes_size.trans_le (Nat.mod_le _ _)

end Release

/-! ## Where points lie -/

/-- How a point bears on a request that it does not lie above. -/
inductive Placed (point request : Path) : Bearing → Prop
  | here (same : point = request) : Placed point request .exact
  | beneath {child : String} (first : point.firstBelow? request = some child) :
    Placed point request (.ancestor child)
  | elsewhere (apart : request.covers point = false) : Placed point request .unrelated

theorem Bearing.placed {point request : Path} (notAbove : point.strictlyCovers request = false) :
    Placed point request (.between point request) := by
  have bears := bears_between point request
  generalize between point request = bearing at bears ⊢
  cases bears with
  | here same => exact .here (Path.ext same)
  | above shape => exact .beneath (Path.firstBelow?_eq_some_iff.mpr ⟨_, shape⟩)
  | below shape =>
    have above := Path.strictlyCovers_of_firstBelow? (Path.firstBelow?_eq_some_iff.mpr ⟨_, shape⟩)
    rw [notAbove] at above
    contradiction
  | apart _ apart =>
    exact .elsewhere (Bool.eq_false_iff.mpr fun covers => apart (Path.covers_iff.mp covers))

theorem Placed.covers {point request : Path} {bearing : Bearing} (placed : Placed point request bearing)
    (related : bearing ≠ .unrelated) : request.covers point = true := by
  cases placed with
  | here same => exact same ▸ Path.covers_refl _
  | beneath first =>
    exact (Path.strictlyCovers_iff.mp (Path.strictlyCovers_of_firstBelow? first)).2
  | elsewhere => contradiction

/-! ## What a point adds -/

/-- Data that was come by is kept. -/
theorem Attempt.data?_foldl {k : Kept} {refresh : Bool} {d : DataSet} {told : Except Stop d.Content}
    {calls : List Fetch} {data : d.Content} (attempt : Attempt k refresh d told calls (.ok data))
    (mode : ViewMode) : (calls.foldl (Fetch.keptAfter mode) k).data? d = some data := by
  cases attempt with
  | known kept => exact kept
  | called => exact k.data?_keep_self mode data

namespace RepositoryView

open PointKind

/-- The releases that the mode shows are kept and not asked for anew, or the source has them. -/
def Answers (p : RepositoryView) (source : Source) (refresh : Bool) : Prop :=
  (refresh = false ∧ (p.kept.data? p.mode.dataSet).isSome = true) ∨
    (p.mode.dataSet.answer source p.repo).isOk = true

instance (p : RepositoryView) (source : Source) (refresh : Bool) :
    Decidable (p.Answers source refresh) :=
  inferInstanceAs (Decidable (_ ∨ _))

/-- The bytes of the releases with a tag, of those that the point keeps. -/
def sizeTagged (p : RepositoryView) (tag : String) : Size :=
  .sum (((p.kept.releases.getD []).filter (·.tag = tag)).map Release.size)

variable {p : RepositoryView} {source : Source} {request : Path} {bearing : Bearing} {refresh : Bool}

theorem Answers.had (can : p.Answers source refresh) {calls : List Fetch}
    {result : Except Stop p.mode.dataSet.Content}
    (attempt : Attempt p.kept refresh p.mode.dataSet
      (p.mode.dataSet.outcome source p.repo .unlimited) calls result) :
    ∃ content, result = .ok content := by
  cases attempt with
  | @known data => exact ⟨data, rfl⟩
  | called needed =>
    rcases can with ⟨content, there⟩ | can
    · rcases needed with asked | missing
      · rw [content] at asked
        contradiction
      · rw [missing] at there
        contradiction
    · rw [Visiting.outcome_unlimited]
      cases told : p.mode.dataSet.answer source p.repo with
      | ok data => exact ⟨data, rfl⟩
      | error e =>
        rw [told] at can
        contradiction

/-- A point that answers shows the releases that it keeps afterwards. -/
theorem Served.of_answers {calls : List Fetch} {reply : Reply}
    (served : p.Served source request bearing refresh .unlimited calls reply)
    (can : p.Answers source refresh) (plain : p.showExtras = false)
    (needed : p.needsReleases bearing = true) :
    ∃ content, reply = .entries (p.shown request bearing p.mode content) ∧
      (calls.foldl (Fetch.keptAfter p.mode) p.kept).data? p.mode.dataSet = some content := by
  have unwanted : ¬ p.wantsExtras bearing := fun wanted => absurd wanted.2 (Bool.eq_false_iff.mp plain)
  cases served with
  | idle unneeded => exact absurd needed (Bool.eq_false_iff.mp unneeded)
  | stopped _ releases =>
    obtain ⟨content, had⟩ := can.had releases
    contradiction
  | alone _ _ releases => exact ⟨_, rfl, releases.data?_foldl p.mode⟩
  | beside wanted => exact absurd wanted unwanted
  | interrupted wanted => exact absurd wanted unwanted

/-- What a point adds to a listing of a path that it does not lie above, and what it is afterwards. -/
inductive Adds (p : RepositoryView) (request : Path) : List Entry → RepositoryView → Prop
  | shown {bearing : Bearing} (placed : Placed p.point request bearing)
    (related : bearing ≠ .unrelated) {kept : Kept} {content : p.mode.dataSet.Content}
    (there : kept.data? p.mode.dataSet = some content) (usage : kept.usage = p.mode.size content) :
    Adds p request (p.shown request bearing p.mode content) { p with kept }
  | nothing (apart : request.covers p.point = false) : Adds p request [] p

/-- The entries that a point adds to a listing. -/
def added (source : Source) (request : Path) (refresh : Bool) (p : RepositoryView) : List Entry :=
  (((kind source).reply? request refresh p).map fun r => r.2.shown).getD []

theorem shownBy_filterMap (points : List RepositoryView) :
    shownBy (points.filterMap ((kind source).reply? request refresh)) =
      points.flatMap (added source request refresh) := by
  induction points with
  | nil => rfl
  | cons p rest ih =>
    rw [List.flatMap_cons, ← ih, List.filterMap_cons, added]
    cases (kind source).reply? request refresh p <;> rfl

/-- A point that answers adds what it tells. -/
theorem adds_of_answers {c : ReleasesSettings} (tended : Releases.Tended c p)
    (plain : c.showReadme = false) (notAbove : p.point.strictlyCovers request = false)
    (can : request.covers p.point = true → p.Answers source refresh) :
    p.Adds request (added source request refresh p) ((kind source).settled request refresh p) ∧
      ∀ r, (kind source).reply? request refresh p = some r → r.2.isAnswer = true := by
  obtain ⟨showExtras, log, faithful⟩ := tended
  have placed := Bearing.placed notAbove
  have bears : Bearing.between (Path.ofText ((kind source).label p)) request =
      Bearing.between p.point request :=
    congrArg (Bearing.between · request) (Path.ofText_text p.point)
  generalize Bearing.between p.point request = bearing at placed bears
  by_cases unrelated : bearing = .unrelated
  · subst unrelated
    have silent : (kind source).reply? request refresh p = none := by rw [reply?, bears]
    have still : (kind source).settled request refresh p = p := by rw [settled, bears]
    rw [added, silent, still]
    cases placed with
    | elsewhere apart => exact ⟨.nothing apart, fun r replied => absurd replied (by simp)⟩
  · have needed : p.needsReleases bearing = true := by
      cases placed <;> first | rfl | contradiction
    obtain ⟨content, replied, there⟩ :=
      (p.visit_served source request bearing refresh .unlimited).of_answers
        (can (placed.covers unrelated)) (showExtras.trans plain) needed
    have usage := (faithful.calls (p.fetches source request bearing refresh .unlimited)).usage
    rw [Kept.bytes_of_data there, ← p.mode.bytes_size] at usage
    have left := p.point_visit source request bearing refresh .unlimited
    change ((kind source).visit p request bearing refresh .unlimited).reply = _ at replied
    change ((kind source).visit p request bearing refresh .unlimited).point = _ at left
    rw [added, reply?_of_related bears unrelated, settled_of_related bears unrelated, replied, left]
    refine ⟨.shown placed unrelated there (Size.ext usage), ?_⟩
    rintro _ ⟨⟩
    rfl

/-! ## What is added weighs what is told -/

theorem sizeUnder_directory (name child : String) (dir : Path) (size : Size) (created modified : Time) :
    sizeUnder name (.directory dir child size created modified) = if child = name then size else 0 := by
  unfold sizeUnder
  exact if_congr (and_iff_right rfl) rfl rfl

/-- Above the point, a directory stands for all releases that are shown. -/
theorem weigh_shown_above (p : RepositoryView) (request : Path) (child : String)
    (content : p.mode.dataSet.Content) :
    (∀ name, weigh (sizeUnder name) (p.shown request (.ancestor child) p.mode content) =
        if child = name then p.mode.size content else 0) ∧
      weigh Entry.size (p.shown request (.ancestor child) p.mode content) = p.mode.size content := by
  obtain ⟨point, repo, mode, showExtras, kept⟩ := p
  cases mode with
  | latest =>
    exact ⟨fun name => (weigh_singleton _ _).trans (sizeUnder_directory _ _ _ _ _ _),
      weigh_singleton _ _⟩
  | allVersions =>
    cases content with
    | nil => exact ⟨fun name => (ite_self (0 : Size)).symm, rfl⟩
    | cons newest older =>
      exact ⟨fun name => (weigh_singleton _ _).trans (sizeUnder_directory _ _ _ _ _ _),
        weigh_singleton _ _⟩

/-- At the point, the entries have the size of all releases that are shown. -/
theorem weigh_shown_here (p : RepositoryView) (request : Path) {content : p.mode.dataSet.Content}
    (fits : p.mode.bytes content ≤ Size.limit) :
    weigh Entry.size (p.shown request .exact p.mode content) = p.mode.size content := by
  obtain ⟨point, repo, mode, showExtras, kept⟩ := p
  cases mode with
  | latest =>
    refine (congrArg Size.sum List.map_map).trans (Size.total_eq_sum ?_).symm
    rw [List.map_map]
    exact fits
  | allVersions => exact (congrArg Size.sum List.map_map).trans (Release.totalSize_eq_sum fits).symm

theorem weigh_directories (p : RepositoryView) (releases : List Release) (name : String) :
    weigh (sizeUnder name) (releases.map p.directoryOf) =
      .sum ((releases.filter (·.tag = name)).map Release.size) := by
  calc
    weigh (sizeUnder name) (releases.map p.directoryOf) =
        .sum (releases.map fun r => if r.tag = name then r.size else 0) := by
      rw [weigh, List.map_map]
      exact congrArg Size.sum (List.map_congr_left fun r _ => sizeUnder_directory _ _ _ _ _ _)
    _ = .sum ((releases.filter (·.tag = name)).map Release.size) := Size.sum_map_ite releases _ _

/-- At the point, the directories are those of the releases, if all of them are shown. -/
theorem weigh_directories_here {p : RepositoryView} {kept : Kept} {content : p.mode.dataSet.Content}
    (there : kept.data? p.mode.dataSet = some content) (request : Path) (name : String) :
    weigh (sizeUnder name) (p.shown request .exact p.mode content) =
      if p.mode = .allVersions then sizeTagged { p with kept } name else 0 := by
  obtain ⟨point, repo, mode, showExtras, own⟩ := p
  cases mode with
  | latest =>
    refine weigh_eq_zero fun e shown => if_neg fun directory => ?_
    rw [isDirectory_of_mem_assetEntries shown] at directory
    exact absurd directory.1 Bool.false_ne_true
  | allVersions =>
    have found : kept.releases = some content := there
    rw [if_pos rfl, sizeTagged]
    dsimp only
    rw [found]
    exact weigh_directories ⟨point, repo, .allVersions, showExtras, own⟩ content name

namespace Adds

variable {es : List Entry} {left : RepositoryView}

/-- A point adds what it tells, unless it lies elsewhere. -/
theorem bytes (adds : p.Adds request es left)
    (fits : request.covers left.point = true → left.kept.bytes left.mode ≤ Size.limit) :
    weigh Entry.size es = if request.covers left.point = true then left.usage else 0 := by
  cases adds with
  | nothing apart => rw [if_neg (Bool.eq_false_iff.mp apart)]; rfl
  | @shown bearing placed related kept content there usage =>
    have few := fits (placed.covers related)
    dsimp only at few
    rw [Kept.bytes_of_data there] at few
    have weight : weigh Entry.size (p.shown request bearing p.mode content) = p.mode.size content := by
      cases placed with
      | here => exact p.weigh_shown_here request few
      | beneath => exact (p.weigh_shown_above request _ content).2
      | elsewhere => contradiction
    exact weight.trans (usage.symm.trans (if_pos (placed.covers related)).symm)

/-- Under a name, a point beneath the path adds what it tells, and a point at the path the releases with
this tag. -/
theorem bytes_under (adds : p.Adds request es left) (name : String) :
    weigh (sizeUnder name) es =
      (if left.point.firstBelow? request = some name then left.usage else 0) +
        if left.point = request ∧ left.mode = .allVersions then left.sizeTagged name else 0 := by
  cases adds with
  | nothing apart =>
    have differ : ¬ (p.point = request ∧ p.mode = .allVersions) := by
      rintro ⟨rfl, -⟩
      rw [Path.covers_refl] at apart
      contradiction
    rw [Path.firstBelow?_of_apart apart, if_neg (by simp), if_neg differ]
    rfl
  | @shown bearing placed related kept content there usage =>
    dsimp only
    cases placed with
    | here same =>
      rw [same, Path.firstBelow?_self, if_neg (by simp), Size.zero_add, weigh_directories_here there]
      exact if_congr (and_iff_right rfl).symm rfl rfl
    | @beneath child first =>
      have differ : ¬ (p.point = request ∧ p.mode = .allVersions) := by
        rintro ⟨same, -⟩
        rw [same, Path.firstBelow?_self] at first
        contradiction
      rw [if_neg differ, Size.add_zero, (p.weigh_shown_above request child _).1]
      exact if_congr (by rw [first, Option.some.injEq]) usage.symm rfl
    | elsewhere => contradiction

end Adds

end RepositoryView

namespace Releases

open PointKind RepositoryView

variable {r : Releases} {source : Source} {request : Path} {refresh : Bool} {patience : Patience}
  {own : List Entry}

/-! ## A listing -/

/-- A listing where every point that is asked answers is given to whoever waits. -/
theorem list_ok_of_answers
    (answers : ∀ p ∈ r.points, ∀ reply, (kind source).reply? request refresh p = some reply →
      reply.2.isAnswer = true)
    (waited : (r.list source request refresh patience).answer ≠ .error .cancelled) :
    ∃ entries, (r.list source request refresh patience).answer = .ok entries := by
  obtain ⟨replies, perm, answer, -⟩ := answer_of_waited (waited_of_answer _ (whole_list r) waited)
  have silent : failureTexts replies = [] := by
    rw [failureTexts, List.filterMap_eq_nil_iff]
    intro reply replied
    obtain ⟨p, asked, replies⟩ := List.mem_filterMap.mp (perm.mem_iff.mp replied)
    exact Reply.failure?_of_isAnswer (answers p asked reply replies) reply.1
  rw [answer, Tally.answer_ofReplies, if_neg fun failed => failed.2 silent]
  exact ⟨_, rfl⟩

/-- Where every point adds its share, a listing weighs as much as all shares. -/
theorem weigh_list {weight : Entry → Size} (folds : Folds weight) {share : RepositoryView → Size}
    (each : ∀ p ∈ r.points, weigh weight (added source request refresh p) =
      share ((kind source).settled request refresh p))
    (listed : (r.list source request refresh patience).answer = .ok own) :
    weigh weight own = .sum ((r.list source request refresh patience).points.map share) := by
  obtain ⟨replies, perm, answer, points⟩ := answer_of_waited (waited_of_list_ok listed)
  rw [answer] at listed
  have shown : (shownBy replies).Perm (r.points.flatMap (added source request refresh)) := by
    rw [← shownBy_filterMap]
    exact perm.flatMap_right _
  calc
    weigh weight own = weigh weight (shownBy replies) := by
      rw [Tally.eq_of_answer listed, weigh_listed folds]
    _ = weigh weight (r.points.flatMap (added source request refresh)) := weigh_perm weight shown
    _ = .sum (r.points.map fun p => weigh weight (added source request refresh p)) :=
      weigh_flatMap weight r.points _
    _ = .sum (r.points.map fun p => share ((kind source).settled request refresh p)) := by
      rw [List.map_congr_left each]
    _ = .sum ((r.list source request refresh patience).points.map share) := by
      rw [points, List.map_map]
      rfl

/-- The bytes that are told of the points at a path and beneath it. -/
def usageBelow (r : Releases) (request : Path) : Size :=
  .sum ((r.points.filter fun p => request.covers p.point = true).map RepositoryView.usage)

/-- The bytes that are told of the points beneath a path that are reached through a next segment. -/
def usageTowards (r : Releases) (request : Path) (name : String) : Size :=
  .sum ((r.points.filter fun p => p.point.firstBelow? request = some name).map RepositoryView.usage)

/-- The bytes of the releases with a tag, at the points at a path that show all their releases. -/
def sizeTagged (r : Releases) (request : Path) (tag : String) : Size :=
  .sum ((r.points.filter fun p => p.point = request ∧ p.mode = .allVersions).map
    (RepositoryView.sizeTagged · tag))

/-- The bytes of all files that the points at a path and beneath it keep. -/
def bytesBelow (r : Releases) (request : Path) : Nat :=
  ((r.points.filter fun p => request.covers p.point = true).map fun p => p.kept.bytes p.mode).sum

theorem bytes_le_bytesBelow {p : RepositoryView} (among : p ∈ r.points)
    (covers : request.covers p.point = true) : p.kept.bytes p.mode ≤ r.bytesBelow request :=
  List.le_sum_of_mem (List.mem_map_of_mem (List.mem_filter.mpr ⟨among, decide_eq_true covers⟩))

theorem usageBelow_root (reached : r.Reached) (fits : r.bytesBelow .root ≤ Size.limit) :
    r.usageBelow .root = r.usage := by
  have all : (r.points.filter fun p => Path.root.covers p.point = true) = r.points :=
    List.filter_eq_self.mpr fun p _ => decide_eq_true p.point.root_covers
  rw [bytesBelow, all] at fits
  rw [usageBelow, all]
  refine (Size.total_eq_sum (le_trans ?_ fits)).symm
  rw [List.map_map]
  refine List.sum_le_sum fun p among => ?_
  obtain ⟨-, log, faithful⟩ := reached.tended p among
  exact faithful.usage.trans_le (Nat.mod_le _ _)

/-- The bytes in a listing of a path are those that are told of the points there. -/
structure AccountsFor (r : Releases) (request : Path) (entries : List Entry) : Prop where
  total : Size.sum (entries.map Entry.size) = r.usageBelow request
  whole : request = .root → Size.sum (entries.map Entry.size) = r.usage
  /-- A directory has the bytes of the points to which it leads and of the releases named like it. -/
  directory : ∀ e ∈ entries, e.isDirectory = true →
    e.size = r.usageTowards request e.name + r.sizeTagged request e.name

/-- A listing of a path that no point lies above shows the bytes that are told of the points there, if all
of these can answer, the caller waits and the bytes do not come round. -/
theorem listed_bytes (reached : r.Reached) (plain : r.settings.showReadme = false)
    (notAbove : ∀ p ∈ r.points, p.point.strictlyCovers request = false)
    (can : ∀ p ∈ r.points, request.covers p.point = true → p.Answers source refresh)
    (waited : (r.list source request refresh patience).answer ≠ .error .cancelled)
    (fits : ({ r with points := (r.list source request refresh patience).points } : Releases).bytesBelow
      request ≤ Size.limit) :
    ∃ entries, (r.list source request refresh patience).answer = .ok entries ∧
      ({ r with points := (r.list source request refresh patience).points } : Releases).AccountsFor
        request entries := by
  have adds := fun p among =>
    adds_of_answers (reached.tended p among) plain (notAbove p among) (can p among)
  obtain ⟨entries, listed⟩ := list_ok_of_answers (fun p among => (adds p among).2) waited
  refine ⟨entries, listed, ?_⟩
  obtain ⟨-, -, -, points⟩ := answer_of_waited (waited_of_list_ok listed)
  have few : ∀ p ∈ r.points, request.covers ((kind source).settled request refresh p).point = true →
      ((kind source).settled request refresh p).kept.bytes
        ((kind source).settled request refresh p).mode ≤ Size.limit := fun p among covers =>
    (bytes_le_bytesBelow (points ▸ List.mem_map_of_mem among) covers).trans fits
  have total : Size.sum (entries.map Entry.size) = usageBelow
      { r with points := (r.list source request refresh patience).points } request :=
    (weigh_list folds_size (fun p among => (adds p among).1.bytes (few p among)) listed).trans
      (Size.sum_map_ite _ _ RepositoryView.usage)
  refine ⟨total, ?_, fun e among directory => ?_⟩
  · rintro rfl
    exact total.trans (usageBelow_root (reached.listed source .root refresh patience) fits)
  · have distinct : (directoryNames entries).Nodup := (kind source).nodup_gather listed
    have under : weigh (sizeUnder e.name) entries =
        .sum ((r.list source request refresh patience).points.map fun p =>
          (if p.point.firstBelow? request = some e.name then p.usage else 0) +
            if p.point = request ∧ p.mode = .allVersions then p.sizeTagged e.name else 0) :=
      weigh_list (folds_sizeUnder e.name) (fun p among => (adds p among).1.bytes_under e.name) listed
    rw [← directorySize_of_mem distinct among directory, directorySize_eq_weigh, under,
      Size.sum_map_add, Size.sum_map_ite, Size.sum_map_ite]
    rfl

/-- Repositories at a directory and beneath it, one of them at two points. -/
def nestedSettings : ReleasesSettings :=
  { ReleasesSettings.default with
    repoStructure := "/gh:o/x\n/gh/v1:o/y\n/gh/v1/old:o/x\n/gh/v1:o/y"
    showAllVersions := true }

/-- A source with two releases of one repository, of which one is named like a directory, and with one of
the other. -/
def nestedSource : Source :=
  (Source.empty.publish "o/x" [⟨"v2", 5, 30, [⟨"b.zip", .ofNat 50, "https://b", 5, 30⟩]⟩,
    ⟨"v1", 10, 20, [⟨"a.zip", .ofNat 100, "https://a", 10, 20⟩]⟩]).publish
    "o/y" [⟨"v1", 10, 20, [⟨"y.tar", .ofNat 7, "https://y", 10, 20⟩]⟩]

/-- The storage after a listing. -/
def nestedReleases : Releases :=
  { new nestedSettings with
    points := ((new nestedSettings).list nestedSource (.ofText "/gh") true .unlimited).points }

theorem reached_nestedReleases : nestedReleases.Reached :=
  .listed (.new nestedSettings) nestedSource (.ofText "/gh") true .unlimited

/-- One of the repositories cannot be had any more, but is kept. -/
theorem listed_bytes_nestedReleases :
    let source := nestedSource.fail "o/x" true
    let request := Path.ofText "/gh"
    let listing := nestedReleases.list source request false .unlimited
    nestedReleases.Reached ∧ nestedReleases.settings.showReadme = false ∧
      (∀ p ∈ nestedReleases.points, p.point.strictlyCovers request = false) ∧
      (∀ p ∈ nestedReleases.points, request.covers p.point = true → p.Answers source false) ∧
      listing.answer ≠ .error .cancelled ∧
      ({ nestedReleases with points := listing.points } : Releases).bytesBelow request ≤ Size.limit ∧
      ∃ entries, listing.answer = .ok entries ∧
        ({ nestedReleases with points := listing.points } : Releases).AccountsFor request entries := by
  intro source request listing
  have notAbove : ∀ p ∈ nestedReleases.points, p.point.strictlyCovers request = false := by
    decide +kernel
  have can : ∀ p ∈ nestedReleases.points, request.covers p.point = true →
      p.Answers source false := by
    decide +kernel
  have waited : listing.answer ≠ .error .cancelled := fun cancelled => by
    obtain ⟨reason, other⟩ := list_unlimited cancelled
    contradiction
  have fits : ({ nestedReleases with points := listing.points } : Releases).bytesBelow request ≤
      Size.limit := by
    decide +kernel
  exact ⟨reached_nestedReleases, rfl, notAbove, can, waited, fits,
    listed_bytes reached_nestedReleases rfl notAbove can waited fits⟩

end Releases

end StorageGateway
