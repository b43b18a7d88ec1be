import StorageGateway.Proofs.Listing.Bearings
import StorageGateway.Proofs.Listing.Replies
import StorageGateway.Proofs.Run
import StorageGateway.Release.View

/-!
# Visits to a repository

A visit asks for what it needs, and every time the answer is what is kept or what the source has to
say. How long the caller waits decides only whether the visit gets to its end. Main statements:
`patient` and `directories_of_reply`.
-/

namespace StorageGateway

namespace Visiting

/-! ## Waiting -/

/-- The same is kept, and the second caller waits for ever. -/
def SameKept (c d : Course) : Prop := c.kept = d.kept ∧ d.patience = .unlimited

/-- A visit comes out as it does for a caller who waits for ever, or the caller gives up. -/
inductive ComesOut {α : Type} : EStateM.Result Stop Course α → EStateM.Result Stop Course α → Prop
  | gaveUp (c : Course) (r : EStateM.Result Stop Course α) : ComesOut (.error .interrupted c) r
  | answered (v : α) {c d : Course} (same : SameKept c d) : ComesOut (.ok v c) (.ok v d)
  | failed (e : StorageError) {c d : Course} (same : SameKept c d) :
    ComesOut (.error (.failed e) c) (.error (.failed e) d)

/-- A part of a visit that only the caller can cut short. -/
def Steady {α : Type} (x : Visiting α) : Prop := ∀ c d, SameKept c d → ComesOut (x c) (x d)

namespace Steady

variable {α β : Type} {x : Visiting α}

theorem pure (v : α) : Steady (Pure.pure v : Visiting α) := fun _ _ same => .answered v same

theorem bind {f : α → Visiting β} (first : Steady x) (next : ∀ v, Steady (f v)) :
    Steady (x >>= f) := by
  intro c d same
  have out := first c d same
  -- the two runs of the first part end alike, so the second part starts from the same again
  generalize left : x c = r at out
  generalize right : x d = s at out
  cases out with
  | gaveUp c _ =>
    rw [bind_of_error left]
    exact .gaveUp c _
  | answered v same =>
    rw [bind_of_ok left, bind_of_ok right]
    exact next v _ _ same
  | failed e same =>
    rw [bind_of_error left, bind_of_error right]
    exact .failed e same

/-- What is done about a failure is steady too, if it lets the caller give up. -/
theorem rescue {handle : Stop → Visiting α} (first : Steady x)
    (failed : ∀ e, Steady (handle (.failed e)))
    (interrupted : handle .interrupted = throw .interrupted) : Steady (tryCatch x handle) := by
  intro c d same
  have out := first c d same
  rw [tryCatch_run, tryCatch_run]
  generalize x c = r at out
  generalize x d = s at out
  cases out with
  | gaveUp c _ =>
    dsimp only
    rw [interrupted]
    exact .gaveUp c _
  | answered v same => exact .answered v same
  | failed e same => exact failed e _ _ same

end Steady

theorem call_run (source : Source) (repo : String) (d : DataSet) (c : Course) :
    call source repo d c =
      match d.outcome source repo c.patience with
      | .ok data => .ok data (c.called source repo d)
      | .error stop => .error stop (c.called source repo d) := by
  change (call source repo d).run c = _
  simp only [call, EStateM.run_bind, EStateM.run_get, EStateM.run_set]
  cases d.outcome source repo c.patience <;> rfl

/-- Who waits for ever is told what the source has to say. -/
theorem outcome_unlimited (source : Source) (repo : String) (d : DataSet) :
    d.outcome source repo .unlimited = (d.answer source repo).mapError .failed := rfl

theorem steady_call (source : Source) (repo : String) (d : DataSet) :
    Steady (call source repo d) := by
  intro c e same
  obtain ⟨kept, forever⟩ := same
  have alike : SameKept (c.called source repo d) (e.called source repo d) := by
    refine ⟨kept, ?_⟩
    change e.patience.after source.delay = .unlimited
    rw [forever]
    rfl
  rw [call_run, call_run, forever, outcome_unlimited, DataSet.outcome]
  by_cases spent : (c.patience.after source.delay).isSpent = true
  · rw [if_pos spent]
    exact .gaveUp _ _
  · rw [if_neg spent]
    cases d.answer source repo with
    | ok data => exact .answered data alike
    | error reason => exact .failed reason alike

end Visiting

namespace RepositoryView

open Visiting

variable (p : RepositoryView) (source : Source)

/-- Call for data, and keep what comes. -/
def fetchAnew (d : DataSet) : Visiting d.Content := do
  let data ← call source p.repo d
  modify fun c => { c with kept := c.kept.keep p.mode d data }
  return data

theorem fetchAnew_run (d : DataSet) (c : Course) :
    p.fetchAnew source d c =
      match call source p.repo d c with
      | .ok data e => .ok data { e with kept := e.kept.keep p.mode d data }
      | .error stop e => .error stop e := by
  cases asked : call source p.repo d c with
  | error stop e => exact bind_of_error asked
  | ok data e =>
    rw [fetchAnew, bind_of_ok asked]
    rfl

theorem fetch_run (refresh : Bool) (d : DataSet) (c : Course) :
    p.fetch source refresh d c =
      match c.kept.data? d, refresh with
      | some data, false => .ok data c
      | _, _ => p.fetchAnew source d c := by
  have got : (get : Visiting Course) c = .ok c c := rfl
  rw [fetch, bind_of_ok got]
  cases c.kept.data? d with
  | none => rfl
  | some data => cases refresh <;> rfl

theorem steady_fetch (refresh : Bool) (d : DataSet) : Steady (p.fetch source refresh d) := by
  intro c e same
  rw [fetch_run, fetch_run, ← same.1]
  split
  · exact .answered _ same
  · have out := steady_call source p.repo d c e same
    rw [fetchAnew_run, fetchAnew_run]
    generalize call source p.repo d c = r at out
    generalize call source p.repo d e = s at out
    cases out with
    | gaveUp c _ => exact .gaveUp c _
    | answered data same => exact .answered data ⟨congrArg (·.keep p.mode d data) same.1, same.2⟩
    | failed reason same => exact .failed reason same

end RepositoryView

namespace Visiting

/-- A judgement of parts of visits that passes on to whatever is put together from them, and that
holds of everything that a point fetches. -/
structure Composes (p : RepositoryView) (source : Source)
    (Judged : ∀ {α : Type}, Visiting α → Prop) : Prop where
  pure : ∀ {α : Type} (v : α), Judged (Pure.pure v : Visiting α)
  bind : ∀ {α β : Type} {x : Visiting α} {f : α → Visiting β}, Judged x → (∀ v, Judged (f v)) →
    Judged (x >>= f)
  rescue : ∀ {α : Type} {x : Visiting α} {handle : Stop → Visiting α}, Judged x →
    (∀ e, Judged (handle (.failed e))) → handle .interrupted = throw .interrupted →
    Judged (tryCatch x handle)
  fetch : ∀ (refresh : Bool) (d : DataSet), Judged (p.fetch source refresh d)

theorem composes_steady (p : RepositoryView) (source : Source) : Composes p source @Steady where
  pure := Steady.pure
  bind := Steady.bind
  rescue := Steady.rescue
  fetch := p.steady_fetch source

end Visiting

namespace RepositoryView

open Visiting

variable (p : RepositoryView) (source : Source)

/-! ## What is fetched -/

/-- Entries with the repository's own files beside them, if they are to be shown and can be had. -/
def besideExtras (refresh : Bool) (entries : List Entry) : Visiting (List Entry) :=
  if p.showExtras then
    tryCatch (do return entries ++ assetEntries p.point (← p.extras source refresh)) fun
      | .failed _ => return entries
      | .interrupted => throw .interrupted
  else return entries

theorem entriesHere_eq (refresh : Bool) :
    p.entriesHere source refresh =
      match p.mode with
      | .latest => p.newest source refresh >>= fun release =>
        p.besideExtras source refresh (assetEntries p.point release.assets)
      | .allVersions => p.releases source refresh >>= fun releases =>
        p.besideExtras source refresh
          (releases.map fun r => .directory p.point r.tag r.size r.created r.published) := by
  rw [entriesHere]
  cases p.mode <;> rfl

section Composes

variable {Judged : ∀ {α : Type}, Visiting α → Prop} (composes : Composes p source @Judged)

include composes

theorem judged_besideExtras (refresh : Bool) (entries : List Entry) :
    Judged (p.besideExtras source refresh entries) := by
  unfold besideExtras
  split
  · refine composes.rescue ?_ (fun e => composes.pure entries) rfl
    exact composes.bind (composes.fetch refresh _) fun _ => composes.pure _
  · exact composes.pure entries

theorem judged_entriesHere (refresh : Bool) : Judged (p.entriesHere source refresh) := by
  rw [entriesHere_eq]
  cases p.mode with
  | latest =>
    exact composes.bind (composes.fetch refresh _) fun _ =>
      p.judged_besideExtras source composes refresh _
  | allVersions =>
    exact composes.bind (composes.fetch refresh _) fun _ =>
      p.judged_besideExtras source composes refresh _

theorem judged_entriesAbove (request : Path) (child : String) (refresh : Bool) :
    Judged (p.entriesAbove source request child refresh) := by
  unfold entriesAbove
  cases p.mode with
  | latest => exact composes.bind (composes.fetch refresh _) fun _ => composes.pure _
  | allVersions =>
    refine composes.bind (composes.fetch refresh _) fun releases => ?_
    cases releases <;> exact composes.pure _

theorem judged_entriesOfTag (selector rest : String) (refresh : Bool) :
    Judged (p.entriesOfTag source selector rest refresh) := by
  unfold entriesOfTag
  split
  · exact composes.pure []
  · refine composes.bind (composes.fetch refresh _) fun releases => ?_
    cases releases.find? (·.tag == selector) <;> exact composes.pure _

/-- Whatever the point bears on, its entries are put together from fetches. -/
theorem judged_entries (request : Path) (bearing : Bearing) (refresh : Bool) :
    Judged (p.entries source request bearing refresh) := by
  cases bearing with
  | exact => exact p.judged_entriesHere source composes refresh
  | ancestor child => exact p.judged_entriesAbove source composes request child refresh
  | descendant selector rest => exact p.judged_entriesOfTag source composes selector rest refresh
  | unrelated => exact composes.pure []

end Composes

/-- A visit goes alike for everyone who waits. -/
theorem visit_of_waited {request : Path} {bearing : Bearing} {refresh : Bool} {patience : Patience}
    (waited : (p.visit source request bearing refresh patience).interrupted = false) :
    (p.visit source request bearing refresh patience).reply =
        (p.visit source request bearing refresh .unlimited).reply ∧
      (p.visit source request bearing refresh patience).point =
        (p.visit source request bearing refresh .unlimited).point := by
  have out := p.judged_entries source (composes_steady p source) request bearing refresh
    ⟨p.kept, [], 0, patience⟩ ⟨p.kept, [], 0, .unlimited⟩ ⟨rfl, rfl⟩
  rw [visit] at waited ⊢
  rw [visit]
  dsimp only [EStateM.run] at waited ⊢
  generalize p.entries source request bearing refresh ⟨p.kept, [], 0, patience⟩ = r at out waited
  generalize p.entries source request bearing refresh ⟨p.kept, [], 0, .unlimited⟩ = s at out
  cases out with
  | gaveUp c _ => contradiction
  | answered v same => exact ⟨rfl, congrArg (fun kept => { p with kept }) same.1⟩
  | failed e same => exact ⟨rfl, congrArg (fun kept => { p with kept }) same.1⟩

/-- A visit to a repository never breaks off: it answers, or it fails. -/
theorem unbroken : (kind source).Unbroken := by
  intro p request bearing refresh patience
  change (p.visit source request bearing refresh patience).reply.isAborted = false
  unfold visit
  cases EStateM.run (p.entries source request bearing refresh) ⟨p.kept, [], 0, patience⟩ with
  | ok entries c => rfl
  | error stop c => cases stop <;> rfl

/-- A repository replies alike to everyone who waits. -/
theorem patient : (kind source).Patient where
  label p request bearing refresh patience := by
    change (visit source p request bearing refresh patience).point.point.text = p.point.text
    rw [visit]
    dsimp only
    split <;> rfl
  reply waited := (visit_of_waited _ source waited).1
  point waited := (visit_of_waited _ source waited).2

/-! ## The directories that are shown -/

/-- The directories among some entries lie in the directory that is listed, and have no content of
their own. -/
def DirectoriesIn (request : Path) (entries : List Entry) : Prop :=
  ∀ e ∈ entries, e.isDirectory = true → e.path = request.join e.name ∧ e.locator = none

theorem directoriesIn_nil (request : Path) : DirectoriesIn request [] := by
  intro e listed
  contradiction

theorem directoriesIn_assetEntries (request dir : Path) (assets : List Asset) :
    DirectoriesIn request (assetEntries dir assets) := by
  intro e listed directory
  obtain ⟨a, -, rfl⟩ := List.mem_map.mp listed
  contradiction

theorem directoriesIn_append {request : Path} {es fs : List Entry} (left : DirectoriesIn request es)
    (right : DirectoriesIn request fs) : DirectoriesIn request (es ++ fs) := by
  intro e listed
  rcases List.mem_append.mp listed with here | there
  · exact left e here
  · exact right e there

theorem directoriesIn_directory (request : Path) (name : String) (size : Size)
    (created modified : Time) :
    DirectoriesIn request [.directory request name size created modified] := by
  intro e listed _
  rw [List.mem_singleton.mp listed]
  exact ⟨rfl, rfl⟩

theorem directories_besideExtras (refresh : Bool) {entries : List Entry}
    (shown : DirectoriesIn p.point entries) :
    Ensures (p.besideExtras source refresh entries) (DirectoriesIn p.point) := by
  rw [besideExtras]
  split
  · refine Ensures.rescue ?_ fun stop => ?_
    · exact (Ensures.trivial _).bind fun extras _ =>
        .pure (directoriesIn_append shown (directoriesIn_assetEntries _ _ _))
    · cases stop with
      | failed e => exact .pure shown
      | interrupted => exact .throw _
  · exact .pure shown

theorem directories_entriesHere (refresh : Bool) :
    Ensures (p.entriesHere source refresh) (DirectoriesIn p.point) := by
  rw [entriesHere_eq]
  cases p.mode with
  | latest =>
    exact (Ensures.trivial _).bind fun release _ =>
      p.directories_besideExtras source refresh (directoriesIn_assetEntries _ _ _)
  | allVersions =>
    refine (Ensures.trivial _).bind fun releases _ => p.directories_besideExtras source refresh ?_
    intro e listed _
    obtain ⟨r, -, rfl⟩ := List.mem_map.mp listed
    exact ⟨rfl, rfl⟩

theorem directories_entriesAbove (request : Path) (child : String) (refresh : Bool) :
    Ensures (p.entriesAbove source request child refresh) (DirectoriesIn request) := by
  rw [entriesAbove]
  cases p.mode with
  | latest => exact (Ensures.trivial _).bind fun _ _ => .pure (directoriesIn_directory _ _ _ _ _)
  | allVersions =>
    refine (Ensures.trivial _).bind fun releases _ => ?_
    cases releases with
    | nil => exact .pure (directoriesIn_nil _)
    | cons newest _ => exact .pure (directoriesIn_directory _ _ _ _ _)

theorem directories_entriesOfTag (request : Path) (selector rest : String) (refresh : Bool) :
    Ensures (p.entriesOfTag source selector rest refresh) (DirectoriesIn request) := by
  rw [entriesOfTag]
  split
  · exact .pure (directoriesIn_nil _)
  · refine (Ensures.trivial _).bind fun releases _ => ?_
    cases releases.find? (·.tag == selector) with
    | none => exact .pure (directoriesIn_nil _)
    | some r => exact .pure (directoriesIn_assetEntries _ _ _)

/-- A point bears exactly on the request for itself. -/
theorem eq_of_between_exact {point request : Path}
    (bears : Bearing.between point request = .exact) : point = request :=
  Path.ext (Bearing.between_eq_exact_iff.mp bears)

theorem directories_entries {request : Path} {bearing : Bearing}
    (bears : Bearing.between p.point request = bearing) (refresh : Bool) :
    Ensures (p.entries source request bearing refresh) (DirectoriesIn request) := by
  cases bearing with
  | exact => exact eq_of_between_exact bears ▸ p.directories_entriesHere source refresh
  | ancestor child => exact p.directories_entriesAbove source request child refresh
  | descendant selector rest => exact p.directories_entriesOfTag source request selector rest refresh
  | unrelated => exact .pure (directoriesIn_nil _)

/-- All directories in the replies of repositories lie in the directory that is listed. -/
theorem directories_of_reply {request : Path} {refresh : Bool} {r : String × Reply}
    (replies : (kind source).reply? request refresh p = some r) :
    DirectoriesIn request r.2.shown := by
  obtain ⟨bearing, bears, -, rfl⟩ := PointKind.of_reply? replies
  have here : Bearing.between p.point request = bearing := by
    rw [← bears]
    exact congrArg (Bearing.between · request) (Path.ofText_text p.point).symm
  have ensured := p.directories_entries source here refresh ⟨p.kept, [], 0, .unlimited⟩
  change DirectoriesIn request (visit source p request bearing refresh .unlimited).reply.shown
  rw [visit]
  dsimp only [EStateM.run]
  cases run : p.entries source request bearing refresh ⟨p.kept, [], 0, .unlimited⟩ with
  | ok entries c => exact ensured entries c run
  | error stop c => cases stop <;> exact directoriesIn_nil _

end RepositoryView

end StorageGateway
