import StorageGateway.Proofs.Release.Memo
import StorageGateway.Release.Storage

/-!
# What a storage of releases remembers

A storage starts from its settings, and every listing leaves its points with what they have fetched, for
callers who wait and for callers who give up. Whatever the sources had to say meanwhile, each point keeps
and tells what its calls brought. Main statement: `Reached.tended`.
-/

namespace StorageGateway

namespace PointKind

variable {π : Type} {kind : PointKind π} {P : π → Prop} {points : List π}

/-- What visits preserve holds of every point throughout a schedule. -/
theorem forall_schedule
    (visited : ∀ p request bearing refresh patience, P p →
      P (kind.visit p request bearing refresh patience).point)
    (all : ∀ p ∈ points, P p) (request : Path) (refresh : Bool) (patience : Patience)
    (slots : List Nat) : ∀ t ∈ kind.schedule request refresh patience slots points, P t.point := by
  induction points generalizing slots with
  | nil => exact fun t among => absurd among List.not_mem_nil
  | cons p rest ih =>
    obtain ⟨here, others⟩ := List.forall_mem_cons.mp all
    obtain ⟨bearing, bears⟩ : ∃ bearing,
        Bearing.between (Path.ofText (kind.label p)) request = bearing := ⟨_, rfl⟩
    by_cases unrelated : bearing = .unrelated
    · subst unrelated
      rw [schedule_cons_unrelated bears]
      exact List.forall_mem_cons.mpr ⟨here, ih others slots⟩
    · rw [schedule_cons_related bears unrelated]
      dsimp only
      split
      · exact List.forall_mem_cons.mpr ⟨here, ih others slots⟩
      · exact List.forall_mem_cons.mpr ⟨visited _ _ _ _ _ here, ih others _⟩

/-- It holds of the points that are left when a visit breaks off, too. -/
theorem forall_untilBreak {turns : List (Turn π)} {request : Path} (all : ∀ p ∈ points, P p)
    (taken : ∀ t ∈ turns, P t.point) : ∀ t ∈ kind.untilBreak request points turns, P t.point := by
  induction turns generalizing points with
  | nil => cases points <;> exact taken
  | cons t rest ih =>
    cases points with
    | nil => exact taken
    | cons p points =>
      obtain ⟨here, later⟩ := List.forall_mem_cons.mp taken
      have others := (List.forall_mem_cons.mp all).2
      unfold untilBreak
      split
      · refine List.forall_mem_cons.mpr ⟨here, fun t among => ?_⟩
        obtain ⟨q, left, rfl⟩ := List.mem_map.mp among
        exact others q left
      · exact List.forall_mem_cons.mpr ⟨here, ih others later⟩

/-- What visits preserve holds of every point after a listing, even if the caller has given up. -/
theorem forall_gather (kind : PointKind π)
    (visited : ∀ p request bearing refresh patience, P p →
      P (kind.visit p request bearing refresh patience).point)
    (all : ∀ p ∈ points, P p) (options : GatherOptions) (request : Path) (refresh : Bool)
    (patience : Patience) :
    ∀ p ∈ (kind.gather options points request refresh patience).points, P p := by
  intro p among
  obtain ⟨t, turn, rfl⟩ := List.mem_map.mp among
  have taken := forall_schedule visited all request refresh patience
    (List.replicate (options.width (kind.related points request)) 0)
  split at turn
  · exact taken t turn
  · exact forall_untilBreak all taken t turn

end PointKind

namespace Releases

/-- A storage that settings and listings lead to, with sources that change from one listing to the next.
Forgetting everything leads back to the start. -/
inductive Reached : Releases → Prop
  | new (settings : ReleasesSettings) : Reached (new settings)
  | listed {r : Releases} (reached : Reached r) (source : Source) (request : Path) (refresh : Bool)
    (patience : Patience) :
    Reached { r with points := (r.list source request refresh patience).points }

/-- A point does as the settings say, and keeps and tells what its calls brought. -/
structure Tended (c : ReleasesSettings) (p : RepositoryView) : Prop where
  showExtras : p.showExtras = c.showReadme
  faithful : ∃ log, p.kept.Faithful p.mode log

theorem Tended.visited {c : ReleasesSettings} {p : RepositoryView} (tended : Tended c p)
    (source : Source) (request : Path) (bearing : Bearing) (refresh : Bool) (patience : Patience) :
    Tended c (p.visit source request bearing refresh patience).point := by
  obtain ⟨showExtras, log, faithful⟩ := tended
  have point := (p.visit_eq source request bearing refresh patience).2.1
  have mode : (p.visit source request bearing refresh patience).point.mode = p.mode := by rw [point]
  refine ⟨by rw [point]; exact showExtras, log ++ p.fetches source request bearing refresh patience, ?_⟩
  rw [mode, p.kept_visit]
  exact faithful.calls _

theorem Reached.tended {r : Releases} (reached : r.Reached) : ∀ p ∈ r.points, Tended r.settings p := by
  induction reached with
  | new settings =>
    intro p among
    obtain ⟨m, -, rfl⟩ := List.mem_map.mp among
    exact ⟨rfl, [], Kept.faithful_nothing _⟩
  | listed _ source request refresh patience ih =>
    exact (RepositoryView.kind source).forall_gather
      (fun _ request bearing refresh patience tended =>
        tended.visited source request bearing refresh patience) ih _ request refresh patience

end Releases

end StorageGateway
