import StorageGateway.Mount.Table
import StorageGateway.Proofs.Dict.Entries
import StorageGateway.Proofs.Mount.Routes
import StorageGateway.Proofs.Run

/-!
# Tables of mounts over time

Whatever a table is asked for, its mounts stay at clean paths, which they know; a mount is renamed alone
or nothing changes; and a snapshot shows for good what it was taken of. Every request makes one version
out of the current one and leaves the former ones as they are (`exists_update`), and all of this follows
from there. Main statement: `serve_orderly`.
-/

namespace StorageGateway

/-- A request to a table of mounts, with the paths as they were written. -/
inductive MountRequest where
  | mount (path : String) (backend : BackendId) (now : Time)
  | unmount (path : String)
  | rename (old new : String) (now : Time)
  | clear

/-- Carry out a request. -/
def MountRequest.run : MountRequest → MountTable.Request Unit
  | mount path backend now => MountTable.mount path backend now
  | unmount path => discard (MountTable.unmount path)
  | rename old new now => MountTable.rename old new now
  | clear => MountTable.clear

namespace MountTable

/-- The table that requests leave, whether they answer or fail. -/
def serve (t : MountTable) (requests : List MountRequest) : MountTable :=
  requests.foldl (fun t request => after request.run t) t

variable {t u : MountTable}

/-! ## One request -/

theorem rename_run (old new : String) (now : Time) (t : MountTable) :
    rename old new now t =
      match t.current.rename (.ofText old) (.ofText new) now with
      | .ok routes => .ok () (t.update routes)
      | .error e => .error e (t.update t.current) := by
  change (match t.current.rename (.ofText old) (.ofText new) now with
    | .ok routes => set (t.update routes)
    | .error e => do set (t.update t.current); throw e : Request Unit) t = _
  cases t.current.rename (.ofText old) (.ofText new) now <;> rfl

/-- A request makes one version, out of the current one. -/
theorem exists_update (request : MountRequest) (t : MountTable) :
    ∃ routes, after request.run t = t.update routes ∧ (t.current.Built → routes.Built) := by
  cases request with
  | mount path backend now => exact ⟨_, rfl, .mount _ _ _⟩
  | unmount path => exact ⟨_, after_discard _ _, .unmount _⟩
  | rename old new now =>
    change ∃ routes, after (rename old new now) t = _ ∧ _
    rw [after, rename_run]
    cases renamed : t.current.rename (.ofText old) (.ofText new) now with
    | ok routes => exact ⟨routes, rfl, fun built => built.rename renamed⟩
    | error e => exact ⟨t.current, rfl, id⟩
  | clear => exact ⟨.empty, rfl, fun _ => .empty⟩

/-! ## Courses of requests -/

theorem built_serve (built : t.current.Built) (requests : List MountRequest) :
    (t.serve requests).current.Built := by
  induction requests generalizing t with
  | nil => exact built
  | cons request rest ih =>
    obtain ⟨routes, left, kept⟩ := exists_update request t
    refine ih (t := after request.run t) ?_
    rw [left]
    exact kept built

/-- The versions so far stay, and others come after them. -/
theorem versions_prefix_serve (t : MountTable) (requests : List MountRequest) :
    t.versions <+: (t.serve requests).versions := by
  induction requests generalizing t with
  | nil => exact List.prefix_rfl
  | cons request rest ih =>
    obtain ⟨routes, left, -⟩ := exists_update request t
    refine List.IsPrefix.trans ?_ (ih (after request.run t))
    rw [left]
    exact List.prefix_append t.versions [routes]

/-- As long as the versions of a table stay, its snapshot shows what is current there. -/
theorem shown_snapshot (stay : t.versions <+: u.versions) : u.shown t.snapshot = t.current := by
  obtain ⟨later, all⟩ := stay
  have first : (t.former ++ (t.current :: later))[t.former.length]? = some t.current := by
    rw [List.getElem?_append_right le_rfl, Nat.sub_self]
    rfl
  rw [shown, snapshot, ← all, versions, List.append_assoc, List.singleton_append,
    List.getD_eq_getElem?_getD, first, Option.getD_some]

/-! ## What tables owe -/

/-- What comes of a request to rename a mount: it is refused if there is a mount at the new path, or
else if there is none at the old one, and nothing changes. Otherwise the mount is at the new path, and
all others are where they were. -/
structure Renames (t : MountTable) (old new : String) (now : Time) : Prop where
  taken : ∀ m, t.current.get? (.ofText new) = some m →
    outcome (rename old new now) t = .error (.alreadyExists (Path.ofText new).text) ∧
      (after (rename old new now) t).current = t.current
  missing : t.current.get? (.ofText new) = none → t.current.get? (.ofText old) = none →
    outcome (rename old new now) t = .error (.noMountPoint (Path.ofText old).text) ∧
      (after (rename old new now) t).current = t.current
  moved : ∀ m, t.current.get? (.ofText new) = none → t.current.get? (.ofText old) = some m →
    outcome (rename old new now) t = .ok () ∧
      ∀ p, (after (rename old new now) t).current.get? p =
        if p = .ofText new then some { m with path := .ofText new, modified := now }
        else if p = .ofText old then none
        else t.current.get? p

/-- The snapshot of one table, looked at in another, answers from the mounts of the first. -/
structure Shows (u t : MountTable) : Prop where
  resolve : ∀ path, u.resolve? t.snapshot path = t.current.resolve? (.ofText path)
  implied : ∀ usage path, u.impliedDirectories t.snapshot usage path =
    t.current.impliedDirectories usage (.ofText path)
  leads : ∀ path, u.leadsToMount t.snapshot path = t.current.leadsToMount (.ofText path)

/-- The mounts are kept at clean paths, which they know; a mount is renamed alone, or nothing changes;
and a snapshot shows the mounts as they are, whatever is asked for later. -/
structure Orderly (t : MountTable) : Prop where
  clean : ∀ p m, (p, m) ∈ t.current.mounts.entries → IsCleanPath p.text ∧ m.path = p
  renames : ∀ old new now, t.Renames old new now
  shows : ∀ later, (t.serve later).Shows t

theorem renames (t : MountTable) (old new : String) (now : Time) : t.Renames old new now where
  taken m taken := by
    have run := rename_run old new now t
    rw [Routes.rename_of_taken taken] at run
    rw [outcome_of_error run, after_of_error run]
    exact ⟨rfl, rfl⟩
  missing free missing := by
    have run := rename_run old new now t
    rw [Routes.rename_of_missing free missing] at run
    rw [outcome_of_error run, after_of_error run]
    exact ⟨rfl, rfl⟩
  moved m free mounted := by
    obtain ⟨routes, renamed⟩ := Routes.exists_rename free mounted now
    have run := rename_run old new now t
    rw [renamed] at run
    obtain ⟨-, n, found, moved⟩ := Routes.of_rename renamed
    obtain rfl := Option.some.inj (mounted.symm.trans found)
    rw [outcome_of_ok run, after_of_ok run]
    exact ⟨rfl, moved⟩

/-- Whatever a new table was asked for, it is as it should be. -/
theorem serve_orderly (requests : List MountRequest) : (MountTable.new.serve requests).Orderly where
  clean p m kept := by
    have built : (MountTable.new.serve requests).current.Built := built_serve .empty requests
    exact ⟨isCleanPath_text p, built.path_eq ((Dict.mem_entries_iff _ p m).mp kept)⟩
  renames := renames _
  shows later := by
    have shown := shown_snapshot (versions_prefix_serve (MountTable.new.serve requests) later)
    refine ⟨fun path => ?_, fun usage path => ?_, fun path => ?_⟩
    · rw [resolve?, shown]
    · rw [impliedDirectories, shown]
    · rw [leadsToMount, shown]

/-- A snapshot still shows a mount that was removed. -/
example :
    let mounted := MountTable.new.serve [.mount "data//x" ⟨0⟩ 1]
    let removed := mounted.serve [.unmount "/data/x/"]
    removed.leadsToMount mounted.snapshot "/data" = true ∧
      removed.leadsToMount removed.snapshot "/data" = false := by
  decide +kernel

end MountTable

end StorageGateway
