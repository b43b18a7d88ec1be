import StorageGateway.Proofs.Account.BuiltIn
import StorageGateway.Proofs.Gateway.MoveMount

/-!
# The administrator role keeps its permissions

No update touches the built-in role of the administrator, but its scope follows like any other when
a path moves, and the scope is the root. So the role grants all its permissions everywhere until the
root itself is moved, be it by a mount that is moved or by a path. Main statement:
`admin_role_full_iff`.
-/

namespace StorageGateway

/-! ## Full permissions -/

/-- A role grants the mask of the administrator at every path. -/
def Role.GrantsAll (role : Role) : Prop :=
  ∀ p, ((⟨[role]⟩ : Clearance).effective p).union Role.adminMask =
    (⟨[role]⟩ : Clearance).effective p

/-- The stored administrator role grants its full mask at every path. -/
def AccountStore.AdminRoleFull (s : AccountStore) : Prop :=
  ∃ role, s.roleNamed Role.adminName = .ok role ∧ role.id = .admin ∧ role.GrantsAll

/-! ## Changes -/

/-- A request moves the root elsewhere, and the roles can be listed, so that they follow. -/
def AccountRequest.Uproots (request : AccountRequest) (a : Accounts) : Prop :=
  ∃ new, request.Moves .root new ∧ new ≠ .root ∧ ∃ roles, a.store.allRoles = .ok roles

/-- A change of the gateway by an administrator. -/
inductive GatewayChange where
  | account (request : AccountRequest)
  | moveMount (old new : Path) (now : Time)
  | mount (p : Path) (b : Backend) (now : Time)
  | unmount (p : Path)

namespace GatewayChange

/-- Carry out a change. -/
def run : GatewayChange → Serving Unit
  | account request => Serving.account request.run
  | moveMount old new now => discard (Serving.moveMount old new now)
  | mount p b now => modify fun g => g.mount p b now
  | unmount p => modify fun g => { g with routes := g.routes.unmount p }

/-- The request to the accounts that a change comes to, if it comes to one. -/
def request? : GatewayChange → Gateway → Option AccountRequest
  | account request, _ => some request
  | moveMount old new now, g =>
    match g.routes.rename old new now with
    | .ok _ => some (.change (.movePath old new))
    | .error _ => none
  | mount _ _ _, _ => none
  | unmount _, _ => none

/-- A change moves the root elsewhere, and the roles follow. -/
def Uproots (change : GatewayChange) (g : Gateway) : Prop :=
  ∃ request, change.request? g = some request ∧ request.Uproots g.accounts

/-- Whether the store can carry out a change before one of its counts of numbers comes round. -/
def HasRoom (change : GatewayChange) (g : Gateway) : Prop :=
  ∀ request ∈ change.request? g, request.HasRoom g.accounts.store

instance (change : GatewayChange) (g : Gateway) : Decidable (change.HasRoom g) :=
  inferInstanceAs (Decidable (∀ request ∈ change.request? g, request.HasRoom g.accounts.store))

end GatewayChange

namespace Gateway

/-- The gateway after changes, one after another. -/
def serve (g : Gateway) (changes : List GatewayChange) : Gateway :=
  changes.foldl (fun g change => after change.run g) g

/-- No count of numbers comes round in a course of changes. -/
def InRange (g : Gateway) (changes : List GatewayChange) : Prop :=
  Throughout (fun g change => after change.run g) (fun change g => change.HasRoom g) g changes

instance (g : Gateway) (changes : List GatewayChange) : Decidable (g.InRange changes) :=
  inferInstanceAs (Decidable (Throughout ..))

end Gateway

namespace Serving

theorem accounts_after_account {α : Type} (x : Accounting α) (g : Gateway) :
    (after (account x) g).accounts = after x g.accounts := by
  rw [after, after, account]
  cases x g.accounts <;> rfl

/-- A change leaves the accounts, or leaves them as its request does. -/
theorem accounts_after (change : GatewayChange) (g : Gateway) :
    (after change.run g).accounts =
      match change.request? g with
      | some request => after request.run g.accounts
      | none => g.accounts := by
  cases change with
  | account request => exact accounts_after_account request.run g
  | moveMount old new now =>
    rw [GatewayChange.run, after_discard, after, moveMount_eq, GatewayChange.request?]
    cases g.routes.rename old new now with
    | error e => rfl
    | ok routes =>
      rw [← after, accounts_after_account]
      exact (after_discard _ _).symm
  | mount p b now => rfl
  | unmount p => rfl

end Serving

/-! ## The built-in role -/

namespace Role

variable {role : Role}

theorem scope_covers_root (p : Path) (mask : PermissionSet) :
    (⟨"/", mask⟩ : Scope).covers p = true := by
  have root : Path.ofText "/" = .root := by decide
  rw [Scope.covers, root]
  exact Path.root_covers p

theorem grantsAll_admin : admin.GrantsAll := by
  intro p
  have covers : (⟨"/", adminMask⟩ : Scope).covers p = true := scope_covers_root p adminMask
  have effective : (⟨[admin]⟩ : Clearance).effective p = adminMask := by
    have held : (⟨[admin]⟩ : Clearance).scopes = [⟨"/", adminMask⟩] := rfl
    rw [Clearance.effective, held,
      List.filter_cons_of_pos (p := fun scope : Scope => scope.covers p) covers]
    rfl
  rw [effective]
  decide

/-- The scope of the administrator role follows only if the root moves. -/
theorem follow_admin (old new : Path) :
    admin.follow old new =
      { admin with scopes := [⟨if old = .root then new.text else "/", adminMask⟩] } := by
  have scope : (⟨"/", adminMask⟩ : Scope).follow old new =
      ⟨if old = .root then new.text else "/", adminMask⟩ := by
    rw [Scope.follow]
    cases moved : (Path.ofText "/").follow? old new with
    | none =>
      rw [Path.follow?_eq_none_iff] at moved
      rw [if_neg]
      rintro rfl
      rw [Path.root_covers] at moved
      contradiction
    | some target =>
      have follows := Path.follow?_eq_some_iff.mp moved
      have start : old = .root := Path.covers_antisymm follows.covers (Path.root_covers old)
      subst start
      rw [if_pos rfl, ← Path.Follows.eq_new follows]
  rw [follow, admin, List.map_singleton, scope]

theorem follow_admin_of_rooted {old new : Path} (rooted : old = .root → new = .root) :
    admin.follow old new = admin := by
  rw [follow_admin]
  by_cases start : old = .root
  · rw [if_pos start, rooted start]
    rfl
  · rw [if_neg start]
    rfl

/-- Once its scope has followed, the role grants nothing at the root. -/
theorem not_grantsAll_follow_admin {new : Path} (elsewhere : new ≠ .root) :
    ¬ (admin.follow .root new).GrantsAll := by
  intro grants
  have apart : (⟨new.text, adminMask⟩ : Scope).covers .root = false := by
    rw [Scope.covers, Path.ofText_text, ← Bool.not_eq_true]
    exact fun covers => elsewhere (Path.covers_antisymm covers (Path.root_covers new))
  have effective : (⟨[admin.follow .root new]⟩ : Clearance).effective .root = .none := by
    rw [follow_admin, if_pos rfl]
    simp only [Clearance.effective, Clearance.scopes, List.flatMap_singleton]
    rw [List.filter_cons_of_neg (by simp [apart])]
    rfl
  have same := grants .root
  rw [effective] at same
  exact absurd same (by decide)

/-- The administrator role is never updated. -/
theorem planUpdate_admin (requested : Role) {plan : RoleUpdate} :
    admin.planUpdate requested ≠ .ok plan := by
  rw [planUpdate_of_checkRename (e := .protectedRole (.modify adminName)) rfl]
  exact fun same => by contradiction

end Role

namespace Accounts

open AccountStore

variable {a b : Accounts} {request : AccountRequest}

/-- Unless paths move, no step touches the administrator role. -/
theorem RolesGo.role_admin (go : a.RolesGo b request) (sound : a.store.Sound)
    (still : ∀ old new, ¬ request.Moves old new) (intact : a.store.role .admin = .ok .admin) :
    b.store.role .admin = .ok .admin := by
  cases go with
  | stay same _ => exact (same.role _).trans intact
  | refuse _ stored _ => rw [stored, role_withoutNewRole, intact]
  | add _ _ _ _ stored _ =>
    have apart : RoleId.admin.val ≠ a.store.roleNumber 0 := Nat.ne_of_lt (sound.role_below intact)
    rw [stored, role_withRole, if_neg apart, intact]
  | @change requested current plan found planned stored _ =>
    have apart : RoleId.admin.val ≠ requested.id.val := by
      intro same
      rw [← show RoleId.admin = requested.id from congrArg RoleId.mk same, intact] at found
      cases found
      exact Role.planUpdate_admin requested planned
    rw [stored, role_withRole, if_neg apart, intact]
  | @ensure builtIn preset _ stored _ =>
    rw [stored, role_withRole]
    rcases preset with rfl | rfl
    · exact (if_neg (by decide)).trans intact
    · exact (if_pos rfl).trans (if_pos (a.store.canTell_of_lt (by decide)))
  | @erase id gone found ordinary stored _ =>
    have apart : RoleId.admin.val ≠ id.val := by
      intro same
      rw [← show RoleId.admin = id from congrArg RoleId.mk same, intact] at found
      cases found
      contradiction
    rw [stored, role_withoutRole _ _ apart, intact]
  | follow moves _ _ _ => exact absurd moves (still _ _)

end Accounts

namespace Accounting

open Accounts AccountStore

variable {a : Accounts} {request : AccountRequest}

/-- When scopes move, every role follows, unless the roles cannot be listed. -/
theorem sameRoles_after_moveScopes (served : a.refused = []) (sound : a.store.Sound)
    (old new : Path) :
    (after (moveScopes old new) a).store.SameRoles
      (match a.store.allRoles with
      | .ok _ => a.store.followRoles old new
      | .error _ => a.store) := by
  have moved := moveScopes_run served sound old new
  cases all : a.store.allRoles with
  | error e =>
    rw [all] at moved
    rw [after_of_error moved]
    exact .refl _
  | ok roles =>
    rw [all] at moved
    obtain ⟨b, run, store, -⟩ := moved
    rw [after_of_ok run, store]
    exact .refl _

/-- When a path moves, base paths follow as well, which leaves the roles. -/
theorem sameRoles_after_movePath (served : a.refused = []) (sound : a.store.Sound)
    (old new : Path) :
    (after (movePath old new) a).store.SameRoles
      (match a.store.allRoles with
      | .ok _ => a.store.followRoles old new
      | .error _ => a.store) := by
  have moved := movePath_run served sound old new
  cases all : a.store.allRoles with
  | error e =>
    rw [all] at moved
    rw [after_of_error moved]
    exact .refl _
  | ok roles =>
    rw [all] at moved
    cases listed : a.store.allUsers with
    | error e =>
      rw [listed] at moved
      obtain ⟨b, run, store⟩ := moved
      rw [after_of_error run, store]
      exact .refl _
    | ok users =>
      rw [listed] at moved
      obtain ⟨b, run, store, -⟩ := moved
      rw [after_of_ok run, store]
      exact sameRoles_followUsers old new _

theorem role_after_move (served : a.refused = []) (sound : a.store.Sound) {old new : Path}
    (moves : request.Moves old new) (id : RoleId) :
    (after request.run a).store.role id =
      match a.store.allRoles with
      | .ok _ => (a.store.role id).map fun role => role.follow old new
      | .error _ => a.store.role id := by
  have same : (after request.run a).store.SameRoles
      (match a.store.allRoles with
      | .ok _ => a.store.followRoles old new
      | .error _ => a.store) := by
    rcases moves with rfl | rfl
    · rw [AccountRequest.run, AccountChange.run, after_discard]
      exact sameRoles_after_moveScopes served sound old new
    · rw [AccountRequest.run, AccountChange.run, after_discard]
      exact sameRoles_after_movePath served sound old new
  rw [same.role]
  cases a.store.allRoles with
  | error e => rfl
  | ok roles => exact role_followRoles _ _ _ _

theorem sound_after (served : a.refused = []) (sound : a.store.Sound)
    (room : request.HasRoom a.store) :
    (after request.run a).refused = [] ∧ (after request.run a).store.Sound := by
  have kept := kept_of_rolesGo (P := fun _ => True) (fun _ _ _ fact => fact) room
    ⟨served, sound, trivial⟩
  exact ⟨kept.1, kept.2.1⟩

/-- The administrator role stays as it is, unless the root moves. -/
theorem role_admin_after (served : a.refused = []) (sound : a.store.Sound)
    (room : request.HasRoom a.store) (intact : a.store.role .admin = .ok .admin)
    (rooted : ¬ request.Uproots a) :
    (after request.run a).store.role .admin = .ok .admin := by
  by_cases moves : ∃ old new, request.Moves old new
  · obtain ⟨old, new, moves⟩ := moves
    rw [role_after_move served sound moves]
    cases all : a.store.allRoles with
    | error e => exact intact
    | ok roles =>
      have stays : old = .root → new = .root := by
        rintro rfl
        by_contra elsewhere
        exact rooted ⟨new, moves, elsewhere, roles, all⟩
      dsimp only
      rw [intact, Except.map, Role.follow_admin_of_rooted stays]
  · have still : ∀ old new, ¬ request.Moves old new := fun old new here => moves ⟨old, new, here⟩
    exact (kept_of_rolesGo (P := fun a => a.store.role .admin = .ok .admin)
      (fun sound _ go => go.role_admin sound still) room ⟨served, sound, intact⟩).2.2

/-- If the root moves, the administrator role moves away with it. -/
theorem role_admin_of_uproots (served : a.refused = []) (sound : a.store.Sound)
    (intact : a.store.role .admin = .ok .admin) (uproots : request.Uproots a) :
    ∃ new, new ≠ .root ∧
      (after request.run a).store.role .admin = .ok (Role.admin.follow .root new) := by
  obtain ⟨new, moves, elsewhere, roles, all⟩ := uproots
  refine ⟨new, elsewhere, ?_⟩
  rw [role_after_move served sound moves, all, intact]
  rfl

end Accounting

namespace Serving

open AccountStore Accounting

variable {g : Gateway}

/-- While the administrator role is as it is built in, it is full. -/
theorem adminRoleFull_of_intact {s : AccountStore} (distinct : s.Distinct)
    (intact : s.role .admin = .ok .admin) : s.AdminRoleFull :=
  ⟨.admin, (roleNamed_eq_ok_iff distinct).mpr ⟨intact, rfl⟩, rfl, Role.grantsAll_admin⟩

/-- Once it has followed the root elsewhere, it is not. -/
theorem not_adminRoleFull_of_moved {s : AccountStore} (distinct : s.Distinct) {new : Path}
    (elsewhere : new ≠ .root) (moved : s.role .admin = .ok (Role.admin.follow .root new)) :
    ¬ s.AdminRoleFull := by
  rintro ⟨role, told, own, grants⟩
  have found := ((roleNamed_eq_ok_iff distinct).mp told).1
  rw [own, moved] at found
  cases found
  exact Role.not_grantsAll_follow_admin elsewhere grants

/-- Throughout a course of changes, successful or not, the stored administrator role grants its full
mask at every path exactly if none of the changes moves the root elsewhere, as long as no count of
numbers comes round. -/
theorem admin_role_full_iff (served : g.accounts.refused = [])
    (reached : g.accounts.store.ReachedInRange) (intact : g.accounts.store.role .admin = .ok .admin)
    {changes : List GatewayChange} (inRange : g.InRange changes) :
    (∀ done, done <+: changes → (g.serve done).accounts.store.AdminRoleFull) ↔
      ∀ done change, done ++ [change] <+: changes → ¬ change.Uproots (g.serve done) := by
  have first : g.accounts.refused = [] ∧ g.accounts.store.Sound ∧
      g.accounts.store.role .admin = .ok .admin := ⟨served, reached.sound, intact⟩
  refine forall_moments_iff (f := fun g (change : GatewayChange) => after change.run g)
    (C := fun change g => change.HasRoom g)
    (P := fun g => g.accounts.refused = [] ∧ g.accounts.store.Sound ∧
      g.accounts.store.role .admin = .ok .admin)
    (Q := fun g => g.accounts.store.AdminRoleFull)
    (fun kept => adminRoleFull_of_intact kept.2.1.distinct kept.2.2) ?_ ?_ first inRange
  · rintro g change room ⟨served, sound, intact⟩ rooted
    rw [accounts_after]
    cases asked : change.request? g with
    | none => exact ⟨served, sound, intact⟩
    | some request =>
      have room := room request asked
      obtain ⟨servedAfter, soundAfter⟩ := sound_after served sound room
      exact ⟨servedAfter, soundAfter, role_admin_after served sound room intact fun uproots =>
        rooted ⟨request, asked, uproots⟩⟩
  · rintro g change room ⟨served, sound, intact⟩ ⟨request, asked, uproots⟩ full
    rw [accounts_after, asked] at full
    obtain ⟨-, soundAfter⟩ := sound_after served sound (room request asked)
    obtain ⟨new, elsewhere, moved⟩ := role_admin_of_uproots served sound intact uproots
    exact not_adminRoleFull_of_moved soundAfter.distinct elsewhere moved full

/-- A gateway with the built-in roles and with a backend at the root. -/
def rootMounted : Gateway :=
  (after ensureBuiltIns (Gateway.new default (records .empty) default)).mount .root
    (.memory (.new 0)) 0

theorem reached_rootMounted : rootMounted.accounts.store.ReachedInRange :=
  .putRole .admin (.putRole .guest .noRecords (by decide)) (by decide)

/-- The backend moves away from the root. -/
def rootMoves : List GatewayChange := [.moveMount .root (.ofText "/x") 0]

theorem admin_role_full_iff_rootMoves :
    rootMounted.accounts.refused = [] ∧ rootMounted.accounts.store.ReachedInRange ∧
      rootMounted.accounts.store.role .admin = .ok .admin ∧ rootMounted.InRange rootMoves ∧
      ((∀ done, done <+: rootMoves → (rootMounted.serve done).accounts.store.AdminRoleFull) ↔
        ∀ done change, done ++ [change] <+: rootMoves →
          ¬ change.Uproots (rootMounted.serve done)) :=
  ⟨rfl, reached_rootMounted, rfl, by decide,
    admin_role_full_iff rfl reached_rootMounted rfl (by decide)⟩

/-- The scope of the administrator role has moved away with the backend. -/
theorem admin_weakened_by_rootMoves :
    rootMounted.accounts.store.ReachedInRange ∧
      rootMounted.accounts.store.role .admin = .ok .admin ∧
      (rootMounted.serve rootMoves).accounts.store.role .admin =
        .ok { Role.admin with scopes := [⟨"/x", Role.adminMask⟩] } ∧
      ¬ (rootMounted.serve rootMoves).accounts.store.AdminRoleFull := by
  have moved : (rootMounted.serve rootMoves).accounts.store.role .admin =
      .ok (Role.admin.follow .root (.ofText "/x")) := rfl
  have distinct : (rootMounted.serve rootMoves).accounts.store.Distinct :=
    reached_rootMounted.sound.distinct.followRoles .root (.ofText "/x")
  exact ⟨reached_rootMounted, rfl, moved, not_adminRoleFull_of_moved distinct (by decide) moved⟩

end Serving

end StorageGateway
