import StorageGateway.Proofs.Account.Steps

/-!
# Built-in roles in their places

A built-in role has an id of its own, and no other role comes to have its name. Once it is stored,
no request renames or deletes it or stores it anew. Main statements: `Accounts.RolesGo.holds` and
`Bootstrapped.furnished`.
-/

namespace StorageGateway

namespace AccountStore

variable {s : AccountStore} {builtIn : Role}

/-! ## Roles after changes -/

theorem role_withoutRole_self (s : AccountStore) (id : RoleId) :
    (s.withoutRole id.val).role id = .error (.roleNotFound (toString id)) := by
  cases s with
  | records s =>
    simp only [withoutRole, AccountStore.role, RecordStore.role, Roster.get?_erase, if_pos]
  | rows s => simp only [withoutRole, AccountStore.role, RowStore.role, Roster.get?_erase, if_pos]

/-! ## What keeps built-in roles apart -/

/-- Every role that has an id of 32 bits can be read. -/
def Legible (s : AccountStore) : Prop :=
  ∀ id : RoleId, id.val < idLimit → s.role id ≠ .error .store

/-- The name of a built-in role belongs to no role of another id, be it readable or not. -/
def Reserves (s : AccountStore) : Prop :=
  ∀ ⦃builtIn : Role⦄ ⦃n : Nat⦄, builtIn.Preset → s.roleName? n = some builtIn.name →
    n = builtIn.id.val

/-- Roles can be read as far as they have ids, and built-in names are reserved. -/
structure Orderly (s : AccountStore) : Prop where
  legible : s.Legible
  reserves : s.Reserves

/-- Records can always be read. -/
theorem legible_records (s : RecordStore) : (records s).Legible := by
  intro id _ told
  rw [AccountStore.role, RecordStore.role] at told
  split at told
  · contradiction
  · cases told

theorem orderly_noRecords : (records .empty).Orderly where
  legible := legible_records _
  reserves _ _ _ named := by contradiction

theorem orderly_noRows : (rows .empty).Orderly where
  legible _ _ told := nomatch Except.error.inj told
  reserves _ _ _ named := by contradiction

/-- A role of the name of a built-in one is stored under its id. -/
def Holds (s : AccountStore) (builtIn : Role) : Prop :=
  ∃ role, s.role builtIn.id = .ok role ∧ role.name = builtIn.name

theorem Legible.withRole (legible : s.Legible) (n : Nat) (role : Role) :
    (s.withRole n role).Legible := by
  intro id small
  rw [role_withRole]
  by_cases same : id.val = n
  · rw [if_pos same, if_pos (s.canTell_of_lt (same ▸ small))]
    exact fun told => by contradiction
  · rw [if_neg same]
    exact legible id small

/-- An ordinary role takes no built-in name. -/
theorem Reserves.withRole (reserves : s.Reserves) (n : Nat) {role : Role}
    (ordinary : role.isBuiltIn = false) : (s.withRole n role).Reserves := by
  intro builtIn m preset named
  rw [roleName?_withRole] at named
  split at named
  · exact absurd (Option.some.inj named) (preset.name_ne ordinary)
  · exact reserves preset named

theorem Holds.roleNamed (holds : s.Holds builtIn) (distinct : s.Distinct) :
    ∃ role, s.roleNamed builtIn.name = .ok role := by
  obtain ⟨role, found, named⟩ := holds
  have own : role.id = builtIn.id := (distinct.of_role found).1
  exact ⟨role, (roleNamed_eq_ok_iff distinct).mpr ⟨own ▸ found, named⟩⟩

end AccountStore

namespace Accounts.RolesGo

open AccountStore

variable {a b : Accounts} {request : AccountRequest}

theorem legible (go : a.RolesGo b request) (legible : a.store.Legible) : b.store.Legible := by
  cases go with
  | stay same _ => exact fun id small => same.role id ▸ legible id small
  | refuse _ stored _ =>
    intro id small
    rw [stored, role_withoutNewRole]
    exact legible id small
  | add _ _ _ _ stored _ => exact stored ▸ legible.withRole _ _
  | change _ _ stored _ => exact stored ▸ legible.withRole _ _
  | ensure _ _ stored _ => exact stored ▸ legible.withRole _ _
  | @erase gone _ _ _ stored _ =>
    intro id small
    rw [stored]
    by_cases same : id.val = gone.val
    · rw [← same, role_withoutRole_self]
      exact fun told => nomatch Except.error.inj told
    · rw [role_withoutRole _ _ same]
      exact legible id small
  | follow _ _ stored _ =>
    intro id small told
    rw [stored, role_followRoles] at told
    cases known : a.store.role id with
    | ok role =>
      rw [known] at told
      contradiction
    | error e =>
      rw [known] at told
      exact legible id small (known.trans (congrArg Except.error (Except.error.inj told)))

/-- Only the call that ensures a built-in role stores a role of its name, and under its id. -/
theorem named_before (go : a.RolesGo b request) {builtIn : Role} (preset : builtIn.Preset) {n : Nat}
    (named : b.store.roleName? n = some builtIn.name) :
    a.store.roleName? n = some builtIn.name ∨
      request = .ensureBuiltIns ∧ n = builtIn.id.val := by
  cases go with
  | stay same _ => exact .inl (same.roleName? n ▸ named)
  | refuse _ stored _ =>
    rw [stored, roleName?_withoutNewRole] at named
    exact .inl named
  | @add role _ _ ordinary _ stored _ =>
    rw [stored, roleName?_withRole] at named
    split at named
    · have taken : role.name = builtIn.name := Option.some.inj named
      exact absurd taken (preset.name_ne ordinary)
    · exact .inl named
  | change found planned stored _ =>
    rw [stored, roleName?_withRole] at named
    split at named
    · next here =>
      have taken := Option.some.inj named
      -- a role that keeps the name was in its place before; any other new name is an ordinary one
      rcases Role.name_of_planUpdate planned with still | ⟨ordinary, -⟩
      · rw [here, roleName?_of_role found, ← still, taken]
        exact .inl rfl
      · exact absurd taken (preset.name_ne ordinary)
    · exact .inl named
  | ensure also _ stored _ =>
    rw [stored, roleName?_withRole] at named
    split at named
    · next here =>
      rw [preset.eq_of_name also (Option.some.inj named).symm]
      exact .inr ⟨rfl, here⟩
    · exact .inl named
  | erase _ _ stored _ =>
    rw [stored, roleName?_withoutRole] at named
    split at named
    · contradiction
    · exact .inl named
  | follow _ _ stored _ =>
    rw [stored, roleName?_followRoles] at named
    exact .inl named

theorem reserves (go : a.RolesGo b request) (reserves : a.store.Reserves) : b.store.Reserves :=
  fun _ _ preset named => (go.named_before preset named).elim (reserves preset) And.right

theorem orderly (go : a.RolesGo b request) (orderly : a.store.Orderly) : b.store.Orderly where
  legible := go.legible orderly.legible
  reserves := go.reserves orderly.reserves

/-- A built-in role that is stored under its id stays there under its name. -/
theorem holds (go : a.RolesGo b request) (sound : a.store.Sound) {builtIn : Role}
    (preset : builtIn.Preset) (holds : a.store.Holds builtIn) : b.store.Holds builtIn := by
  obtain ⟨role, found, named⟩ := holds
  cases go with
  | stay same _ => exact ⟨role, (same.role builtIn.id).trans found, named⟩
  | refuse _ stored _ => exact ⟨role, by rw [stored, role_withoutNewRole, found], named⟩
  | add _ _ _ _ stored _ =>
    have apart : builtIn.id.val ≠ a.store.roleNumber 0 :=
      fun same => sound.role_next role (same ▸ found)
    exact ⟨role, by rw [stored, role_withRole, if_neg apart, found], named⟩
  | @change requested current plan known planned stored _ =>
    by_cases same : builtIn.id = requested.id
    · rw [same, known] at found
      cases found
      rcases Role.name_of_planUpdate planned with still | ⟨-, ordinary⟩
      · refine ⟨{ plan.role with id := requested.id }, ?_, still.trans named⟩
        rw [stored, role_withRole, if_pos (congrArg RoleId.val same),
          if_pos (same ▸ a.store.canTell_of_lt preset.fits)]
      · exact absurd named (preset.name_ne ordinary)
    · have apart : builtIn.id.val ≠ requested.id.val := fun number => same (congrArg RoleId.mk number)
      exact ⟨role, by rw [stored, role_withRole, if_neg apart, found], named⟩
  | @ensure other also _ stored _ =>
    -- to ensure the role anew puts it where it is
    by_cases same : builtIn.id.val = other.id.val
    · obtain rfl := preset.eq_of_id also (congrArg RoleId.mk same)
      refine ⟨builtIn, ?_, rfl⟩
      rw [stored, role_withRole, if_pos rfl, if_pos (a.store.canTell_of_lt preset.fits)]
    · exact ⟨role, by rw [stored, role_withRole, if_neg same, found], named⟩
  | @erase id gone known ordinary stored _ =>
    have apart : builtIn.id.val ≠ id.val := by
      intro same
      rw [show builtIn.id = id from congrArg RoleId.mk same, known] at found
      cases found
      exact absurd named (preset.name_ne ordinary)
    exact ⟨role, by rw [stored, role_withoutRole _ _ apart, found], named⟩
  | @follow _ _ old new _ _ stored _ =>
    refine ⟨role.follow old new, ?_, named⟩
    rw [stored, role_followRoles, found]
    rfl

end Accounts.RolesGo

namespace Accounting

open Accounts AccountStore

variable {a : Accounts}

/-- In an orderly store a built-in role is ensured with success, and it is in its place then. -/
theorem ensureRole_ok (served : a.refused = []) (sound : a.store.Sound) (orderly : a.store.Orderly)
    {builtIn : Role} (preset : builtIn.Preset) :
    ∃ b, ensureRole builtIn a = .ok () b ∧ b.store.Holds builtIn := by
  rw [ensureRole_run served]
  dsimp only
  cases told : a.store.roleNamed builtIn.name with
  | ok role =>
    obtain ⟨found, named⟩ := (roleNamed_eq_ok_iff sound.distinct).mp told
    have place : role.id = builtIn.id := congrArg RoleId.mk
      (orderly.reserves preset ((roleName?_of_role found).trans (congrArg some named)))
    exact ⟨_, rfl, role, place ▸ found, named⟩
  | error e =>
    have small := a.store.canTell_of_lt preset.fits
    rcases of_roleNamed_error told with ⟨rfl, missing⟩ | ⟨n, named, unreadable⟩
    · have free : a.store.roleElsewhere builtIn.id.val builtIn.name = false := by
        rw [← Bool.not_eq_true, roleElsewhere_iff]
        exact fun ⟨n, _, named⟩ => missing n named
      dsimp only
      rw [putRole_of_positive preset.positive small, free]
      refine ⟨_, rfl, builtIn, ?_, rfl⟩
      change (a.store.withRole builtIn.id.val builtIn).role builtIn.id = _
      rw [role_withRole, if_pos rfl, if_pos small]
    · -- the role of the name has a small id, under which all can be read
      obtain rfl := orderly.reserves preset named
      exact absurd unreadable (orderly.legible _ preset.fits)

/-- In an orderly store both built-in roles are ensured with success. -/
theorem ensureBuiltIns_ok (served : a.refused = []) (sound : a.store.Sound)
    (orderly : a.store.Orderly) :
    ∃ b, ensureBuiltIns a = .ok () b ∧ ∀ builtIn : Role, builtIn.Preset → b.store.Holds builtIn := by
  obtain ⟨b, guest, guestB⟩ := ensureRole_ok served sound orderly (.inl rfl)
  have toB := (keeps_stepsTo_ensureRole (.inl rfl)).of_ok ⟨served, sound, .refl⟩ guest
  have orderlyB := toB.induction sound orderly fun _ next => next.roles.orderly
  obtain ⟨c, admin, adminC⟩ := ensureRole_ok toB.served toB.sound orderlyB (.inr rfl)
  -- the guest role is ensured first, and to ensure the other one leaves it in its place
  have toC := (keeps_stepsTo_ensureRole (.inr rfl)).of_ok ⟨toB.served, toB.sound, .refl⟩ admin
  have guestC := toC.induction toB.sound guestB fun sound next => next.roles.holds sound (.inl rfl)
  refine ⟨c, (bind_of_ok guest).trans admin, ?_⟩
  rintro builtIn (rfl | rfl)
  · exact guestC
  · exact adminC

end Accounting

namespace AccountStore

open Accounts Accounting

/-! ## Bootstrapped stores -/

/-- The stores that come about by requests from one whose roles can be read, the built-in names being
reserved, once the built-in roles were ensured and before a count of numbers comes round. -/
def Bootstrapped (s : AccountStore) : Prop :=
  ∃ (start : AccountStore) (before later : List AccountRequest)
    (roleLifetime userLifetime : Nat) (a : Accounts),
    start.ReachedInRange ∧ start.Orderly ∧
    (Accounts.new start roleLifetime userLifetime).InRange before ∧
    ensureBuiltIns ((Accounts.new start roleLifetime userLifetime).serve before) = .ok () a ∧
    a.InRange later ∧ (a.serve later).store = s

/-- A store in order, whose roles can be read and whose built-in roles are in their places. -/
structure Furnished (s : AccountStore) : Prop where
  sound : s.Sound
  legible : s.Legible
  holds : ∀ {builtIn : Role}, builtIn.Preset → s.Holds builtIn

/-- No step takes a built-in role away. -/
theorem Furnished.go {a b : Accounts} {request : AccountRequest} (furnished : a.store.Furnished)
    (sound : b.store.Sound) (go : a.RolesGo b request) : b.store.Furnished where
  sound := sound
  legible := go.legible furnished.legible
  holds preset := go.holds furnished.sound preset (furnished.holds preset)

/-- A bootstrapped store has its built-in roles, whatever requests it has served. -/
theorem Bootstrapped.furnished {s : AccountStore} (bootstrapped : s.Bootstrapped) : s.Furnished := by
  obtain ⟨start, before, later, roleLifetime, userLifetime, c, reached, ordered, firstInRange, run,
    lastInRange, rfl⟩ := bootstrapped
  let a := Accounts.new start roleLifetime userLifetime
  have first : a.refused = [] ∧ a.store.Sound ∧ a.store.Orderly := ⟨rfl, reached.sound, ordered⟩
  obtain ⟨served, sound, orderly⟩ := serve_of_rolesGo (P := fun a => a.store.Orderly) firstInRange
    (fun _ _ _ go => go.orderly) first
  obtain ⟨_, again, holds⟩ := ensureBuiltIns_ok served sound orderly
  obtain ⟨-, rfl⟩ := EStateM.Result.ok.inj (again.symm.trans run)
  have toC := keeps_stepsTo_ensureBuiltIns.of_ok ⟨served, sound, .refl⟩ run
  have orderlyC := toC.induction sound orderly fun _ next => next.roles.orderly
  have furnished : Furnished _ := ⟨toC.sound, orderlyC.legible, holds _⟩
  exact (serve_of_rolesGo (P := fun a => a.store.Furnished) lastInRange
    (fun _ _ sound go furnished => furnished.go sound go)
    ⟨toC.served, toC.sound, furnished⟩).2.2

end AccountStore

namespace Accounting

open Accounts AccountStore

/-- Tables with the built-in roles alone. -/
def builtInRows : AccountStore := (after ensureBuiltIns (.new (.rows .empty) 0 0)).store

theorem bootstrapped_builtInRows : builtInRows.Bootstrapped :=
  ⟨.rows .empty, [], [], 0, 0, _, .noRows, orderly_noRows, trivial, rfl, trivial, rfl⟩

/-! ## A count that is about to come round -/

/-- A role of the last number but one. -/
def lateRole : Role := ⟨⟨idLimit - 2⟩, "late", "", []⟩

/-- Records with a role of the last number but one and with the built-in roles. -/
def lateRecords : AccountStore :=
  (after ensureBuiltIns (.new (after (AccountStore.putRole lateRole) (.records .empty)) 0 0)).store

/-- Three more roles. They get the last number, zero and the number of the guest role. -/
def threeMore : List AccountRequest :=
  ["one", "two", "three"].map fun name => .change (.addRole ⟨⟨0⟩, name, "", []⟩)

theorem bootstrapped_lateRecords : lateRecords.Bootstrapped :=
  ⟨_, [], [], 0, 0, _, .putRole lateRole .noRecords (by decide),
    ⟨legible_records _, orderly_noRecords.reserves.withRole lateRole.id.val rfl⟩, trivial, rfl,
    trivial, rfl⟩

end Accounting

end StorageGateway
