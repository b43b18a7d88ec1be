import StorageGateway.Proofs.Account.BuiltIn

/-!
# Built-in roles are protected

Once a store holds the built-in roles, each of their names belongs to one role, under its own id,
whatever requests follow. A change that would create, rename or delete one of them, or give its name
to another role, is refused before anything is stored. Main statement: `protected_roles_persist`.
-/

namespace StorageGateway

/-- A change would create a built-in role, give it another name, give its name to another role, or
delete it. -/
def AccountChange.Touches (builtIn : Role) (s : AccountStore) : AccountChange → Prop
  | addRole role => role.name = builtIn.name
  | changeRole requested =>
    requested.id = builtIn.id ∧ requested.name ≠ builtIn.name ∨
      requested.id ≠ builtIn.id ∧ requested.name = builtIn.name ∧
        ∃ current, s.role requested.id = .ok current
  | removeRole id => id = builtIn.id
  | _ => False

namespace Role

theorem Preset.isBuiltIn {builtIn role : Role} (preset : builtIn.Preset)
    (named : role.name = builtIn.name) : role.isBuiltIn = true := by
  rw [Role.isBuiltIn, named]
  rcases preset with rfl | rfl <;> decide

/-- No role is renamed from or to a protected name. -/
theorem checkRename_eq_error {current requested : Role} (renames : requested.name ≠ current.name)
    (guarded : current.isBuiltIn = true ∨ requested.isBuiltIn = true) :
    ∃ reason, current.checkRename requested = .error (.protectedRole reason) := by
  rw [checkRename]
  by_cases visitor : current.name = guestName
  · rw [if_pos visitor, if_neg fun still => renames (still.trans visitor.symm)]
    exact ⟨_, rfl⟩
  · rw [if_neg visitor]
    cases builtIn : current.isBuiltIn with
    | true => exact ⟨_, rfl⟩
    | false =>
      have takes : requested.isBuiltIn = true := guarded.resolve_left (by simp [builtIn])
      rw [if_neg Bool.false_ne_true, if_pos takes]
      exact ⟨_, rfl⟩

end Role

namespace AccountStore

variable {s : AccountStore} {builtIn : Role}

/-- The name of a built-in role that is stored belongs to its number alone. -/
theorem Holds.roleName?_iff (holds : s.Holds builtIn) (distinct : s.Distinct) (n : Nat) :
    s.roleName? n = some builtIn.name ↔ n = builtIn.id.val := by
  obtain ⟨role, found, named⟩ := holds
  constructor
  · intro also
    by_contra differ
    have free := (distinct.of_role found).2.2
    rw [named, ← Bool.not_eq_true, roleElsewhere_iff] at free
    exact free ⟨n, differ, also⟩
  · rintro rfl
    rw [roleName?_of_role found, named]

end AccountStore

namespace Accounting

open Accounts AccountStore

variable {a : Accounts} {builtIn : Role}

/-! ## Changes that are refused -/

/-- A request is refused for the sake of a built-in role, and the store stays as it is. -/
def Protects {α : Type} (x : Accounting α) (a : Accounts) : Prop :=
  ∃ reason b, x a = .error (.protectedRole reason) b ∧ b.store = a.store

theorem Protects.discard {α : Type} {x : Accounting α} (protects : Protects x a) :
    Protects (Functor.discard x : Accounting Unit) a := by
  obtain ⟨reason, b, run, stored⟩ := protects
  exact ⟨reason, b, by rw [discard_run, run], stored⟩

theorem protects_addRole (served : a.refused = []) {role : Role} (guarded : role.isBuiltIn = true) :
    Protects (addRole role) a :=
  ⟨_, a, by rw [addRole_run served, if_pos guarded], rfl⟩

theorem protects_changeRole (served : a.refused = []) (distinct : a.store.Distinct)
    {requested current : Role} (found : a.store.role requested.id = .ok current)
    (renames : requested.name ≠ current.name)
    (guarded : current.isBuiltIn = true ∨ requested.isBuiltIn = true) :
    Protects (changeRole requested) a := by
  obtain ⟨reason, refused⟩ := Role.checkRename_eq_error renames guarded
  refine ⟨reason, a.called .roleOfId a.store, ?_, rfl⟩
  rw [changeRole_run served distinct, found]
  dsimp only
  rw [Role.planUpdate_of_checkRename refused]

theorem protects_removeRole (served : a.refused = []) {id : RoleId} {role : Role}
    (found : a.store.role id = .ok role) (guarded : role.isBuiltIn = true) :
    Protects (removeRole id) a := by
  refine ⟨.delete role.name, a.called .roleOfId a.store, ?_, rfl⟩
  rw [removeRole_run served, found]
  exact if_pos guarded

/-- A change that would touch a built-in role in its place is refused. -/
theorem protects_of_touches (served : a.refused = []) (distinct : a.store.Distinct)
    (preset : builtIn.Preset) (holds : a.store.Holds builtIn) {change : AccountChange}
    (touches : change.Touches builtIn a.store) : Protects change.run a := by
  obtain ⟨role, found, named⟩ := holds
  have guarded := preset.isBuiltIn named
  cases change with
  | addRole new => exact (protects_addRole served (preset.isBuiltIn touches)).discard
  | changeRole requested =>
    rcases touches with ⟨own, renames⟩ | ⟨other, takes, current, known⟩
    · have renamed : requested.name ≠ role.name := fun still => renames (still.trans named)
      exact (protects_changeRole served distinct (own ▸ found) renamed (.inl guarded)).discard
    · -- the name belongs to another id, so it is not the one that the role had
      have renamed : requested.name ≠ current.name := by
        intro still
        have place := (roleName?_of_role known).trans (congrArg some (still.symm.trans takes))
        exact other (congrArg RoleId.mk
          ((Holds.roleName?_iff ⟨role, found, named⟩ distinct _).mp place))
      exact (protects_changeRole served distinct known renamed
        (.inr (preset.isBuiltIn takes))).discard
  | removeRole id =>
    have place : id = builtIn.id := touches
    exact protects_removeRole served (place ▸ found) guarded
  | _ => exact touches.elim

/-! ## Every course of requests -/

/-- From a store that holds the built-in roles, after any requests, successful or not, each of their
names belongs to the role of its own id alone, and a change that would touch one of them is refused
and leaves the store as it is, as long as no count of numbers comes round. -/
theorem protected_roles_persist (served : a.refused = []) (reached : a.store.ReachedInRange)
    (held : ∀ builtIn : Role, builtIn.Preset → a.store.Holds builtIn)
    {requests : List AccountRequest} (inRange : a.InRange requests) :
    let b := a.serve requests
    ∀ builtIn : Role, builtIn.Preset →
      b.store.Holds builtIn ∧
        (∀ n, b.store.roleName? n = some builtIn.name ↔ n = builtIn.id.val) ∧
        ∀ change : AccountChange, change.Touches builtIn b.store → Protects change.run b := by
  obtain ⟨servedAfter, sound, holds⟩ := serve_of_rolesGo
    (P := fun a => ∀ builtIn : Role, builtIn.Preset → a.store.Holds builtIn) inRange
    (fun _ sound _ go held builtIn preset => go.holds sound preset (held builtIn preset))
    ⟨served, reached.sound, held⟩
  intro b builtIn preset
  have place := holds builtIn preset
  exact ⟨place, place.roleName?_iff sound.distinct, fun _ touches =>
    protects_of_touches servedAfter sound.distinct preset place touches⟩

theorem reached_builtInRows : builtInRows.ReachedInRange :=
  .putRole .admin (.putRole .guest .noRows trivial) trivial

/-- The guest role is to become `team`, another role is to become `admin`, and the path above all
scopes moves. -/
def builtInsUnderAttack : List AccountRequest :=
  [.change (.addRole ⟨⟨0⟩, "team", "", [⟨"/team", .none⟩]⟩),
    .change (.changeRole { Role.guest with name := "team" }),
    .change (.changeRole ⟨⟨3⟩, "admin", "", []⟩),
    .change (.removeRole .admin),
    .change (.movePath .root (.ofText "/x"))]

theorem protected_roles_persist_underAttack :
    let a := Accounts.new builtInRows 60 60
    a.refused = [] ∧ a.store.ReachedInRange ∧
      (∀ builtIn : Role, builtIn.Preset → a.store.Holds builtIn) ∧
      a.InRange builtInsUnderAttack ∧
      let b := a.serve builtInsUnderAttack
      ∀ builtIn : Role, builtIn.Preset →
        b.store.Holds builtIn ∧
          (∀ n, b.store.roleName? n = some builtIn.name ↔ n = builtIn.id.val) ∧
          ∀ change : AccountChange, change.Touches builtIn b.store → Protects change.run b :=
  have held : ∀ builtIn : Role, builtIn.Preset → builtInRows.Holds builtIn :=
    fun _ preset => bootstrapped_builtInRows.furnished.holds preset
  have inRange : (Accounts.new builtInRows 60 60).InRange builtInsUnderAttack := by decide
  ⟨rfl, reached_builtInRows, held, inRange,
    protected_roles_persist (a := .new builtInRows 60 60) rfl reached_builtInRows held inRange⟩

theorem reached_lateRecords : lateRecords.ReachedInRange :=
  .putRole .admin
    (.putRole .guest (.putRole lateRole .noRecords (by decide)) (by decide)) (by decide)

/-- Once the count of role numbers has come round, a new role takes the place of the guest role. -/
theorem guest_replaced_by_newRole :
    lateRecords.ReachedInRange ∧
      (∀ builtIn : Role, builtIn.Preset → lateRecords.Holds builtIn) ∧
      let b := (Accounts.new lateRecords 60 60).serve threeMore
      b.store.role .guest = .ok ⟨.guest, "three", "", []⟩ ∧
        b.store.roleNamed Role.guestName = .error (.roleNotFound Role.guestName) :=
  ⟨reached_lateRecords, fun _ preset => bootstrapped_lateRecords.furnished.holds preset, rfl, rfl⟩

end Accounting

end StorageGateway
