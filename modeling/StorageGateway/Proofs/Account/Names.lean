import StorageGateway.Proofs.Account.LookUps

/-!
# Look-ups by name

Where names are distinct, a store answers the same whether a record is asked for by its id or by its
name. Main statements: `find_eq_ok_iff` for roles and `userNamed_eq_ok_iff` for users.
-/

namespace StorageGateway

namespace AccountStore

variable {s : AccountStore}

/-! ## Roles -/

theorem roleNamed_eq_ok_iff (distinct : s.Distinct) {name : String} {role : Role} :
    s.roleNamed name = .ok role ↔ s.role role.id = .ok role ∧ role.name = name := by
  cases s with
  | records s =>
    have stored : AccountStore.role (.records s) role.id = .ok role ↔ _ :=
      RecordStore.role_eq_ok_iff
    rw [stored, roleNamed, RecordStore.roleNamed]
    constructor
    · intro told
      cases search : s.roles.find? fun r => r.name == name with
      | none => simp [search] at told
      | some hit =>
        obtain ⟨n, found⟩ := hit
        rw [search] at told
        cases told
        obtain ⟨present, named⟩ := distinct.roles.find?_eq_some_iff.mp search
        rw [distinct.role_id present]
        exact ⟨present, named⟩
    · intro found
      rw [distinct.roles.find?_eq_some_iff.mpr found]
  | rows s =>
    have stored : AccountStore.role (.rows s) role.id = .ok role ↔ _ := RowStore.role_eq_ok_iff
    rw [stored, roleNamed, RowStore.roleNamed]
    constructor
    · intro told
      cases search : s.roles.find? fun row => row.name == name with
      | none => simp [search] at told
      | some hit =>
        obtain ⟨n, row⟩ := hit
        rw [search] at told
        obtain ⟨present, named⟩ := distinct.roles.find?_eq_some_iff.mp search
        obtain ⟨-, id, same, -⟩ := RoleColumns.role_eq_ok_iff.mp told
        rw [id]
        exact ⟨⟨row, present, told⟩, same.trans named⟩
    · rintro ⟨⟨row, present, reads⟩, named⟩
      obtain ⟨-, -, same, -⟩ := RoleColumns.role_eq_ok_iff.mp reads
      rw [distinct.roles.find?_eq_some_iff.mpr ⟨present, same.symm.trans named⟩]
      exact reads

/-- A role that can be read has its name under its id. -/
theorem roleName?_of_role {id : RoleId} {role : Role} (found : s.role id = .ok role) :
    s.roleName? id.val = some role.name := by
  cases s with
  | records s =>
    have present := RecordStore.role_eq_ok_iff.mp found
    rw [roleName?, present, Option.map_some]
  | rows s =>
    obtain ⟨row, present, reads⟩ := RowStore.role_eq_ok_iff.mp found
    obtain ⟨-, -, named, -⟩ := RoleColumns.role_eq_ok_iff.mp reads
    rw [roleName?, present, Option.map_some, named]

/-- A role is not told by its name because there is none, or because it cannot be read. -/
theorem of_roleNamed_error {name : String} {e : AccountError} (told : s.roleNamed name = .error e) :
    (e = .roleNotFound name ∧ ∀ n, s.roleName? n ≠ some name) ∨
      ∃ n, s.roleName? n = some name ∧ s.role ⟨n⟩ = .error .store := by
  cases s with
  | records s =>
    rw [roleNamed, RecordStore.roleNamed] at told
    cases search : s.roles.find? fun r => r.name == name with
    | some hit => simp [search] at told
    | none =>
      rw [search] at told
      refine .inl ⟨(Except.error.inj told).symm, fun n named => ?_⟩
      obtain ⟨role, present, rfl⟩ := Option.map_eq_some_iff.mp named
      simpa using Roster.find?_eq_none_iff.mp search n role present
  | rows s =>
    rw [roleNamed, RowStore.roleNamed] at told
    cases search : s.roles.find? fun row => row.name == name with
    | some hit =>
      obtain ⟨n, row⟩ := hit
      rw [search] at told
      obtain ⟨present, same⟩ := Roster.get?_of_find? search
      refine .inr ⟨n, ?_, ?_⟩
      · rw [roleName?, present, Option.map_some, eq_of_beq same]
      · rw [AccountStore.role, RowStore.role, present, ← RoleColumns.eq_store_of_error told]
        exact told
    | none =>
      rw [search] at told
      refine .inl ⟨(Except.error.inj told).symm, fun n named => ?_⟩
      obtain ⟨row, present, rfl⟩ := Option.map_eq_some_iff.mp named
      simpa using Roster.find?_eq_none_iff.mp search n row present

/-- A key finds the role that has it. -/
theorem find_eq_ok_iff (distinct : s.Distinct) {key : RoleRef} {role : Role} :
    s.find key = .ok role ↔ s.role role.id = .ok role ∧ key ∈ role.keys := by
  cases key with
  | id id =>
    have own : RoleRef.id id ∈ role.keys ↔ id = role.id := by simp [Role.keys]
    rw [own]
    constructor
    · intro found
      have same : role.id = id := (distinct.of_role found).1
      rw [same]
      exact ⟨found, rfl⟩
    · rintro ⟨found, rfl⟩
      exact found
  | name name =>
    have own : RoleRef.name name ∈ role.keys ↔ role.name = name := by simp [Role.keys, eq_comm]
    rw [own]
    exact roleNamed_eq_ok_iff distinct

/-! ## Users -/

theorem userNamed_eq_ok_iff (distinct : s.Distinct) {name : String} {user : User} :
    s.userNamed name = .ok user ↔ s.user user.id = .ok user ∧ user.username = name := by
  refine ⟨fun told => ?_, fun found => found.2 ▸ distinct.userNamed found.1⟩
  cases s with
  | records s =>
    have stored : AccountStore.user (.records s) user.id = .ok user ↔ _ :=
      RecordStore.user_eq_ok_iff
    rw [stored]
    rw [userNamed, RecordStore.userNamed] at told
    cases search : s.users.find? fun u => u.username == name with
    | none => simp [search] at told
    | some hit =>
      obtain ⟨n, found⟩ := hit
      rw [search] at told
      cases told
      obtain ⟨present, named⟩ := distinct.users.find?_eq_some_iff.mp search
      rw [distinct.user_id present]
      exact ⟨present, named⟩
  | rows s =>
    have stored : AccountStore.user (.rows s) user.id = .ok user ↔ _ := RowStore.user_eq_ok_iff
    rw [stored]
    rw [userNamed, RowStore.userNamed] at told
    cases search : s.users.find? fun row => row.username == name with
    | none => simp [search] at told
    | some hit =>
      obtain ⟨n, row⟩ := hit
      rw [search] at told
      obtain ⟨present, named⟩ := distinct.users.find?_eq_some_iff.mp search
      obtain ⟨-, id, same, -⟩ := UserColumns.user_eq_ok told
      rw [id]
      exact ⟨⟨row, present, told⟩, same.trans named⟩

/-! ## Users after changes -/

@[simp] theorem user_withoutNewRole (s : AccountStore) (wanted : Nat) (id : UserId) :
    (s.withoutNewRole wanted).user id = s.user id := by
  cases s <;> rfl

@[simp] theorem user_withoutNewUser (s : AccountStore) (wanted : Nat) (id : UserId) :
    (s.withoutNewUser wanted).user id = s.user id := by
  cases s <;> rfl

@[simp] theorem user_withRole (s : AccountStore) (n : Nat) (role : Role) (id : UserId) :
    (s.withRole n role).user id = s.user id := by
  cases s <;> rfl

@[simp] theorem user_withoutRole (s : AccountStore) (n : Nat) (id : UserId) :
    (s.withoutRole n).user id = s.user id := by
  cases s <;> rfl

theorem user_withUser (s : AccountStore) (n : Nat) (user : User) (id : UserId) :
    (s.withUser n user).user id =
      if id.val = n then
        if s.canTell n = true ∧ ∀ i ∈ user.roleIds, s.canTell i.val = true then
          .ok { user with id := ⟨n⟩ }
        else .error .store
      else s.user id := by
  by_cases same : id.val = n
  · rw [if_pos same]
    cases s with
    | records s =>
      simp only [withUser, AccountStore.user, RecordStore.user, RecordStore.withUser,
        Roster.get?_put, if_pos same, canTell]
      simp
    | rows s =>
      simp only [withUser, AccountStore.user, RowStore.user, RowStore.withUser, Roster.get?_put,
        if_pos same, canTell, decide_eq_true_eq]
      rw [UserColumns.user_ofUser, same]
  · rw [if_neg same]
    cases s with
    | records s =>
      simp only [withUser, AccountStore.user, RecordStore.user, RecordStore.withUser,
        Roster.get?_put, if_neg same, Roster.get?_takeId]
    | rows s =>
      simp only [withUser, AccountStore.user, RowStore.user, RowStore.withUser, Roster.get?_put,
        if_neg same, Roster.get?_take]

/-- The role ids of a user who can be read can be told. -/
theorem canTell_roleIds {id : UserId} {user : User} (found : s.user id = .ok user) :
    ∀ i ∈ user.roleIds, s.canTell i.val = true := by
  cases s with
  | records s => exact fun _ _ => rfl
  | rows s =>
    obtain ⟨row, -, reads⟩ := RowStore.user_eq_ok_iff.mp found
    exact fun i present => decide_eq_true (UserColumns.roleIds_fit reads i present)

end AccountStore

end StorageGateway
