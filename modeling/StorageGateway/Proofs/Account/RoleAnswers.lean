import StorageGateway.Proofs.Account.BuiltIn

/-!
# Roles are told as they are stored

A role is kept under its id and under its name, and whatever changes or deletes a stored role forgets
what is kept under both of its keys. Only a built-in role could displace another role unseen, and in
a bootstrapped store that cannot happen. So the registry tells a role as the store would, and what
the roles of a user grant is what their stored roles grant. Main statement:
`role_told_as_stored`.
-/

namespace StorageGateway

/-! ## Roles of a user -/

/-- To leave out the ids of no role and to look up the rest is to look up all and leave out what
fails. -/
theorem RowStore.map_role_filter {s : RowStore} (legible : (AccountStore.rows s).Legible)
    {ids : List RoleId} (fit : ∀ i ∈ ids, i.val < idLimit) :
    (ids.filter fun i => (s.roles.get? i.val).isSome).map s.role =
      (ids.filterMap fun i => (s.role i).toOption).map .ok := by
  induction ids with
  | nil => rfl
  | cons i rest ih =>
    have later := ih fun j present => fit j (List.mem_cons_of_mem _ present)
    cases held : s.roles.get? i.val with
    | none =>
      have missing : (s.role i).toOption = none := by
        rw [RowStore.role, held]
        rfl
      rw [List.filter_cons_of_neg (by simp [held]), List.filterMap_cons, missing, later]
    | some row =>
      have reads : s.role i = row.role i.val := by rw [RowStore.role, held]
      cases told : row.role i.val with
      | ok role =>
        have found : (s.role i).toOption = some role := by
          rw [reads, told]
          rfl
        rw [List.filter_cons_of_pos (by simp [held]), List.filterMap_cons, found, List.map_cons,
          List.map_cons, later, reads, told]
      | error e =>
        have fails : s.role i = .error .store := by
          rw [reads, told, RoleColumns.eq_store_of_error told]
        exact absurd fails (legible i (fit i List.mem_cons_self))

/-- While all roles can be read, the stored roles of a user are those that they hold. -/
theorem AccountStore.Legible.rolesOf {s : AccountStore} (legible : s.Legible) {id : UserId} {u : User}
    (found : s.user id = .ok u) : s.rolesOf id = .ok (s.granted u).roles := by
  cases s with
  | records s =>
    have known : s.user id = .ok u := found
    rw [AccountStore.rolesOf, RecordStore.rolesOf, known]
    refine congrArg Except.ok (List.filterMap_congr fun i _ => ?_)
    change _ = (s.role i).toOption
    rw [RecordStore.role]
    cases s.roles.get? i.val <;> rfl
  | rows s =>
    have known : s.user id = .ok u := found
    obtain ⟨row, -, reads⟩ := RowStore.user_eq_ok_iff.mp known
    have fit := UserColumns.roleIds_fit reads
    rw [AccountStore.rolesOf, RowStore.rolesOf, known]
    exact RowStore.mapM_eq_ok_iff.mpr (RowStore.map_role_filter legible fit)

namespace Accounts

open AccountStore

variable {a b : Accounts}

/-- Every role that is kept is the one that the store would tell. -/
def RolesCurrent (a : Accounts) : Prop :=
  ∀ ⦃key role⦄, a.roles.get? key = some role → a.store.find key = .ok role

/-- A role that stays is told under the same keys as before. -/
theorem find_of_still (distinct : a.store.Distinct) (distinctAfter : b.store.Distinct)
    {key : RoleRef} {role : Role} (told : a.store.find key = .ok role)
    (still : b.store.role role.id = a.store.role role.id) : b.store.find key = .ok role := by
  obtain ⟨found, own⟩ := (find_eq_ok_iff distinct).mp told
  exact (find_eq_ok_iff distinctAfter).mpr ⟨still.trans found, own⟩

/-- A role that is told under a key is not the one that lost this key. -/
theorem id_ne_of_told (distinct : a.store.Distinct) {key : RoleRef} {role lost : Role} {id : RoleId}
    (told : a.store.find key = .ok role) (known : a.store.role id = .ok lost)
    (forgotten : key ∉ lost.keys) : role.id.val ≠ id.val := by
  intro same
  have place : role.id = id := congrArg RoleId.mk same
  obtain ⟨found, own⟩ := (find_eq_ok_iff distinct).mp told
  rw [place, known] at found
  cases found
  exact forgotten own

/-- Whatever a step changes of the roles, it forgets. -/
theorem RolesGo.current {request : AccountRequest} (go : a.RolesGo b request)
    (sound : a.store.Sound) (soundAfter : b.store.Sound) (furnished : a.store.Furnished)
    (current : a.RolesCurrent) : b.RolesCurrent := by
  intro key role present
  cases go with
  | stay same kept =>
    have told : a.store.find key = .ok role := (kept present).elim (current ·) id
    exact find_of_still sound.distinct soundAfter.distinct told (same.role role.id)
  | refuse _ stored kept =>
    have told := current (kept ▸ present)
    exact find_of_still sound.distinct soundAfter.distinct told (by rw [stored, role_withoutNewRole])
  | add _ _ _ _ stored kept =>
    have told := current (Cache.of_get?_foldl_forget (kept ▸ present)).2
    have found := ((find_eq_ok_iff sound.distinct).mp told).1
    have apart : role.id.val ≠ a.store.roleNumber 0 :=
      fun same => sound.role_next role (same ▸ found)
    exact find_of_still sound.distinct soundAfter.distinct told
      (by rw [stored, role_withRole, if_neg apart])
  | change known planned stored kept =>
    obtain ⟨remembered, before⟩ := Cache.of_get?_foldl_forget (kept ▸ present)
    have told := current before
    have apart := id_ne_of_told sound.distinct told known fun lost =>
      remembered (Role.mem_stale_of_mem_keys planned key lost)
    exact find_of_still sound.distinct soundAfter.distinct told
      (by rw [stored, role_withRole, if_neg apart])
  | ensure preset missing _ _ =>
    -- the name is found, so nothing is ensured: here a role could be displaced unseen
    obtain ⟨other, told⟩ := (furnished.holds preset).roleNamed sound.distinct
    exact absurd told (missing other)
  | erase known _ stored kept =>
    obtain ⟨remembered, before⟩ := Cache.of_get?_foldl_forget (kept ▸ present)
    have told := current before
    have apart := id_ne_of_told sound.distinct told known remembered
    exact find_of_still sound.distinct soundAfter.distinct told
      (by rw [stored, role_withoutRole _ _ apart])
  | @follow _ roles old new _ all stored kept =>
    rw [kept, ← List.foldl_flatMap] at present
    obtain ⟨remembered, before⟩ := Cache.of_get?_foldl_forget present
    have told := current before
    obtain ⟨found, own⟩ := (find_eq_ok_iff sound.distinct).mp told
    -- a role that moves is forgotten, so this one stays
    have still : role.follow old new = role := by
      by_contra moves
      refine remembered (List.mem_flatMap.mpr ⟨role.follow old new, ?_, own⟩)
      exact mem_scopeMoves.mpr ⟨role, (mem_allRoles sound.distinct all role).mpr found, rfl, moves⟩
    refine find_of_still sound.distinct soundAfter.distinct told ?_
    rw [stored, role_followRoles, found]
    exact congrArg Except.ok still

end Accounts

namespace Accounting

open Accounts AccountStore

variable {a : Accounts}

/-- A registry that keeps current roles tells a role as the store would. -/
theorem outcome_role (served : a.refused = []) (current : a.RolesCurrent) (key : RoleRef) :
    outcome (role key) a = a.store.find key := by
  rw [outcome, role_eq]
  cases kept : a.roles.get? key with
  | some known => exact (current kept).symm
  | none =>
    rw [stored_eq, ask_run served]
    dsimp only
    cases a.store.find key <;> rfl

/-- And it grants a stored user what their stored roles grant. -/
theorem outcome_clearance (served : a.refused = []) (sound : a.store.Sound)
    (current : a.RolesCurrent) (legible : a.store.Legible) {id : UserId} {u : User}
    (found : a.store.user id = .ok u) :
    ∃ roles, a.store.rolesOf id = .ok roles ∧ outcome (clearance u) a = .ok ⟨roles⟩ := by
  have coherent : a.Coherent := ⟨sound, fun _ present => current present⟩
  obtain ⟨b, run, -⟩ := clearance_of_coherent coherent served u
  exact ⟨_, legible.rolesOf found, outcome_of_ok run⟩

/-- A registry that started from a bootstrapped store tells every role as the store would, after any
requests, successful or not, as long as no count of numbers comes round. -/
theorem role_told_as_stored {store : AccountStore} (bootstrapped : store.Bootstrapped)
    (roleLifetime userLifetime : Nat) {requests : List AccountRequest}
    (inRange : (Accounts.new store roleLifetime userLifetime).InRange requests) :
    let a := (Accounts.new store roleLifetime userLifetime).serve requests
    (∀ key, outcome (role key) a = a.store.find key) ∧
      ∀ id u, a.store.user id = .ok u →
        ∃ roles, a.store.rolesOf id = .ok roles ∧ outcome (clearance u) a = .ok ⟨roles⟩ := by
  have furnished := bootstrapped.furnished
  have empty : (Accounts.new store roleLifetime userLifetime).RolesCurrent :=
    fun _ _ present => by contradiction
  obtain ⟨served, sound, furnished, current⟩ := serve_of_rolesGo
    (P := fun a => a.store.Furnished ∧ a.RolesCurrent) inRange
    (fun _ sound soundAfter go ⟨furnished, current⟩ =>
      ⟨furnished.go soundAfter go, go.current sound soundAfter furnished current⟩)
    ⟨rfl, furnished.sound, furnished, empty⟩
  exact ⟨outcome_role served current,
    fun _ _ found => outcome_clearance served sound current furnished.legible found⟩

/-- A role is looked up under its name and then loses it, while a user holds the role. -/
def teamBecomesCrew : List AccountRequest :=
  [.change (.addRole ⟨⟨0⟩, "team", "", [⟨"/team", .none⟩]⟩),
    .change (.addUser ⟨⟨0⟩, "bob", "/team", [⟨3⟩, ⟨9⟩, ⟨1⟩], false, 0⟩ (by decide)),
    .role (.name "team"),
    .change (.changeRole ⟨⟨3⟩, "crew", "", [⟨"/crew", .none⟩]⟩)]

theorem role_told_as_stored_builtInRows :
    builtInRows.Bootstrapped ∧ (Accounts.new builtInRows 60 60).InRange teamBecomesCrew ∧
      let a := (Accounts.new builtInRows 60 60).serve teamBecomesCrew
      (∀ key, outcome (role key) a = a.store.find key) ∧
        ∀ id u, a.store.user id = .ok u →
          ∃ roles, a.store.rolesOf id = .ok roles ∧ outcome (clearance u) a = .ok ⟨roles⟩ :=
  ⟨bootstrapped_builtInRows, by decide,
    role_told_as_stored bootstrapped_builtInRows 60 60 (by decide)⟩

/-- Once the count of role numbers has come round, the guest role is told that a new role has
displaced. -/
theorem displaced_role_still_told :
    lateRecords.Bootstrapped ∧
      let a := (Accounts.new lateRecords 60 60).serve (.role (.name Role.guestName) :: threeMore)
      outcome (role (.name Role.guestName)) a = .ok .guest ∧
        a.store.find (.name Role.guestName) = .error (.roleNotFound Role.guestName) :=
  ⟨bootstrapped_lateRecords, rfl, rfl⟩

end Accounting

end StorageGateway
