import StorageGateway.Proofs.Account.StoreRuns

/-!
# Numbers are given once

In a store that started without records the next number lies above every number that was ever in
use, until a count of numbers comes round, so that a record without a number of its own never gets that
of a record that is gone. A role id that a user is left with when its role is deleted therefore stands
for no role, until a role is stored under this very id. Main statement: `inOrder_serve`.
-/

namespace StorageGateway

namespace Roster

variable {ρ : Type} {r : Roster ρ} {name : ρ → String} {key : String} {m n : Nat}

theorem Numbered.below_of_name (numbered : r.Numbered) (held : (r.get? n).map name = some key) :
    n < r.next := by
  obtain ⟨record, found, -⟩ := Option.map_eq_some_iff.mp held
  exact numbered.below found

theorem Distinct.unique_of_name (distinct : r.Distinct name) (first : (r.get? m).map name = some key)
    (second : (r.get? n).map name = some key) : m = n := by
  obtain ⟨record, found, named⟩ := Option.map_eq_some_iff.mp first
  obtain ⟨other, present, same⟩ := Option.map_eq_some_iff.mp second
  exact distinct.unique found present (named.trans same.symm)

end Roster

namespace AccountStore

variable {s : AccountStore}

/-- The username of the user of a number, be they readable or not. -/
def userName? (s : AccountStore) (n : Nat) : Option String :=
  match s with
  | records s => (s.users.get? n).map User.username
  | rows s => (s.users.get? n).map UserColumns.username

/-! ## Stores in order -/

theorem Numbered.roleName?_below (numbered : s.Numbered) {n : Nat} {name : String}
    (held : s.roleName? n = some name) : n < s.roleNumber 0 := by
  cases s <;> exact numbered.roles.below_of_name held

theorem Numbered.userName?_below (numbered : s.Numbered) {n : Nat} {name : String}
    (held : s.userName? n = some name) : n < s.userNumber 0 := by
  cases s <;> exact numbered.users.below_of_name held

namespace Distinct

theorem roleName?_unique (distinct : s.Distinct) {m n : Nat} {name : String}
    (first : s.roleName? m = some name) (second : s.roleName? n = some name) : m = n := by
  cases s <;> exact distinct.roles.unique_of_name first second

theorem userName?_unique (distinct : s.Distinct) {m n : Nat} {name : String}
    (first : s.userName? m = some name) (second : s.userName? n = some name) : m = n := by
  cases s <;> exact distinct.users.unique_of_name first second

/-- Whoever is asked for the roles of a user tells stored roles. -/
theorem of_rolesOf (distinct : s.Distinct) {id : UserId} {roles : List Role}
    (told : s.rolesOf id = .ok roles) : ∀ role ∈ roles, s.role role.id = .ok role := by
  intro role present
  cases s with
  | records s =>
    rw [rolesOf, RecordStore.rolesOf] at told
    cases known : s.user id with
    | error e => simp [known, Except.map] at told
    | ok user =>
      simp only [known, Except.map, Except.ok.injEq] at told
      rw [← told] at present
      obtain ⟨i, -, found⟩ := List.mem_filterMap.mp present
      rw [distinct.role_id found]
      exact RecordStore.role_eq_ok_iff.mpr found
  | rows s =>
    rw [rolesOf, RowStore.rolesOf] at told
    cases known : s.user id with
    | error e => simp [known, bind, Except.bind] at told
    | ok user =>
      rw [known] at told
      obtain ⟨i, -, found⟩ := (RowStore.mem_of_mapM_ok told role).mp present
      have stored : AccountStore.role (.rows s) i = .ok role := found
      rw [(distinct.of_role stored).1]
      exact stored

end Distinct

end AccountStore

/-! ## Numbers after a step -/

namespace StoreStep

open AccountStore

variable {s t : AccountStore} {request : StoreRequest}

theorem roleNumber_le (step : StoreStep s request t) (room : request.HasRoom s) :
    s.roleNumber 0 ≤ t.roleNumber 0 := by
  cases step with
  | stay => exact Nat.le_refl _
  | refuseRole _ => exact le_roleNumber_withoutNewRole room
  | storeRole _ => exact le_roleNumber_withRole _ room
  | eraseRole id => exact Nat.le_of_eq (roleNumber_withoutRole _ _ _).symm
  | refuseUser _ => exact Nat.le_of_eq ((sameRoles_withoutNewUser _ s).roleNumber 0).symm
  | storeUser _ => exact Nat.le_of_eq ((sameRoles_withUser _ _ s).roleNumber 0).symm
  | followUsers old new => exact Nat.le_of_eq ((sameRoles_followUsers old new s).roleNumber 0).symm

theorem userNumber_le (step : StoreStep s request t) (room : request.HasRoom s) :
    s.userNumber 0 ≤ t.userNumber 0 := by
  cases step with
  | stay => exact Nat.le_refl _
  | refuseRole _ | storeRole _ | eraseRole _ | followUsers _ _ => cases s <;> exact Nat.le_refl _
  | refuseUser _ => exact le_userNumber_withoutNewUser room
  | storeUser _ => exact le_userNumber_withUser _ room

/-- A number below the next one that belongs to no role goes to none, unless it is asked for. -/
theorem roleName?_eq_none (step : StoreStep s request t) {id : RoleId}
    (unasked : ∀ role, request = .putRole role → role.id ≠ id) (below : id.val < s.roleNumber 0)
    (vacant : s.roleName? id.val = none) : t.roleName? id.val = none := by
  cases step with
  | stay => exact vacant
  | refuseRole _ => rwa [roleName?_withoutNewRole]
  | @storeRole role _ =>
    have other : id.val ≠ s.roleNumber role.id.val := by
      intro same
      by_cases new : role.id.val = 0
      · rw [new] at same
        exact absurd below (same ▸ Nat.lt_irrefl _)
      · rw [s.roleNumber_of_pos (Nat.pos_of_ne_zero new)] at same
        exact unasked role rfl (congrArg RoleId.mk same.symm)
    rwa [roleName?_withRole, if_neg other]
  | eraseRole gone =>
    rw [roleName?_withoutRole]
    split
    · rfl
    · exact vacant
  | refuseUser _ => rwa [(sameRoles_withoutNewUser _ s).roleName?]
  | storeUser _ => rwa [(sameRoles_withUser _ _ s).roleName?]
  | followUsers old new => rwa [(sameRoles_followUsers old new s).roleName?]

end StoreStep

/-! ## Numbers along a run -/

namespace AccountStore

variable {s start : AccountStore} {requests : List StoreRequest}

theorem roleNumber_le_serve (sound : s.Sound) (inRange : s.InRange requests) :
    s.roleNumber 0 ≤ (s.serve requests).roleNumber 0 :=
  (serve_of_steps (P := fun t => s.roleNumber 0 ≤ t.roleNumber 0)
    (fun _ room step le => le.trans (step.roleNumber_le room)) sound (Nat.le_refl _) inRange).2

theorem userNumber_le_serve (sound : s.Sound) (inRange : s.InRange requests) :
    s.userNumber 0 ≤ (s.serve requests).userNumber 0 :=
  (serve_of_steps (P := fun t => s.userNumber 0 ≤ t.userNumber 0)
    (fun _ room step le => le.trans (step.userNumber_le room)) sound (Nat.le_refl _) inRange).2

/-- Numbers that were ever in use lie below the next one. -/
theorem lt_roleNumber_of_held (sound : s.Sound) (inRange : s.InRange requests)
    {done : List StoreRequest} (sub : done <+: requests) {n : Nat} {name : String}
    (held : (s.serve done).roleName? n = some name) : n < (s.serve requests).roleNumber 0 := by
  obtain ⟨rest, rfl⟩ := sub
  obtain ⟨first, next⟩ := throughout_append.mp inRange
  have before := sound_serve sound first
  rw [serve_append]
  exact Nat.lt_of_lt_of_le (before.numbered.roleName?_below held) (roleNumber_le_serve before next)

theorem lt_userNumber_of_held (sound : s.Sound) (inRange : s.InRange requests)
    {done : List StoreRequest} (sub : done <+: requests) {n : Nat} {name : String}
    (held : (s.serve done).userName? n = some name) : n < (s.serve requests).userNumber 0 := by
  obtain ⟨rest, rfl⟩ := sub
  obtain ⟨first, next⟩ := throughout_append.mp inRange
  have before := sound_serve sound first
  rw [serve_append]
  exact Nat.lt_of_lt_of_le (before.numbered.userName?_below held) (userNumber_le_serve before next)

/-- A role that asks for no number gets the next one. -/
theorem id_of_putRole {role stored : Role} (new : role.id.val = 0)
    (told : outcome (putRole role) s = .ok stored) : stored.id.val = s.roleNumber 0 := by
  obtain ⟨t, run⟩ := of_outcome_ok told
  obtain ⟨-, -, rfl, -⟩ := putRole_eq_ok_iff.mp run
  rw [new]

/-- A user who asks for no number gets the next one. -/
theorem id_of_putUser {user stored : User} (new : user.id.val = 0)
    (told : outcome (putUser user) s = .ok stored) : stored.id.val = s.userNumber 0 := by
  obtain ⟨t, run⟩ := of_outcome_ok told
  obtain ⟨-, -, rfl, -⟩ := putUser_eq_ok_iff.mp run
  rw [new]

/-- A number that belongs to no role any more goes to none, unless it is asked for. -/
theorem roleName?_serve_eq_none (sound : s.Sound) (inRange : s.InRange requests) {id : RoleId}
    (unasked : ∀ role, .putRole role ∈ requests → role.id ≠ id) (below : id.val < s.roleNumber 0)
    (vacant : s.roleName? id.val = none) : (s.serve requests).roleName? id.val = none := by
  refine (serve_of_steps (P := fun t => id.val < t.roleNumber 0 ∧ t.roleName? id.val = none)
    ?_ sound ⟨below, vacant⟩ inRange).2.2
  rintro t u request present room step ⟨below, vacant⟩
  refine ⟨Nat.lt_of_lt_of_le below (step.roleNumber_le room), ?_⟩
  exact step.roleName?_eq_none (fun role same => unasked role (same ▸ present)) below vacant

/-- The records of a store are in order after requests. -/
structure InOrder (start : AccountStore) (requests : List StoreRequest) : Prop where
  /-- No two roles share a name. -/
  roleNames : ∀ {m n name}, (start.serve requests).roleName? m = some name →
    (start.serve requests).roleName? n = some name → m = n
  /-- No two users share a username. -/
  userNames : ∀ {m n name}, (start.serve requests).userName? m = some name →
    (start.serve requests).userName? n = some name → m = n
  /-- By its name a role is told that is told by its id. -/
  roleNamed : ∀ name role, (start.serve requests).roleNamed name = .ok role ↔
    (start.serve requests).role role.id = .ok role ∧ role.name = name
  /-- By their username a user is told who is told by their id. -/
  userNamed : ∀ name user, (start.serve requests).userNamed name = .ok user ↔
    (start.serve requests).user user.id = .ok user ∧ user.username = name
  /-- A role stored without a number of its own gets one that no role has had at any moment. -/
  newRole : ∀ role stored, role.id.val = 0 →
    outcome (putRole role) (start.serve requests) = .ok stored →
    ∀ done, done <+: requests → (start.serve done).roleName? stored.id.val = none
  /-- A user stored without a number of their own gets one that no user has had at any moment. -/
  newUser : ∀ user stored, user.id.val = 0 →
    outcome (putUser user) (start.serve requests) = .ok stored →
    ∀ done, done <+: requests → (start.serve done).userName? stored.id.val = none
  /-- The id of a role that was there and is gone stands for no role of a user, whatever is asked
  for next before a count of numbers comes round, unless a role is to be stored under this id. -/
  dangling : ∀ id done, done <+: requests → (start.serve done).roleName? id.val ≠ none →
    (start.serve requests).roleName? id.val = none →
    ∀ more, (start.serve requests).InRange more → (∀ role, .putRole role ∈ more → role.id ≠ id) →
      ∀ holder roles, (start.serve (requests ++ more)).rolesOf holder = .ok roles →
        ∀ role ∈ roles, role.id ≠ id

/-- Every run from an empty store of either kind keeps the records in order, as long as no count of
numbers comes round. -/
theorem inOrder_serve (empty : start ∈ [records .empty, rows .empty])
    (inRange : start.InRange requests) : start.InOrder requests := by
  have first : start.Sound := by
    rcases List.mem_pair.mp empty with rfl | rfl
    · exact sound_noRecords
    · exact sound_noRows
  have sound := sound_serve first inRange
  refine ⟨sound.distinct.roleName?_unique, sound.distinct.userName?_unique,
    fun _ _ => roleNamed_eq_ok_iff sound.distinct, fun _ _ => userNamed_eq_ok_iff sound.distinct,
    ?_, ?_, ?_⟩
  · intro role stored new told done sub
    by_contra held
    obtain ⟨name, held⟩ := Option.ne_none_iff_exists'.mp held
    exact absurd (id_of_putRole new told)
      (Nat.ne_of_lt (lt_roleNumber_of_held first inRange sub held))
  · intro user stored new told done sub
    by_contra held
    obtain ⟨name, held⟩ := Option.ne_none_iff_exists'.mp held
    exact absurd (id_of_putUser new told)
      (Nat.ne_of_lt (lt_userNumber_of_held first inRange sub held))
  · intro id done sub held vacant more later unasked holder roles told role present same
    obtain ⟨name, held⟩ := Option.ne_none_iff_exists'.mp held
    have below := lt_roleNumber_of_held first inRange sub held
    have gone := roleName?_serve_eq_none sound later unasked below vacant
    rw [serve_append] at told
    have found := (sound_serve sound later).distinct.of_rolesOf told role present
    rw [← same, roleName?_of_role found] at gone
    contradiction

/-- A role without scopes. -/
def bareTeam : Role := ⟨⟨0⟩, "team", "", []⟩

/-- A user who holds the role 3. -/
def bobOfThree : User := ⟨⟨0⟩, "bob", "/", [⟨3⟩], false, 0⟩

/-- A role is deleted while a user holds it. -/
def teamDeleted : List StoreRequest := [.putRole bareTeam, .putUser bobOfThree, .eraseRole ⟨3⟩]

theorem inOrder_serve_teamDeleted :
    records .empty ∈ [records .empty, rows .empty] ∧
      (records .empty).InRange teamDeleted ∧
      ((records .empty).serve [.putRole bareTeam]).roleName? 3 = some "team" ∧
      ((records .empty).serve teamDeleted).roleName? 3 = none ∧
      (records .empty).InOrder teamDeleted :=
  ⟨List.mem_cons_self, by decide, rfl, rfl, inOrder_serve List.mem_cons_self (by decide)⟩

/-- A user holds the role 3 before there is any role. -/
def bobWaits : AccountStore := (records .empty).serve [.putUser bobOfThree]

/-- An id that no role has had comes to stand for a new role when it is its turn, and an id whose
role is gone does so when it is asked for. -/
theorem dangling_id_taken :
    (bobWaits.rolesOf ⟨1⟩ = .ok [] ∧
        outcome (putRole bareTeam) bobWaits = .ok { bareTeam with id := ⟨3⟩ } ∧
        (bobWaits.serve [.putRole bareTeam]).rolesOf ⟨1⟩ = .ok [{ bareTeam with id := ⟨3⟩ }]) ∧
      ((records .empty).serve teamDeleted).rolesOf ⟨1⟩ = .ok [] ∧
        ((records .empty).serve (teamDeleted ++ [.putRole { bareTeam with id := ⟨3⟩ }])).rolesOf
          ⟨1⟩ = .ok [{ bareTeam with id := ⟨3⟩ }] := by
  decide +kernel

end AccountStore

end StorageGateway
