import StorageGateway.Account.RowStore
import StorageGateway.Proofs.Account.Follow
import StorageGateway.Proofs.Account.Roster
import StorageGateway.Proofs.Json.Printed

/-!
# What the calls of a row store come to

Each change of a row store in closed form: when it is refused, when it is carried out although its
id cannot be told, and the store that it leaves.
-/

namespace StorageGateway

/-! ## Rows and records -/

/-- A role is read back from its row, unless its number is too large for an id. -/
theorem RoleColumns.role_ofRole (role : Role) (n : Nat) :
    (RoleColumns.ofRole role).role n =
      if n < idLimit then .ok { role with id := ⟨n⟩ } else .error .store := by
  rw [RoleColumns.role, ofRole, scopesOfText?_scopesText]

/-- A row is settled by its role, up to the way in which the scopes are written. -/
theorem RoleColumns.role_eq_ok_iff {row : RoleColumns} {n : Nat} {role : Role} :
    row.role n = .ok role ↔ n < idLimit ∧ role.id = ⟨n⟩ ∧ role.name = row.name ∧
      role.description = row.description ∧ scopesOfText? row.scopes = some role.scopes := by
  rw [RoleColumns.role]
  cases role
  split
  · next scopes readable =>
    rw [readable]
    split
    · next small => simp [small, eq_comm]
    · next large => simp [large]
  · next unreadable => simp [unreadable]

/-- Nothing but its text or its number makes a row unreadable. -/
theorem RoleColumns.eq_store_of_error {row : RoleColumns} {n : Nat} {e : AccountError}
    (fails : row.role n = .error e) : e = .store := by
  rw [RoleColumns.role] at fails
  split at fails
  · split at fails
    · contradiction
    · exact (Except.error.inj fails).symm
  · exact (Except.error.inj fails).symm

theorem UserColumns.user_eq_ok {row : UserColumns} {n : Nat} {user : User}
    (reads : row.user n = .ok user) :
    n < idLimit ∧ user.id = ⟨n⟩ ∧ user.username = row.username ∧ user.basePath = row.basePath := by
  rw [UserColumns.user] at reads
  split at reads
  · split at reads
    · next small =>
      cases reads
      exact ⟨small, rfl, rfl, rfl⟩
    · contradiction
  · contradiction

/-- A user is read back from their row, unless their number or an id of a role is too large. -/
theorem UserColumns.user_ofUser (user : User) (n : Nat) :
    (UserColumns.ofUser user).user n =
      if n < idLimit ∧ ∀ id ∈ user.roleIds, id.val < idLimit then .ok { user with id := ⟨n⟩ }
      else .error .store := by
  rw [UserColumns.user, ofUser]
  by_cases fit : ∀ id ∈ user.roleIds, id.val < idLimit
  · rw [roleIdsOfText?_roleIdsText fit]
    dsimp only
    by_cases small : n < idLimit
    · rw [if_pos small, if_pos ⟨small, fit⟩]
    · rw [if_neg small, if_neg fun both => small both.1]
  · obtain ⟨id, present, large⟩ : ∃ id ∈ user.roleIds, idLimit ≤ id.val := by
      simpa only [not_forall, exists_prop, Nat.not_lt] using fit
    rw [roleIdsOfText?_roleIdsText_of_large present large, if_neg fun small => fit small.2]

/-- The role ids of a user who can be read are small enough to be told. -/
theorem UserColumns.roleIds_fit {row : UserColumns} {n : Nat} {user : User}
    (reads : row.user n = .ok user) : ∀ id ∈ user.roleIds, id.val < idLimit := by
  rw [UserColumns.user] at reads
  split at reads
  · next readable =>
    split at reads
    · cases reads
      exact roleIdsOfText?_fit readable
    · contradiction
  · contradiction

/-- The row of a role after `old` has become `new`. A row that cannot be read stays. -/
def RoleColumns.follow (row : RoleColumns) (old new : Path) : RoleColumns :=
  match scopesOfText? row.scopes with
  | some scopes =>
    let moved := scopes.map fun s => s.follow old new
    if moved = scopes then row else { row with scopes := scopesText moved }
  | none => row

/-- The row of a user after `old` has become `new`. -/
def UserColumns.follow (row : UserColumns) (old new : Path) : UserColumns :=
  { row with basePath := followedText row.basePath old new }

theorem RoleColumns.name_follow (row : RoleColumns) (old new : Path) :
    (row.follow old new).name = row.name := by
  rw [follow]
  split
  · dsimp only
    split <;> rfl
  · rfl

/-- A row that follows holds the role that follows. -/
theorem RoleColumns.role_follow (row : RoleColumns) (n : Nat) (old new : Path) :
    (row.follow old new).role n = (row.role n).map fun role => role.follow old new := by
  rw [RoleColumns.follow]
  split
  · next scopes readable =>
    by_cases still : (scopes.map fun s => s.follow old new) = scopes
    · rw [if_pos still, RoleColumns.role, readable]
      dsimp only
      split
      · rw [Except.map, Role.follow, still]
      · rfl
    · rw [if_neg still, RoleColumns.role, RoleColumns.role, readable, scopesOfText?_scopesText]
      dsimp only
      split <;> rfl
  · next unreadable => rw [RoleColumns.role, unreadable, Except.map]

/-- A row whose role moves becomes the row of the role that follows; any other row stays. -/
theorem RoleColumns.follow_of_role {row : RoleColumns} {n : Nat} {role : Role}
    (reads : row.role n = .ok role) (old new : Path) :
    row.follow old new =
      if role.follow old new = role then row else .ofRole (role.follow old new) := by
  obtain ⟨-, -, name, description, readable⟩ := role_eq_ok_iff.mp reads
  have same : (role.scopes.map fun s => s.follow old new) = role.scopes ↔
      role.follow old new = role := by
    rw [Role.follow]
    cases role
    simp
  simp only [RoleColumns.follow, readable, same]
  split
  · rfl
  · rw [ofRole, Role.follow, name, description]

/-- A row that follows holds the user who follows. -/
theorem UserColumns.user_follow (row : UserColumns) (n : Nat) (old new : Path) :
    (row.follow old new).user n = (row.user n).map fun user => user.follow old new := by
  rw [UserColumns.user, UserColumns.user, UserColumns.follow]
  cases roleIdsOfText? row.roleIds with
  | none => rfl
  | some roleIds =>
    dsimp only
    split <;> rfl

theorem RoleColumns.follow_eq_self_iff {row : RoleColumns} {n : Nat} {role : Role}
    (reads : row.role n = .ok role) (old new : Path) :
    row.follow old new = row ↔ role.follow old new = role := by
  constructor
  · intro still
    have follows := row.role_follow n old new
    rw [still, reads] at follows
    exact (Except.ok.inj follows).symm
  · intro still
    rw [follow_of_role reads, if_pos still]

theorem UserColumns.follow_eq_self_iff {row : UserColumns} {n : Nat} {user : User}
    (reads : row.user n = .ok user) (old new : Path) :
    row.follow old new = row ↔ user.follow old new = user := by
  obtain ⟨-, -, -, base⟩ := user_eq_ok reads
  rw [UserColumns.follow, User.follow, base]
  cases row
  cases user
  simp only [UserColumns.mk.injEq, User.mk.injEq] at base ⊢
  simp [base]

namespace RowStore

variable {s : RowStore}

/-- No two roles and no two users share a name. -/
structure Distinct (s : RowStore) : Prop where
  roles : s.roles.Distinct RoleColumns.name
  users : s.users.Distinct UserColumns.username

/-- The numbers of both tables are in order. -/
structure Numbered (s : RowStore) : Prop where
  roles : s.roles.Numbered
  users : s.users.Numbered

theorem distinct_empty : empty.Distinct := ⟨.new, .new⟩

theorem numbered_empty : empty.Numbered := ⟨.new (by decide), .new (by decide)⟩

theorem role_eq_ok_iff {id : RoleId} {role : Role} :
    s.role id = .ok role ↔ ∃ row, s.roles.get? id.val = some row ∧ row.role id.val = .ok role := by
  rw [RowStore.role]
  cases s.roles.get? id.val <;> simp

theorem user_eq_ok_iff {id : UserId} {user : User} :
    s.user id = .ok user ↔ ∃ row, s.users.get? id.val = some row ∧ row.user id.val = .ok user := by
  rw [RowStore.user]
  cases s.users.get? id.val <;> simp

/-! ## The stores that changes leave -/

/-- The store with a role under a number. -/
def withRole (s : RowStore) (n : Nat) (role : Role) : RowStore :=
  { s with roles := (s.roles.take n).put n (.ofRole role) }

/-- The store with a user under a number. -/
def withUser (s : RowStore) (n : Nat) (user : User) : RowStore :=
  { s with users := (s.users.take n).put n (.ofUser user) }

/-- The store after the roles have followed a path. -/
def followRoles (s : RowStore) (old new : Path) : RowStore :=
  { s with roles := s.roles.mapRecords fun row => row.follow old new }

/-- The store after the users have followed a path. -/
def followUsers (s : RowStore) (old new : Path) : RowStore :=
  { s with users := s.users.mapRecords fun row => row.follow old new }

/-! ## Changes in closed form -/

theorem putRole_run (s : RowStore) (role : Role) :
    putRole role s =
      let n := s.roles.number role.id.val
      if s.roles.isElsewhere n fun row => row.name == role.name then
        .error (.alreadyExists role.name) s
      else if n < idLimit then .ok { role with id := ⟨n⟩ } (s.withRole n role)
      else .error .store (s.withRole n role) := by
  change (putRole role).run s = _
  dsimp only
  split
  · next taken => simp [putRole, taken]
  · next free =>
    simp only [Bool.not_eq_true] at free
    split
    · next small =>
      simp [putRole, free, Nat.not_le.mpr small]
      rfl
    · next large =>
      simp [putRole, free, Nat.not_lt.mp large]
      rfl

theorem eraseRole_run (s : RowStore) (id : RoleId) :
    eraseRole id s =
      match s.roles.get? id.val with
      | none => .error (.roleNotFound (toString id)) s
      | some _ => .ok () { s with roles := s.roles.erase id.val } := by
  change (eraseRole id).run s = _
  cases found : s.roles.get? id.val <;> simp [eraseRole, found]

theorem putUser_run (s : RowStore) (user : User) :
    putUser user s =
      let n := s.users.number user.id.val
      if s.users.isElsewhere n fun row => row.username == user.username then
        .error (.alreadyExists user.username) s
      else if n < idLimit then .ok { user with id := ⟨n⟩ } (s.withUser n user)
      else .error .store (s.withUser n user) := by
  change (putUser user).run s = _
  dsimp only
  split
  · next taken => simp [putUser, taken]
  · next free =>
    simp only [Bool.not_eq_true] at free
    split
    · next small =>
      simp [putUser, free, Nat.not_le.mpr small]
      rfl
    · next large =>
      simp [putUser, free, Nat.not_lt.mp large]
      rfl

/-- A list of answers is complete exactly if nothing fails. -/
theorem mapM_eq_ok_iff {ε α β : Type} {f : α → Except ε β} {xs : List α} {ys : List β} :
    xs.mapM f = .ok ys ↔ xs.map f = ys.map .ok := by
  induction xs generalizing ys with
  | nil =>
    rw [List.mapM_nil]
    cases ys <;> simp [pure, Except.pure]
  | cons x rest ih =>
    rw [List.mapM_cons]
    cases first : f x with
    | error e => cases ys <;> simp [first, bind, Except.bind]
    | ok y =>
      cases others : rest.mapM f with
      | error e =>
        have never : ∀ ys : List β, rest.map f ≠ ys.map .ok := fun ys same => by
          rw [ih.mpr same] at others
          contradiction
        cases ys <;> simp [first, bind, Except.bind, never]
      | ok zs =>
        have same := ih.mp others
        have injective : Function.Injective (List.map (Except.ok : β → Except ε β)) :=
          List.map_injective_iff.mpr fun a b h => Except.ok.inj h
        cases ys <;> simp [first, same, bind, Except.bind, pure, Except.pure, injective.eq_iff]

theorem mem_of_mapM_ok {ε α β : Type} {f : α → Except ε β} {xs : List α} {ys : List β}
    (all : xs.mapM f = .ok ys) (y : β) : y ∈ ys ↔ ∃ x ∈ xs, f x = .ok y := by
  rw [← List.mem_map, mapM_eq_ok_iff.mp all, List.mem_map]
  simp

theorem exists_of_mapM_ok {ε α β : Type} {f : α → Except ε β} {xs : List α} {ys : List β}
    (all : xs.mapM f = .ok ys) {x : α} (present : x ∈ xs) : ∃ y ∈ ys, f x = .ok y := by
  have image : f x ∈ xs.map f := List.mem_map_of_mem present
  rw [mapM_eq_ok_iff.mp all, List.mem_map] at image
  obtain ⟨y, present, same⟩ := image
  exact ⟨y, present, same.symm⟩

theorem mem_allUsers {users : List User} (all : s.allUsers = .ok users) (user : User) :
    user ∈ users ↔ ∃ row, s.users.get? user.id.val = some row ∧
      row.user user.id.val = .ok user := by
  rw [mem_of_mapM_ok all]
  constructor
  · rintro ⟨⟨n, row⟩, present, reads⟩
    have id := (UserColumns.user_eq_ok reads).2.1
    have found := (s.users.mem_entries_iff n row).mp present
    refine ⟨row, ?_, ?_⟩ <;> rw [id]
    · exact found
    · exact reads
  · rintro ⟨row, found, reads⟩
    exact ⟨(user.id.val, row), (s.users.mem_entries_iff _ row).mpr found, reads⟩

theorem mem_allRoles {roles : List Role} (all : s.allRoles = .ok roles) (role : Role) :
    role ∈ roles ↔ ∃ row, s.roles.get? role.id.val = some row ∧
      row.role role.id.val = .ok role := by
  rw [mem_of_mapM_ok all]
  constructor
  · rintro ⟨⟨n, row⟩, present, reads⟩
    have id := (RoleColumns.role_eq_ok_iff.mp reads).2.1
    have found := (s.roles.mem_entries_iff n row).mp present
    refine ⟨row, ?_, ?_⟩ <;> rw [id]
    · exact found
    · exact reads
  · rintro ⟨row, found, reads⟩
    exact ⟨(role.id.val, row), (s.roles.mem_entries_iff _ row).mpr found, reads⟩

theorem moveBasePaths_run (s : RowStore) (old new : Path) :
    moveBasePaths old new s =
      match s.allUsers with
      | .error e => .error e s
      | .ok users => .ok ((basePathMoves users old new).map BasePathMove.username)
          (s.followUsers old new) := by
  cases all : s.allUsers with
  | error e =>
    change (moveBasePaths old new).run s = _
    simp [moveBasePaths, all]
    rfl
  | ok stored =>
    have users : (basePathMoves stored old new).foldl (fun users m =>
        users.adjust m.userId.val fun row => { row with basePath := m.target.text }) s.users =
        s.users.mapRecords fun row => row.follow old new := by
      refine Roster.foldl_adjust_eq_mapRecords ?_ ?_
      · intro m present row found
        obtain ⟨mover, stored, moves⟩ := List.mem_filterMap.mp present
        obtain ⟨id, -, target⟩ := User.target_of_basePathMove? moves
        obtain ⟨own, same, reads⟩ := (mem_allUsers all mover).mp stored
        rw [← id, found] at same
        cases same
        obtain ⟨-, -, -, base⟩ := UserColumns.user_eq_ok reads
        exact ⟨by rw [UserColumns.follow, target, base], by rw [UserColumns.follow, target, base]⟩
      · intro n row found still
        obtain ⟨user, listed, reads⟩ :=
          exists_of_mapM_ok all ((s.users.mem_entries_iff n row).mpr found)
        have id := (UserColumns.user_eq_ok reads).2.1
        rw [UserColumns.follow_eq_self_iff reads, User.follow_eq_self_iff]
        by_contra moves
        obtain ⟨m, moves⟩ := Option.ne_none_iff_exists'.mp moves
        refine still m (List.mem_filterMap.mpr ⟨user, listed, moves⟩) ?_
        rw [(User.target_of_basePathMove? moves).1, id]
    change (moveBasePaths old new).run s = _
    rw [followUsers, ← users]
    simp [moveBasePaths, all]
    rfl

theorem foldl_withRole (s : RowStore) (roles : List Role) :
    roles.foldl (fun s role => s.withRole role.id.val role) s =
      { s with
        roles := roles.foldl
          (fun r role => (r.take role.id.val).put role.id.val (.ofRole role)) s.roles } := by
  induction roles generalizing s with
  | nil => rfl
  | cons role rest ih =>
    rw [List.foldl_cons, List.foldl_cons, ih]
    rfl

/-- To store every role whose scopes move is to let all roles follow. -/
theorem foldl_withRole_scopeMoves (numbered : Numbered s) {roles : List Role} (all : s.allRoles = .ok roles)
    (old new : Path) :
    (scopeMoves roles old new).foldl (fun s role => s.withRole role.id.val role) s =
      s.followRoles old new := by
  have source : ∀ role ∈ scopeMoves roles old new, ∃ row,
      s.roles.get? role.id.val = some row ∧ row.follow old new = .ofRole role := by
    intro role present
    obtain ⟨before, listed, rfl, changed⟩ := mem_scopeMoves.mp present
    obtain ⟨row, found, reads⟩ := (mem_allRoles all before).mp listed
    exact ⟨row, found, by rw [RoleColumns.follow_of_role reads, if_neg changed]⟩
  rw [foldl_withRole, followRoles]
  congr 1
  rw [Roster.foldl_put_eq_foldl_adjust (fun role : Role => role.id.val) RoleColumns.ofRole]
  · refine Roster.foldl_adjust_eq_mapRecords ?_ ?_
    · intro role present row found
      obtain ⟨known, same, follows⟩ := source role present
      rw [found] at same
      cases same
      exact ⟨follows.symm, follows.symm⟩
    · intro n row found still
      obtain ⟨role, listed, reads⟩ :=
        exists_of_mapM_ok all ((s.roles.mem_entries_iff n row).mpr found)
      have id := (RoleColumns.role_eq_ok_iff.mp reads).2.1
      rw [RoleColumns.follow_of_role reads]
      split
      · rfl
      · next changed =>
        exact absurd (congrArg RoleId.val id)
          (still (role.follow old new) (mem_scopeMoves.mpr ⟨role, listed, rfl, changed⟩))
  · intro role present
    obtain ⟨row, found, -⟩ := source role present
    exact ⟨row, found⟩
  · intro role present t next
    obtain ⟨row, found, -⟩ := source role present
    exact Roster.take_of_lt (next ▸ numbered.roles.below found)

/-! ## Names and numbers -/

theorem Distinct.withRole (h : Distinct s) {n : Nat} {role : Role}
    (free : s.roles.isElsewhere n (fun row => row.name == role.name) = false) :
    (s.withRole n role).Distinct where
  roles := (h.roles.take n).put (.ofRole role) free
  users := h.users

theorem Distinct.withUser (h : Distinct s) {n : Nat} {user : User}
    (free : s.users.isElsewhere n (fun row => row.username == user.username) = false) :
    (s.withUser n user).Distinct where
  roles := h.roles
  users := (h.users.take n).put (.ofUser user) free

theorem Distinct.eraseRole (h : Distinct s) (n : Nat) :
    Distinct { s with roles := s.roles.erase n } where
  roles := h.roles.erase n
  users := h.users

theorem Distinct.followRoles (h : Distinct s) (old new : Path) :
    (s.followRoles old new).Distinct where
  roles := h.roles.mapRecords fun row => row.name_follow old new
  users := h.users

theorem Distinct.followUsers (h : Distinct s) (old new : Path) :
    (s.followUsers old new).Distinct where
  roles := h.roles
  users := h.users.mapRecords fun _ => rfl

theorem Numbered.withRole (h : Numbered s) {n : Nat} (role : Role) (positive : 0 < n) :
    (s.withRole n role).Numbered where
  roles := h.roles.put (.ofRole role) positive
  users := h.users

theorem Numbered.withUser (h : Numbered s) {n : Nat} (user : User) (positive : 0 < n) :
    (s.withUser n user).Numbered where
  roles := h.roles
  users := h.users.put (.ofUser user) positive

end RowStore

end StorageGateway
