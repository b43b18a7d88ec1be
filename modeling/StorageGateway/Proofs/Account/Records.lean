import StorageGateway.Account.RecordStore
import StorageGateway.Proofs.Account.Follow
import StorageGateway.Proofs.Account.Roster

/-!
# What the calls of a record store come to

Each change of a record store in closed form: when it is refused, and the store that it leaves. Every
record is kept under its own id, and names are distinct, even after the count of numbers has come
round. Until then the numbers are in order as well.
-/

namespace StorageGateway

namespace RecordStore

variable {s : RecordStore}

/-- No two roles and no two users share a name, and every record is kept under its own id. -/
structure Distinct (s : RecordStore) : Prop where
  roles : s.roles.Distinct Role.name
  users : s.users.Distinct User.username
  role_id : ∀ {n role}, s.roles.get? n = some role → role.id = ⟨n⟩
  user_id : ∀ {n user}, s.users.get? n = some user → user.id = ⟨n⟩

/-- The numbers of both rosters are in order, and the next ones have 32 bits. -/
structure Numbered (s : RecordStore) : Prop where
  roles : s.roles.Numbered
  users : s.users.Numbered
  role_small : s.roles.next < idLimit
  user_small : s.users.next < idLimit

theorem distinct_empty : empty.Distinct where
  roles := .new
  users := .new
  role_id found := by simp [empty] at found
  user_id found := by simp [empty] at found

theorem numbered_empty : empty.Numbered where
  roles := .new (by decide)
  users := .new (by decide)
  role_small := by decide
  user_small := by decide

theorem role_eq_ok_iff {id : RoleId} {role : Role} :
    s.role id = .ok role ↔ s.roles.get? id.val = some role := by
  rw [RecordStore.role]
  cases s.roles.get? id.val <;> simp

theorem user_eq_ok_iff {id : UserId} {user : User} :
    s.user id = .ok user ↔ s.users.get? id.val = some user := by
  rw [RecordStore.user]
  cases s.users.get? id.val <;> simp

/-! ## The stores that changes leave -/

/-- The store with a role under a number, which need not be the one that the role asks for. -/
def withRole (s : RecordStore) (n : Nat) (role : Role) : RecordStore :=
  { s with roles := (s.roles.takeId role.id.val).put n { role with id := ⟨n⟩ } }

/-- The store with a user under a number, which need not be the one that the user asks for. -/
def withUser (s : RecordStore) (n : Nat) (user : User) : RecordStore :=
  { s with users := (s.users.takeId user.id.val).put n { user with id := ⟨n⟩ } }

/-- The store after the roles have followed a path. -/
def followRoles (s : RecordStore) (old new : Path) : RecordStore :=
  { s with roles := s.roles.mapRecords fun role => role.follow old new }

/-- The store after the users have followed a path. -/
def followUsers (s : RecordStore) (old new : Path) : RecordStore :=
  { s with users := s.users.mapRecords fun user => user.follow old new }

/-! ## Changes in closed form -/

theorem putRole_run (s : RecordStore) (role : Role) :
    putRole role s =
      if s.roles.isElsewhere (s.roles.number role.id.val) fun other => other.name == role.name then
        .error (.alreadyExists role.name)
          { s with roles := s.roles.takeId role.id.val }
      else
        .ok { role with id := ⟨s.roles.number role.id.val⟩ }
          (s.withRole (s.roles.number role.id.val) role) := by
  change (putRole role).run s = _
  split
  · next taken => simp [putRole, taken]
  · next free =>
    simp only [Bool.not_eq_true] at free
    simp [putRole, free]
    rfl

theorem eraseRole_run (s : RecordStore) (id : RoleId) :
    eraseRole id s =
      match s.roles.get? id.val with
      | none => .error (.roleNotFound (toString id)) s
      | some _ => .ok () { s with roles := s.roles.erase id.val } := by
  change (eraseRole id).run s = _
  cases found : s.roles.get? id.val <;> simp [eraseRole, found]

theorem putUser_run (s : RecordStore) (user : User) :
    putUser user s =
      if s.users.isElsewhere (s.users.number user.id.val)
          fun other => other.username == user.username then
        .error (.alreadyExists user.username)
          { s with users := s.users.takeId user.id.val }
      else
        .ok { user with id := ⟨s.users.number user.id.val⟩ }
          (s.withUser (s.users.number user.id.val) user) := by
  change (putUser user).run s = _
  split
  · next taken => simp [putUser, taken]
  · next free =>
    simp only [Bool.not_eq_true] at free
    simp [putUser, free]
    rfl

theorem mem_allUsers (h : Distinct s) (user : User) :
    user ∈ s.allUsers ↔ s.users.get? user.id.val = some user :=
  Roster.mem_values_iff (fun user : User => user.id.val)
    (fun _ _ found => congrArg UserId.val (h.user_id found)) user

theorem mem_allRoles (h : Distinct s) (role : Role) :
    role ∈ s.allRoles ↔ s.roles.get? role.id.val = some role :=
  Roster.mem_values_iff (fun role : Role => role.id.val)
    (fun _ _ found => congrArg RoleId.val (h.role_id found)) role

theorem moveBasePaths_run (h : Distinct s) (old new : Path) :
    moveBasePaths old new s =
      .ok ((basePathMoves s.allUsers old new).map BasePathMove.username)
        (s.followUsers old new) := by
  have users : (basePathMoves s.allUsers old new).foldl (fun users m =>
      users.adjust m.userId.val fun u => { u with basePath := m.target.text }) s.users =
      s.users.mapRecords fun user => user.follow old new := by
    refine Roster.foldl_adjust_eq_mapRecords ?_ ?_
    · intro m present user found
      obtain ⟨mover, stored, moves⟩ := List.mem_filterMap.mp present
      obtain ⟨id, -, target⟩ := User.target_of_basePathMove? moves
      rw [mem_allUsers h, ← id, found] at stored
      cases stored
      exact ⟨by rw [User.follow, target], by rw [User.follow, target]⟩
    · intro n user found still
      rw [User.follow_eq_self_iff]
      by_contra moves
      obtain ⟨m, moves⟩ := Option.ne_none_iff_exists'.mp moves
      have id := h.user_id found
      refine still m (List.mem_filterMap.mpr ⟨user, ?_, moves⟩) ?_
      · rw [mem_allUsers h, id]
        exact found
      · rw [(User.target_of_basePathMove? moves).1, id]
  rw [followUsers, ← users]
  rfl

theorem foldl_withRole (s : RecordStore) (roles : List Role) :
    roles.foldl (fun s role => s.withRole role.id.val role) s =
      { s with
        roles :=
          roles.foldl (fun r role => (r.takeId role.id.val).put role.id.val role) s.roles } := by
  induction roles generalizing s with
  | nil => rfl
  | cons role rest ih =>
    rw [List.foldl_cons, List.foldl_cons, ih]
    rfl

/-- To store every role whose scopes move is to let all roles follow. -/
theorem foldl_withRole_scopeMoves (h : Distinct s) (numbered : Numbered s) (old new : Path) :
    (scopeMoves s.allRoles old new).foldl (fun s role => s.withRole role.id.val role) s =
      s.followRoles old new := by
  have source : ∀ role ∈ scopeMoves s.allRoles old new,
      ∃ before, s.roles.get? role.id.val = some before ∧ before.follow old new = role := by
    intro role present
    obtain ⟨before, listed, rfl, -⟩ := mem_scopeMoves.mp present
    exact ⟨before, (mem_allRoles h before).mp listed, rfl⟩
  rw [foldl_withRole, followRoles]
  congr 1
  rw [Roster.foldl_put_eq_foldl_adjust (fun role : Role => role.id.val) fun role => role]
  · refine Roster.foldl_adjust_eq_mapRecords ?_ ?_
    · intro role present before found
      obtain ⟨known, same, rfl⟩ := source role present
      rw [found] at same
      cases same
      exact ⟨rfl, rfl⟩
    · intro n role found still
      by_contra moves
      have id := h.role_id found
      refine still (role.follow old new) (mem_scopeMoves.mpr ⟨role, ?_, rfl, moves⟩) ?_
      · rw [mem_allRoles h, id]
        exact found
      · exact congrArg RoleId.val id
  · intro role present
    obtain ⟨before, found, -⟩ := source role present
    exact ⟨before, found⟩
  · intro role present t next
    obtain ⟨before, found, -⟩ := source role present
    exact Roster.takeId_of_lt (numbered.roles.positive found) (next ▸ numbered.roles.below found)

/-! ## Names of their own -/

theorem Distinct.takeRole (h : Distinct s) (wanted : Nat) :
    Distinct { s with roles := s.roles.takeId wanted } :=
  ⟨h.roles.takeId wanted, h.users, h.role_id, h.user_id⟩

theorem Distinct.takeUser (h : Distinct s) (wanted : Nat) :
    Distinct { s with users := s.users.takeId wanted } :=
  ⟨h.roles, h.users.takeId wanted, h.role_id, h.user_id⟩

theorem Distinct.withRole (h : Distinct s) {n : Nat} {role : Role}
    (free : s.roles.isElsewhere n (fun other => other.name == role.name) = false) :
    (s.withRole n role).Distinct where
  roles := (h.roles.takeId role.id.val).put { role with id := ⟨n⟩ } free
  users := h.users
  role_id {m other} found := by
    rw [RecordStore.withRole, Roster.get?_put] at found
    split at found
    · next same =>
      cases found
      rw [same]
    · exact h.role_id found
  user_id := h.user_id

theorem Distinct.withUser (h : Distinct s) {n : Nat} {user : User}
    (free : s.users.isElsewhere n (fun other => other.username == user.username) = false) :
    (s.withUser n user).Distinct where
  roles := h.roles
  users := (h.users.takeId user.id.val).put { user with id := ⟨n⟩ } free
  role_id := h.role_id
  user_id {m other} found := by
    rw [RecordStore.withUser, Roster.get?_put] at found
    split at found
    · next same =>
      cases found
      rw [same]
    · exact h.user_id found

theorem Distinct.eraseRole (h : Distinct s) (n : Nat) :
    Distinct { s with roles := s.roles.erase n } where
  roles := h.roles.erase n
  users := h.users
  role_id {m other} found := by
    rw [Roster.get?_erase] at found
    split at found
    · contradiction
    · exact h.role_id found
  user_id := h.user_id

theorem Distinct.followRoles (h : Distinct s) (old new : Path) :
    (s.followRoles old new).Distinct where
  roles := h.roles.mapRecords fun _ => rfl
  users := h.users
  role_id {n role} found := by
    rw [RecordStore.followRoles, Roster.get?_mapRecords] at found
    obtain ⟨before, present, rfl⟩ := Option.map_eq_some_iff.mp found
    have id := h.role_id present
    exact id
  user_id := h.user_id

theorem Distinct.followUsers (h : Distinct s) (old new : Path) :
    (s.followUsers old new).Distinct where
  roles := h.roles
  users := h.users.mapRecords fun _ => rfl
  role_id := h.role_id
  user_id {n user} found := by
    rw [RecordStore.followUsers, Roster.get?_mapRecords] at found
    obtain ⟨before, present, rfl⟩ := Option.map_eq_some_iff.mp found
    have id := h.user_id present
    exact id

/-! ## Numbers in order -/

theorem Numbered.takeRole (h : Numbered s) {wanted : Nat} (room : s.roles.HasRoom wanted) :
    Numbered { s with roles := s.roles.takeId wanted } := by
  rw [Roster.takeId_eq_take room]
  exact ⟨h.roles.take _, h.users, Nat.max_lt.mpr ⟨h.role_small, room⟩, h.user_small⟩

theorem Numbered.takeUser (h : Numbered s) {wanted : Nat} (room : s.users.HasRoom wanted) :
    Numbered { s with users := s.users.takeId wanted } := by
  rw [Roster.takeId_eq_take room]
  exact ⟨h.roles, h.users.take _, h.role_small, Nat.max_lt.mpr ⟨h.user_small, room⟩⟩

theorem Numbered.withRole (h : Numbered s) {role : Role} (room : s.roles.HasRoom role.id.val) :
    (s.withRole (s.roles.number role.id.val) role).Numbered := by
  have taken := h.takeRole room
  rw [RecordStore.withRole, Roster.takeId_eq_take room] at *
  exact ⟨h.roles.put _ (h.roles.number_positive _), h.users, taken.role_small, h.user_small⟩

theorem Numbered.withUser (h : Numbered s) {user : User} (room : s.users.HasRoom user.id.val) :
    (s.withUser (s.users.number user.id.val) user).Numbered := by
  have taken := h.takeUser room
  rw [RecordStore.withUser, Roster.takeId_eq_take room] at *
  exact ⟨h.roles, h.users.put _ (h.users.number_positive _), h.role_small, taken.user_small⟩

/-- A role that is stored anew finds room. -/
theorem Numbered.hasRoom_of_role (h : Numbered s) {n : Nat} {role : Role}
    (found : s.roles.get? n = some role) : s.roles.HasRoom n := by
  rw [Roster.HasRoom, Roster.number_of_pos _ (h.roles.positive found)]
  exact Nat.lt_of_le_of_lt (h.roles.below found) h.role_small

/-- A user who is stored anew finds room. -/
theorem Numbered.hasRoom_of_user (h : Numbered s) {n : Nat} {user : User}
    (found : s.users.get? n = some user) : s.users.HasRoom n := by
  rw [Roster.HasRoom, Roster.number_of_pos _ (h.users.positive found)]
  exact Nat.lt_of_le_of_lt (h.users.below found) h.user_small

end RecordStore

end StorageGateway
