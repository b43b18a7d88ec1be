import StorageGateway.Account.Store
import StorageGateway.Proofs.Account.Records
import StorageGateway.Proofs.Account.Rows
import StorageGateway.Proofs.Run

/-!
# What the calls of a store come to

Records and rows side by side: each change of a store in closed form, and what it leaves of the
look-ups. Main statements: the closed forms `putRole_run`, `eraseRole_run`, `putUser_run` and
`moveBasePaths_run`.
-/

namespace StorageGateway

namespace AccountStore

/-- No two roles and no two users share a name, whichever kind of store it is. -/
def Distinct : AccountStore → Prop
  | records s => s.Distinct
  | rows s => s.Distinct

/-- Numbers are in order, whichever kind of store it is. -/
def Numbered : AccountStore → Prop
  | records s => s.Numbered
  | rows s => s.Numbered

/-- Names are distinct and numbers are in order. -/
structure Sound (s : AccountStore) : Prop where
  distinct : s.Distinct
  numbered : s.Numbered

/-- Two stores of a kind hold the same records, whatever numbers they will give out next. -/
def SameRecords : AccountStore → AccountStore → Prop
  | records s, records t => s.roles.records = t.roles.records ∧ s.users.records = t.users.records
  | rows s, rows t => s.roles.records = t.roles.records ∧ s.users.records = t.users.records
  | _, _ => False

theorem SameRecords.refl (s : AccountStore) : s.SameRecords s := by
  cases s <;> exact ⟨rfl, rfl⟩

/-- Two stores of a kind hold the same roles and will number the next one alike. -/
inductive SameRoles : AccountStore → AccountStore → Prop
  | records {roles : Roster Role} {users others : Roster User} :
    SameRoles (records ⟨roles, users⟩) (records ⟨roles, others⟩)
  | rows {roles : Roster RoleColumns} {users others : Roster UserColumns} :
    SameRoles (rows ⟨roles, users⟩) (rows ⟨roles, others⟩)

/-- Two stores of a kind hold the same users and will number the next one alike. -/
inductive SameUsers : AccountStore → AccountStore → Prop
  | records {roles others : Roster Role} {users : Roster User} :
    SameUsers (records ⟨roles, users⟩) (records ⟨others, users⟩)
  | rows {roles others : Roster RoleColumns} {users : Roster UserColumns} :
    SameUsers (rows ⟨roles, users⟩) (rows ⟨others, users⟩)

/-- The name of the role of a number, be it readable or not. -/
def roleName? (s : AccountStore) (n : Nat) : Option String :=
  match s with
  | records s => (s.roles.get? n).map Role.name
  | rows s => (s.roles.get? n).map RoleColumns.name

/-! ## Numbers and names -/

/-- The number of a role that asks for `wanted`, where zero asks for a new number. -/
def roleNumber (s : AccountStore) (wanted : Nat) : Nat :=
  match s with
  | records s => s.roles.number wanted
  | rows s => s.roles.number wanted

/-- The number of a user who asks for `wanted`, where zero asks for a new number. -/
def userNumber (s : AccountStore) (wanted : Nat) : Nat :=
  match s with
  | records s => s.users.number wanted
  | rows s => s.users.number wanted

/-- Whether a role of another number has the name. -/
def roleElsewhere (s : AccountStore) (n : Nat) (name : String) : Bool :=
  match s with
  | records s => s.roles.isElsewhere n fun role => role.name == name
  | rows s => s.roles.isElsewhere n fun row => row.name == name

/-- Whether a user of another number has the username. -/
def userElsewhere (s : AccountStore) (n : Nat) (name : String) : Bool :=
  match s with
  | records s => s.users.isElsewhere n fun user => user.username == name
  | rows s => s.users.isElsewhere n fun row => row.username == name

/-- A name is found elsewhere if a role of another number has it, be it readable or not. -/
theorem roleElsewhere_iff (s : AccountStore) (n : Nat) (name : String) :
    s.roleElsewhere n name = true ↔ ∃ m, m ≠ n ∧ s.roleName? m = some name := by
  cases s with
  | records s => simp [roleElsewhere, roleName?, Roster.isElsewhere_iff]
  | rows s => simp [roleElsewhere, roleName?, Roster.isElsewhere_iff]

/-- Whether a number can be told as an id. -/
def canTell (s : AccountStore) (n : Nat) : Bool :=
  match s with
  | records _ => true
  | rows _ => n < idLimit

/-- A number of 32 bits can be told. -/
theorem canTell_of_lt (s : AccountStore) {n : Nat} (small : n < idLimit) : s.canTell n = true := by
  cases s with
  | records s => rfl
  | rows s => exact decide_eq_true small

theorem roleNumber_of_pos (s : AccountStore) {n : Nat} (positive : 0 < n) :
    s.roleNumber n = n := by
  cases s <;> exact Roster.number_of_pos _ positive

theorem userNumber_of_pos (s : AccountStore) {n : Nat} (positive : 0 < n) :
    s.userNumber n = n := by
  cases s <;> exact Roster.number_of_pos _ positive

/-- Whether a role that asks for `wanted` can be stored before the count of role numbers comes round.
Rows are numbered without end. -/
def HasRoleRoom (s : AccountStore) (wanted : Nat) : Prop :=
  match s with
  | records s => s.roles.HasRoom wanted
  | rows _ => True

/-- Whether a user who asks for `wanted` can be stored before the count of user numbers comes round.
Rows are numbered without end. -/
def HasUserRoom (s : AccountStore) (wanted : Nat) : Prop :=
  match s with
  | records s => s.users.HasRoom wanted
  | rows _ => True

instance (s : AccountStore) (wanted : Nat) : Decidable (s.HasRoleRoom wanted) :=
  match s with
  | records s => inferInstanceAs (Decidable (s.roles.HasRoom wanted))
  | rows _ => inferInstanceAs (Decidable True)

instance (s : AccountStore) (wanted : Nat) : Decidable (s.HasUserRoom wanted) :=
  match s with
  | records s => inferInstanceAs (Decidable (s.users.HasRoom wanted))
  | rows _ => inferInstanceAs (Decidable True)

/-- A positive number finds room if the number after it has 32 bits. -/
theorem hasRoleRoom_of_pos (s : AccountStore) {n : Nat} (positive : 0 < n)
    (small : n + 1 < idLimit) : s.HasRoleRoom n := by
  cases s with
  | records s => rwa [HasRoleRoom, Roster.HasRoom, Roster.number_of_pos _ positive]
  | rows s => exact True.intro

/-! ## The stores that changes leave -/

/-- The store after a role was refused that asked for `wanted`; records have used up its number. -/
def withoutNewRole (s : AccountStore) (wanted : Nat) : AccountStore :=
  match s with
  | records s => records { s with roles := s.roles.takeId wanted }
  | rows s => rows s

/-- The store after a user was refused who asked for `wanted`; records have used up their number. -/
def withoutNewUser (s : AccountStore) (wanted : Nat) : AccountStore :=
  match s with
  | records s => records { s with users := s.users.takeId wanted }
  | rows s => rows s

/-- The store with a role under a number. -/
def withRole (s : AccountStore) (n : Nat) (role : Role) : AccountStore :=
  match s with
  | records s => records (s.withRole n role)
  | rows s => rows (s.withRole n role)

/-- The store with a user under a number. -/
def withUser (s : AccountStore) (n : Nat) (user : User) : AccountStore :=
  match s with
  | records s => records (s.withUser n user)
  | rows s => rows (s.withUser n user)

/-- The store without the role of a number. -/
def withoutRole (s : AccountStore) (n : Nat) : AccountStore :=
  match s with
  | records s => records { s with roles := s.roles.erase n }
  | rows s => rows { s with roles := s.roles.erase n }

/-- The store after the roles have followed a path. -/
def followRoles (s : AccountStore) (old new : Path) : AccountStore :=
  match s with
  | records s => records (s.followRoles old new)
  | rows s => rows (s.followRoles old new)

/-- The store after the users have followed a path. -/
def followUsers (s : AccountStore) (old new : Path) : AccountStore :=
  match s with
  | records s => records (s.followUsers old new)
  | rows s => rows (s.followUsers old new)

theorem sameRecords_withoutNewRole (s : AccountStore) (wanted : Nat) :
    s.SameRecords (s.withoutNewRole wanted) := by
  cases s <;> exact ⟨rfl, rfl⟩

theorem sameRecords_withoutNewUser (s : AccountStore) (wanted : Nat) :
    s.SameRecords (s.withoutNewUser wanted) := by
  cases s <;> exact ⟨rfl, rfl⟩

/-! ## Changes in closed form -/

/-- A role is refused if its name is taken. A number that cannot be told makes the call fail, but
the role is stored. -/
theorem putRole_run (s : AccountStore) (role : Role) :
    putRole role s =
      let n := s.roleNumber role.id.val
      if s.roleElsewhere n role.name then
        .error (.alreadyExists role.name) (s.withoutNewRole role.id.val)
      else if s.canTell n then .ok { role with id := ⟨n⟩ } (s.withRole n role)
      else .error .store (s.withRole n role) := by
  by_cases taken : s.roleElsewhere (s.roleNumber role.id.val) role.name = true
  · rw [if_pos taken]
    cases s with
    | records s =>
      have refused := (RecordStore.putRole_run s role).trans (if_pos taken)
      rw [putRole, change, refused]
      rfl
    | rows s =>
      have refused := (RowStore.putRole_run s role).trans (if_pos taken)
      rw [putRole, change, refused]
      rfl
  · rw [if_neg taken]
    cases s with
    | records s =>
      have stored := (RecordStore.putRole_run s role).trans (if_neg taken)
      rw [putRole, change, stored]
      rfl
    | rows s =>
      have stored := (RowStore.putRole_run s role).trans (if_neg taken)
      rw [putRole, change, stored]
      by_cases small : s.roles.number role.id.val < idLimit
      · rw [if_pos small]
        exact (if_pos (decide_eq_true small)).symm
      · rw [if_neg small]
        exact (if_neg fun told => small (of_decide_eq_true told)).symm

theorem putRole_taken {s : AccountStore} (role : Role)
    (taken : s.roleElsewhere (s.roleNumber role.id.val) role.name = true) :
    putRole role s = .error (.alreadyExists role.name) (s.withoutNewRole role.id.val) := by
  rw [putRole_run]
  exact if_pos taken

theorem putRole_told {s : AccountStore} (role : Role)
    (free : s.roleElsewhere (s.roleNumber role.id.val) role.name = false)
    (told : s.canTell (s.roleNumber role.id.val) = true) :
    putRole role s =
      .ok { role with id := ⟨s.roleNumber role.id.val⟩ }
        (s.withRole (s.roleNumber role.id.val) role) := by
  rw [putRole_run]
  dsimp only
  rw [if_neg (by simp [free]), if_pos told]

theorem putRole_untold {s : AccountStore} (role : Role)
    (free : s.roleElsewhere (s.roleNumber role.id.val) role.name = false)
    (untold : s.canTell (s.roleNumber role.id.val) = false) :
    putRole role s = .error .store (s.withRole (s.roleNumber role.id.val) role) := by
  rw [putRole_run]
  dsimp only
  rw [if_neg (by simp [free]), if_neg (by simp [untold])]

/-- When a role is accepted, what is answered and what is stored. -/
theorem putRole_eq_ok_iff {s t : AccountStore} {role stored : Role} :
    putRole role s = .ok stored t ↔
      s.roleElsewhere (s.roleNumber role.id.val) role.name = false ∧
        s.canTell (s.roleNumber role.id.val) = true ∧
        stored = { role with id := ⟨s.roleNumber role.id.val⟩ } ∧
        t = s.withRole (s.roleNumber role.id.val) role := by
  cases taken : s.roleElsewhere (s.roleNumber role.id.val) role.name with
  | true => simp [putRole_taken role taken]
  | false =>
    cases told : s.canTell (s.roleNumber role.id.val) with
    | true => simp [putRole_told role taken told, eq_comm]
    | false => simp [putRole_untold role taken told]

/-- A user is refused if their username is taken. A number that cannot be told makes the call fail,
but the user is stored. -/
theorem putUser_run (s : AccountStore) (user : User) :
    putUser user s =
      let n := s.userNumber user.id.val
      if s.userElsewhere n user.username then
        .error (.alreadyExists user.username) (s.withoutNewUser user.id.val)
      else if s.canTell n then .ok { user with id := ⟨n⟩ } (s.withUser n user)
      else .error .store (s.withUser n user) := by
  by_cases taken : s.userElsewhere (s.userNumber user.id.val) user.username = true
  · rw [if_pos taken]
    cases s with
    | records s =>
      have refused := (RecordStore.putUser_run s user).trans (if_pos taken)
      rw [putUser, change, refused]
      rfl
    | rows s =>
      have refused := (RowStore.putUser_run s user).trans (if_pos taken)
      rw [putUser, change, refused]
      rfl
  · rw [if_neg taken]
    cases s with
    | records s =>
      have stored := (RecordStore.putUser_run s user).trans (if_neg taken)
      rw [putUser, change, stored]
      rfl
    | rows s =>
      have stored := (RowStore.putUser_run s user).trans (if_neg taken)
      rw [putUser, change, stored]
      by_cases small : s.users.number user.id.val < idLimit
      · rw [if_pos small]
        exact (if_pos (decide_eq_true small)).symm
      · rw [if_neg small]
        exact (if_neg fun told => small (of_decide_eq_true told)).symm

theorem putUser_taken {s : AccountStore} (user : User)
    (taken : s.userElsewhere (s.userNumber user.id.val) user.username = true) :
    putUser user s = .error (.alreadyExists user.username) (s.withoutNewUser user.id.val) := by
  rw [putUser_run]
  exact if_pos taken

theorem putUser_told {s : AccountStore} (user : User)
    (free : s.userElsewhere (s.userNumber user.id.val) user.username = false)
    (told : s.canTell (s.userNumber user.id.val) = true) :
    putUser user s =
      .ok { user with id := ⟨s.userNumber user.id.val⟩ }
        (s.withUser (s.userNumber user.id.val) user) := by
  rw [putUser_run]
  dsimp only
  rw [if_neg (by simp [free]), if_pos told]

theorem putUser_untold {s : AccountStore} (user : User)
    (free : s.userElsewhere (s.userNumber user.id.val) user.username = false)
    (untold : s.canTell (s.userNumber user.id.val) = false) :
    putUser user s = .error .store (s.withUser (s.userNumber user.id.val) user) := by
  rw [putUser_run]
  dsimp only
  rw [if_neg (by simp [free]), if_neg (by simp [untold])]

/-- When a user is accepted, what is answered and what is stored. -/
theorem putUser_eq_ok_iff {s t : AccountStore} {user stored : User} :
    putUser user s = .ok stored t ↔
      s.userElsewhere (s.userNumber user.id.val) user.username = false ∧
        s.canTell (s.userNumber user.id.val) = true ∧
        stored = { user with id := ⟨s.userNumber user.id.val⟩ } ∧
        t = s.withUser (s.userNumber user.id.val) user := by
  cases taken : s.userElsewhere (s.userNumber user.id.val) user.username with
  | true => simp [putUser_taken user taken]
  | false =>
    cases told : s.canTell (s.userNumber user.id.val) with
    | true => simp [putUser_told user taken told, eq_comm]
    | false => simp [putUser_untold user taken told]

/-- Base paths follow at once, unless a user cannot be read. -/
theorem moveBasePaths_run {s : AccountStore} (distinct : s.Distinct) (old new : Path) :
    moveBasePaths old new s =
      match s.allUsers with
      | .error e => .error e s
      | .ok users => .ok ((basePathMoves users old new).map BasePathMove.username)
          (s.followUsers old new) := by
  cases s with
  | records s =>
    simp only [moveBasePaths, change, RecordStore.moveBasePaths_run distinct, allUsers]
    rfl
  | rows s =>
    simp only [moveBasePaths, change, RowStore.moveBasePaths_run, allUsers]
    cases s.allUsers <;> rfl

/-- Whether there is a role of the number, be it readable or not. -/
def holdsRole (s : AccountStore) (n : Nat) : Bool :=
  match s with
  | records s => (s.roles.get? n).isSome
  | rows s => (s.roles.get? n).isSome

theorem eraseRole_run (s : AccountStore) (id : RoleId) :
    eraseRole id s =
      if s.holdsRole id.val then .ok () (s.withoutRole id.val)
      else .error (.roleNotFound (toString id)) s := by
  cases s with
  | records s =>
    rw [eraseRole, change, RecordStore.eraseRole_run]
    cases found : s.roles.get? id.val with
    | none => rw [if_neg (by simp [holdsRole, found])]
    | some role =>
      rw [if_pos (by simp [holdsRole, found])]
      rfl
  | rows s =>
    rw [eraseRole, change, RowStore.eraseRole_run]
    cases found : s.roles.get? id.val with
    | none => rw [if_neg (by simp [holdsRole, found])]
    | some row =>
      rw [if_pos (by simp [holdsRole, found])]
      rfl

/-- To store every role whose scopes move is to let all roles follow. -/
theorem foldl_withRole_scopeMoves {s : AccountStore} (sound : s.Sound) {roles : List Role}
    (all : s.allRoles = .ok roles) (old new : Path) :
    (scopeMoves roles old new).foldl (fun s role => s.withRole role.id.val role) s =
      s.followRoles old new := by
  cases s with
  | records s =>
    cases all
    rw [followRoles, ← RecordStore.foldl_withRole_scopeMoves sound.distinct sound.numbered old new]
    exact List.foldl_hom records fun _ _ => rfl
  | rows s =>
    rw [followRoles, ← RowStore.foldl_withRole_scopeMoves sound.numbered all old new]
    exact List.foldl_hom rows fun _ _ => rfl

/-! ## Look-ups after changes -/

theorem mem_allRoles {s : AccountStore} (distinct : s.Distinct) {roles : List Role}
    (all : s.allRoles = .ok roles) (role : Role) : role ∈ roles ↔ s.role role.id = .ok role := by
  cases s with
  | records s =>
    cases all
    exact (RecordStore.mem_allRoles distinct role).trans RecordStore.role_eq_ok_iff.symm
  | rows s => exact (RowStore.mem_allRoles all role).trans RowStore.role_eq_ok_iff.symm

theorem mem_allUsers {s : AccountStore} (distinct : s.Distinct) {users : List User}
    (all : s.allUsers = .ok users) (user : User) : user ∈ users ↔ s.user user.id = .ok user := by
  cases s with
  | records s =>
    cases all
    exact (RecordStore.mem_allUsers distinct user).trans RecordStore.user_eq_ok_iff.symm
  | rows s => exact (RowStore.mem_allUsers all user).trans RowStore.user_eq_ok_iff.symm

theorem role_withRole (s : AccountStore) (n : Nat) (role : Role) (id : RoleId) :
    (s.withRole n role).role id =
      if id.val = n then if s.canTell n then .ok { role with id := ⟨n⟩ } else .error .store
      else s.role id := by
  by_cases same : id.val = n
  · rw [if_pos same]
    cases s with
    | records s =>
      simp only [withRole, AccountStore.role, RecordStore.role, RecordStore.withRole,
        Roster.get?_put, if_pos same]
      rfl
    | rows s =>
      simp only [withRole, AccountStore.role, RowStore.role, RowStore.withRole, Roster.get?_put,
        if_pos same]
      rw [RoleColumns.role_ofRole, same]
      by_cases small : n < idLimit
      · rw [if_pos small, if_pos (by simpa [canTell] using small)]
      · rw [if_neg small, if_neg (by simpa [canTell] using small)]
  · rw [if_neg same]
    cases s with
    | records s =>
      simp only [withRole, AccountStore.role, RecordStore.role, RecordStore.withRole,
        Roster.get?_put, if_neg same, Roster.get?_takeId]
    | rows s =>
      simp only [withRole, AccountStore.role, RowStore.role, RowStore.withRole, Roster.get?_put,
        if_neg same, Roster.get?_take]

theorem role_withoutRole (s : AccountStore) (n : Nat) {id : RoleId} (other : id.val ≠ n) :
    (s.withoutRole n).role id = s.role id := by
  cases s with
  | records s =>
    simp only [withoutRole, AccountStore.role, RecordStore.role, Roster.get?_erase, if_neg other]
  | rows s => simp only [withoutRole, AccountStore.role, RowStore.role, Roster.get?_erase, if_neg other]

@[simp] theorem role_withoutNewRole (s : AccountStore) (wanted : Nat) (id : RoleId) :
    (s.withoutNewRole wanted).role id = s.role id := by
  cases s <;> rfl

@[simp] theorem role_withoutNewUser (s : AccountStore) (wanted : Nat) (id : RoleId) :
    (s.withoutNewUser wanted).role id = s.role id := by
  cases s <;> rfl

@[simp] theorem role_withUser (s : AccountStore) (n : Nat) (user : User) (id : RoleId) :
    (s.withUser n user).role id = s.role id := by
  cases s <;> rfl

@[simp] theorem allUsers_followRoles (s : AccountStore) (old new : Path) :
    (s.followRoles old new).allUsers = s.allUsers := by
  cases s <;> rfl

@[simp] theorem user_followRoles (s : AccountStore) (old new : Path) (id : UserId) :
    (s.followRoles old new).user id = s.user id := by
  cases s <;> rfl

@[simp] theorem role_followUsers (s : AccountStore) (old new : Path) (id : RoleId) :
    (s.followUsers old new).role id = s.role id := by
  cases s <;> rfl

theorem user_followUsers (s : AccountStore) (old new : Path) (id : UserId) :
    (s.followUsers old new).user id = (s.user id).map fun user => user.follow old new := by
  cases s with
  | records s =>
    simp only [followUsers, user, RecordStore.user, RecordStore.followUsers, Roster.get?_mapRecords]
    cases s.users.get? id.val <;> rfl
  | rows s =>
    simp only [followUsers, user, RowStore.user, RowStore.followUsers, Roster.get?_mapRecords]
    cases s.users.get? id.val with
    | none => rfl
    | some row => exact row.user_follow id.val old new

theorem role_followRoles (s : AccountStore) (old new : Path) (id : RoleId) :
    (s.followRoles old new).role id = (s.role id).map fun role => role.follow old new := by
  cases s with
  | records s =>
    simp only [followRoles, role, RecordStore.role, RecordStore.followRoles, Roster.get?_mapRecords]
    cases s.roles.get? id.val <;> rfl
  | rows s =>
    simp only [followRoles, role, RowStore.role, RowStore.followRoles, Roster.get?_mapRecords]
    cases s.roles.get? id.val with
    | none => rfl
    | some row => exact row.role_follow id.val old new

/-! ## Stores with the same roles -/

namespace SameRoles

variable {s t u : AccountStore}

theorem refl : (s : AccountStore) → s.SameRoles s
  | .records _ => .records
  | .rows _ => .rows

theorem trans (first : s.SameRoles t) (second : t.SameRoles u) : s.SameRoles u := by
  cases first with
  | records =>
    cases second
    exact .records
  | rows =>
    cases second
    exact .rows

theorem role (same : s.SameRoles t) (id : RoleId) : s.role id = t.role id := by
  cases same <;> rfl

theorem roleName? (same : s.SameRoles t) (n : Nat) : s.roleName? n = t.roleName? n := by
  cases same <;> rfl

theorem roleNumber (same : s.SameRoles t) (wanted : Nat) :
    s.roleNumber wanted = t.roleNumber wanted := by
  cases same <;> rfl

end SameRoles

theorem sameRoles_withoutNewUser (wanted : Nat) :
    (s : AccountStore) → (s.withoutNewUser wanted).SameRoles s
  | records _ => .records
  | rows _ => .rows

theorem sameRoles_withUser (n : Nat) (user : User) :
    (s : AccountStore) → (s.withUser n user).SameRoles s
  | records _ => .records
  | rows _ => .rows

theorem sameRoles_followUsers (old new : Path) :
    (s : AccountStore) → (s.followUsers old new).SameRoles s
  | records _ => .records
  | rows _ => .rows

/-! ## Stores with the same users -/

namespace SameUsers

variable {s t u : AccountStore}

theorem refl : (s : AccountStore) → s.SameUsers s
  | .records _ => .records
  | .rows _ => .rows

theorem trans (first : s.SameUsers t) (second : t.SameUsers u) : s.SameUsers u := by
  cases first with
  | records =>
    cases second
    exact .records
  | rows =>
    cases second
    exact .rows

theorem user (same : s.SameUsers t) (id : UserId) : s.user id = t.user id := by
  cases same <;> rfl

theorem allUsers (same : s.SameUsers t) : s.allUsers = t.allUsers := by
  cases same <;> rfl

end SameUsers

theorem sameUsers_withoutNewRole (wanted : Nat) :
    (s : AccountStore) → (s.withoutNewRole wanted).SameUsers s
  | records _ => .records
  | rows _ => .rows

theorem sameUsers_withRole (n : Nat) (role : Role) :
    (s : AccountStore) → (s.withRole n role).SameUsers s
  | records _ => .records
  | rows _ => .rows

/-! ## Names after changes -/

@[simp] theorem roleName?_withoutNewRole (s : AccountStore) (m n : Nat) :
    (s.withoutNewRole m).roleName? n = s.roleName? n := by
  cases s <;> rfl

theorem roleName?_withRole (s : AccountStore) (m n : Nat) (role : Role) :
    (s.withRole m role).roleName? n = if n = m then some role.name else s.roleName? n := by
  cases s with
  | records s =>
    simp only [withRole, roleName?, RecordStore.withRole, Roster.get?_put, Roster.get?_takeId]
    split <;> rfl
  | rows s =>
    simp only [withRole, roleName?, RowStore.withRole, Roster.get?_put, Roster.get?_take]
    split <;> rfl

theorem roleName?_withoutRole (s : AccountStore) (m n : Nat) :
    (s.withoutRole m).roleName? n = if n = m then none else s.roleName? n := by
  cases s with
  | records s =>
    simp only [withoutRole, roleName?, Roster.get?_erase]
    split <;> rfl
  | rows s =>
    simp only [withoutRole, roleName?, Roster.get?_erase]
    split <;> rfl

@[simp] theorem roleName?_followRoles (s : AccountStore) (old new : Path) (n : Nat) :
    (s.followRoles old new).roleName? n = s.roleName? n := by
  cases s with
  | records s =>
    simp only [followRoles, roleName?, RecordStore.followRoles, Roster.get?_mapRecords,
      Option.map_map]
    rfl
  | rows s =>
    simp only [followRoles, roleName?, RowStore.followRoles, Roster.get?_mapRecords, Option.map_map]
    exact congrArg (Option.map · _) (funext fun row => row.name_follow old new)

/-! ## Next numbers after changes -/

theorem le_roleNumber_withoutNewRole {s : AccountStore} {wanted : Nat}
    (room : s.HasRoleRoom wanted) :
    s.roleNumber 0 ≤ (s.withoutNewRole wanted).roleNumber 0 := by
  cases s with
  | records s =>
    rw [withoutNewRole, Roster.takeId_eq_take room]
    exact Nat.le_max_left _ _
  | rows s => exact Nat.le_refl _

theorem le_roleNumber_withRole {s : AccountStore} (n : Nat) {role : Role}
    (room : s.HasRoleRoom role.id.val) :
    s.roleNumber 0 ≤ (s.withRole n role).roleNumber 0 := by
  cases s with
  | records s =>
    rw [withRole, RecordStore.withRole, Roster.takeId_eq_take room]
    exact Nat.le_max_left _ _
  | rows s => exact Nat.le_max_left _ _

theorem le_userNumber_withoutNewUser {s : AccountStore} {wanted : Nat}
    (room : s.HasUserRoom wanted) :
    s.userNumber 0 ≤ (s.withoutNewUser wanted).userNumber 0 := by
  cases s with
  | records s =>
    rw [withoutNewUser, Roster.takeId_eq_take room]
    exact Nat.le_max_left _ _
  | rows s => exact Nat.le_refl _

theorem le_userNumber_withUser {s : AccountStore} (n : Nat) {user : User}
    (room : s.HasUserRoom user.id.val) :
    s.userNumber 0 ≤ (s.withUser n user).userNumber 0 := by
  cases s with
  | records s =>
    rw [withUser, RecordStore.withUser, Roster.takeId_eq_take room]
    exact Nat.le_max_left _ _
  | rows s => exact Nat.le_max_left _ _

@[simp] theorem roleNumber_withoutRole (s : AccountStore) (n wanted : Nat) :
    (s.withoutRole n).roleNumber wanted = s.roleNumber wanted := by
  cases s <;> rfl

@[simp] theorem roleNumber_followRoles (s : AccountStore) (old new : Path) (wanted : Nat) :
    (s.followRoles old new).roleNumber wanted = s.roleNumber wanted := by
  cases s <;> rfl

end AccountStore

end StorageGateway
