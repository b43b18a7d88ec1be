import StorageGateway.Proofs.Account.Store

/-!
# Stores with names and numbers in order

The two invariants of a store. Names stay distinct whatever happens. Numbers stay in order as long as
no count of numbers comes round, which can only be where records are numbered. Main statements:
`Reached.distinct` and `ReachedInRange.sound`.
-/

namespace StorageGateway

namespace AccountStore

/-! ## Names of their own -/

namespace Distinct

variable {s : AccountStore}

theorem withoutNewRole (distinct : s.Distinct) (wanted : Nat) :
    (s.withoutNewRole wanted).Distinct := by
  cases s with
  | records s => exact RecordStore.Distinct.takeRole distinct wanted
  | rows s => exact distinct

theorem withoutNewUser (distinct : s.Distinct) (wanted : Nat) :
    (s.withoutNewUser wanted).Distinct := by
  cases s with
  | records s => exact RecordStore.Distinct.takeUser distinct wanted
  | rows s => exact distinct

theorem withRole (distinct : s.Distinct) {n : Nat} {role : Role}
    (free : s.roleElsewhere n role.name = false) : (s.withRole n role).Distinct := by
  cases s with
  | records s => exact RecordStore.Distinct.withRole distinct free
  | rows s => exact RowStore.Distinct.withRole distinct free

theorem withUser (distinct : s.Distinct) {n : Nat} {user : User}
    (free : s.userElsewhere n user.username = false) : (s.withUser n user).Distinct := by
  cases s with
  | records s => exact RecordStore.Distinct.withUser distinct free
  | rows s => exact RowStore.Distinct.withUser distinct free

theorem withoutRole (distinct : s.Distinct) (n : Nat) : (s.withoutRole n).Distinct := by
  cases s with
  | records s => exact RecordStore.Distinct.eraseRole distinct n
  | rows s => exact RowStore.Distinct.eraseRole distinct n

theorem followRoles (distinct : s.Distinct) (old new : Path) : (s.followRoles old new).Distinct := by
  cases s with
  | records s => exact RecordStore.Distinct.followRoles distinct old new
  | rows s => exact RowStore.Distinct.followRoles distinct old new

theorem followUsers (distinct : s.Distinct) (old new : Path) : (s.followUsers old new).Distinct := by
  cases s with
  | records s => exact RecordStore.Distinct.followUsers distinct old new
  | rows s => exact RowStore.Distinct.followUsers distinct old new

/-- A role that can be read has its id, and no other role has its name. -/
theorem of_role (distinct : s.Distinct) {id : RoleId} {role : Role} (found : s.role id = .ok role) :
    role.id = id ∧ s.canTell id.val = true ∧ s.roleElsewhere id.val role.name = false := by
  cases s with
  | records s =>
    have present := RecordStore.role_eq_ok_iff.mp found
    exact ⟨distinct.role_id present, rfl, distinct.roles.not_elsewhere present⟩
  | rows s =>
    obtain ⟨row, present, reads⟩ := RowStore.role_eq_ok_iff.mp found
    obtain ⟨small, same, name, -⟩ := RoleColumns.role_eq_ok_iff.mp reads
    refine ⟨same, decide_eq_true small, ?_⟩
    rw [name]
    exact distinct.roles.not_elsewhere present

/-- A user who can be read has their id, and no other user has their username. -/
theorem of_user (distinct : s.Distinct) {id : UserId} {user : User} (found : s.user id = .ok user) :
    user.id = id ∧ s.canTell id.val = true ∧ s.userElsewhere id.val user.username = false := by
  cases s with
  | records s =>
    have present := RecordStore.user_eq_ok_iff.mp found
    exact ⟨distinct.user_id present, rfl, distinct.users.not_elsewhere present⟩
  | rows s =>
    obtain ⟨row, present, reads⟩ := RowStore.user_eq_ok_iff.mp found
    obtain ⟨small, same, name, -⟩ := UserColumns.user_eq_ok reads
    refine ⟨same, decide_eq_true small, ?_⟩
    rw [name]
    exact distinct.users.not_elsewhere present

/-- A user who can be read is found by their username. -/
theorem userNamed (distinct : s.Distinct) {id : UserId} {user : User}
    (found : s.user id = .ok user) : s.userNamed user.username = .ok user := by
  cases s with
  | records s =>
    have present := RecordStore.user_eq_ok_iff.mp found
    rw [AccountStore.userNamed, RecordStore.userNamed, distinct.users.find?_eq present]
  | rows s =>
    obtain ⟨row, present, reads⟩ := RowStore.user_eq_ok_iff.mp found
    obtain ⟨-, -, name, -⟩ := UserColumns.user_eq_ok reads
    rw [AccountStore.userNamed, RowStore.userNamed, name, distinct.users.find?_eq present]
    exact reads

end Distinct

/-! ## Numbers in order -/

namespace Numbered

variable {s : AccountStore}

theorem number_role_positive (numbered : s.Numbered) (wanted : Nat) : 0 < s.roleNumber wanted := by
  cases s with
  | records s => exact numbered.roles.number_positive wanted
  | rows s => exact numbered.roles.number_positive wanted

theorem number_user_positive (numbered : s.Numbered) (wanted : Nat) : 0 < s.userNumber wanted := by
  cases s with
  | records s => exact numbered.users.number_positive wanted
  | rows s => exact numbered.users.number_positive wanted

theorem role_positive (numbered : s.Numbered) {id : RoleId} {role : Role}
    (found : s.role id = .ok role) : 0 < id.val := by
  cases s with
  | records s => exact numbered.roles.positive (RecordStore.role_eq_ok_iff.mp found)
  | rows s =>
    obtain ⟨row, present, -⟩ := RowStore.role_eq_ok_iff.mp found
    exact numbered.roles.positive present

theorem user_positive (numbered : s.Numbered) {id : UserId} {user : User}
    (found : s.user id = .ok user) : 0 < id.val := by
  cases s with
  | records s => exact numbered.users.positive (RecordStore.user_eq_ok_iff.mp found)
  | rows s =>
    obtain ⟨row, present, -⟩ := RowStore.user_eq_ok_iff.mp found
    exact numbered.users.positive present

theorem withoutNewRole (numbered : s.Numbered) {wanted : Nat} (room : s.HasRoleRoom wanted) :
    (s.withoutNewRole wanted).Numbered := by
  cases s with
  | records s => exact RecordStore.Numbered.takeRole numbered room
  | rows s => exact numbered

theorem withoutNewUser (numbered : s.Numbered) {wanted : Nat} (room : s.HasUserRoom wanted) :
    (s.withoutNewUser wanted).Numbered := by
  cases s with
  | records s => exact RecordStore.Numbered.takeUser numbered room
  | rows s => exact numbered

theorem withRole (numbered : s.Numbered) {role : Role} (room : s.HasRoleRoom role.id.val) :
    (s.withRole (s.roleNumber role.id.val) role).Numbered := by
  have positive := numbered.number_role_positive role.id.val
  cases s with
  | records s => exact RecordStore.Numbered.withRole numbered room
  | rows s => exact RowStore.Numbered.withRole numbered role positive

theorem withUser (numbered : s.Numbered) {user : User} (room : s.HasUserRoom user.id.val) :
    (s.withUser (s.userNumber user.id.val) user).Numbered := by
  have positive := numbered.number_user_positive user.id.val
  cases s with
  | records s => exact RecordStore.Numbered.withUser numbered room
  | rows s => exact RowStore.Numbered.withUser numbered user positive

/-- A role that is stored anew finds room. -/
theorem hasRoleRoom (numbered : s.Numbered) {id : RoleId} {role : Role}
    (found : s.role id = .ok role) : s.HasRoleRoom id.val := by
  cases s with
  | records s =>
    exact RecordStore.Numbered.hasRoom_of_role numbered (RecordStore.role_eq_ok_iff.mp found)
  | rows s => exact True.intro

/-- A user who is stored anew finds room. -/
theorem hasUserRoom (numbered : s.Numbered) {id : UserId} {user : User}
    (found : s.user id = .ok user) : s.HasUserRoom id.val := by
  cases s with
  | records s =>
    exact RecordStore.Numbered.hasRoom_of_user numbered (RecordStore.user_eq_ok_iff.mp found)
  | rows s => exact True.intro

theorem withoutRole (numbered : s.Numbered) (n : Nat) : (s.withoutRole n).Numbered := by
  cases s with
  | records s =>
    exact ⟨numbered.roles.erase n, numbered.users, numbered.role_small, numbered.user_small⟩
  | rows s => exact ⟨numbered.roles.erase n, numbered.users⟩

theorem followRoles (numbered : s.Numbered) (old new : Path) : (s.followRoles old new).Numbered := by
  cases s with
  | records s =>
    exact ⟨numbered.roles.mapRecords _, numbered.users, numbered.role_small, numbered.user_small⟩
  | rows s => exact ⟨numbered.roles.mapRecords _, numbered.users⟩

theorem followUsers (numbered : s.Numbered) (old new : Path) : (s.followUsers old new).Numbered := by
  cases s with
  | records s =>
    exact ⟨numbered.roles, numbered.users.mapRecords _, numbered.role_small, numbered.user_small⟩
  | rows s => exact ⟨numbered.roles, numbered.users.mapRecords _⟩

end Numbered

/-! ## Soundness -/

namespace Sound

variable {s : AccountStore}

theorem withoutNewRole (sound : s.Sound) {wanted : Nat} (room : s.HasRoleRoom wanted) :
    (s.withoutNewRole wanted).Sound :=
  ⟨sound.distinct.withoutNewRole wanted, sound.numbered.withoutNewRole room⟩

theorem withoutNewUser (sound : s.Sound) {wanted : Nat} (room : s.HasUserRoom wanted) :
    (s.withoutNewUser wanted).Sound :=
  ⟨sound.distinct.withoutNewUser wanted, sound.numbered.withoutNewUser room⟩

/-- A role can be stored under its number if there is room and its name is not found elsewhere. -/
theorem withRole (sound : s.Sound) {role : Role} (room : s.HasRoleRoom role.id.val)
    (free : s.roleElsewhere (s.roleNumber role.id.val) role.name = false) :
    (s.withRole (s.roleNumber role.id.val) role).Sound :=
  ⟨sound.distinct.withRole free, sound.numbered.withRole room⟩

/-- A user can be stored under their number if there is room and their name is not found elsewhere. -/
theorem withUser (sound : s.Sound) {user : User} (room : s.HasUserRoom user.id.val)
    (free : s.userElsewhere (s.userNumber user.id.val) user.username = false) :
    (s.withUser (s.userNumber user.id.val) user).Sound :=
  ⟨sound.distinct.withUser free, sound.numbered.withUser room⟩

/-- A role that has an id can be stored under it. -/
theorem withRole_of_pos (sound : s.Sound) {role : Role} (positive : 0 < role.id.val)
    (room : s.HasRoleRoom role.id.val) (free : s.roleElsewhere role.id.val role.name = false) :
    (s.withRole role.id.val role).Sound := by
  rw [← s.roleNumber_of_pos positive] at free ⊢
  exact sound.withRole room free

/-- A user who has an id can be stored under it. -/
theorem withUser_of_pos (sound : s.Sound) {user : User} (positive : 0 < user.id.val)
    (room : s.HasUserRoom user.id.val) (free : s.userElsewhere user.id.val user.username = false) :
    (s.withUser user.id.val user).Sound := by
  rw [← s.userNumber_of_pos positive] at free ⊢
  exact sound.withUser room free

theorem withoutRole (sound : s.Sound) (n : Nat) : (s.withoutRole n).Sound :=
  ⟨sound.distinct.withoutRole n, sound.numbered.withoutRole n⟩

theorem followRoles (sound : s.Sound) (old new : Path) : (s.followRoles old new).Sound :=
  ⟨sound.distinct.followRoles old new, sound.numbered.followRoles old new⟩

theorem followUsers (sound : s.Sound) (old new : Path) : (s.followUsers old new).Sound :=
  ⟨sound.distinct.followUsers old new, sound.numbered.followUsers old new⟩

end Sound

/-- A role that has an id is stored under it, if the name is free. -/
theorem putRole_of_positive {s : AccountStore} {role : Role} (positive : 0 < role.id.val)
    (told : s.canTell role.id.val = true) :
    putRole role s =
      if s.roleElsewhere role.id.val role.name then
        .error (.alreadyExists role.name) (s.withoutNewRole role.id.val)
      else .ok role (s.withRole role.id.val role) := by
  have number := s.roleNumber_of_pos positive
  rw [putRole_run, number]
  dsimp only
  rw [if_pos told]

/-- A stored role can be stored anew if it keeps its name and its number is no request for another. -/
theorem putRole_of_held {s : AccountStore} (distinct : s.Distinct) {role current : Role}
    (positive : 0 < role.id.val) (found : s.role role.id = .ok current)
    (named : current.name = role.name) :
    putRole role s = .ok role (s.withRole role.id.val role) ∧
      (s.withRole role.id.val role).Distinct := by
  obtain ⟨-, told, free⟩ := distinct.of_role found
  rw [named] at free
  refine ⟨?_, distinct.withRole free⟩
  rw [putRole_of_positive positive told, if_neg (by simp [free])]

/-! ## Stores that are reached -/

/-- The stores that come about from empty ones by any changes, successful or not. -/
inductive Reached : AccountStore → Prop
  | noRecords : Reached (records .empty)
  | noRows : Reached (rows .empty)
  | putRole {s : AccountStore} (role : Role) : Reached s → Reached (after (putRole role) s)
  | eraseRole {s : AccountStore} (id : RoleId) : Reached s → Reached (after (eraseRole id) s)
  | putUser {s : AccountStore} (user : User) : Reached s → Reached (after (putUser user) s)
  | moveBasePaths {s : AccountStore} (old new : Path) :
    Reached s → Reached (after (moveBasePaths old new) s)
  | overwriteScopes {s : AccountStore} (id : RoleId) (text : String) :
    Reached s → Reached (after (overwriteScopes id text) s)
  | overwriteRoleIds {s : AccountStore} (id : UserId) (text : String) :
    Reached s → Reached (after (overwriteRoleIds id text) s)

/-- The stores that come about from empty ones by any changes, successful or not, while no count of
numbers comes round. -/
inductive ReachedInRange : AccountStore → Prop
  | noRecords : ReachedInRange (records .empty)
  | noRows : ReachedInRange (rows .empty)
  | putRole {s : AccountStore} (role : Role) : ReachedInRange s → s.HasRoleRoom role.id.val →
    ReachedInRange (after (putRole role) s)
  | eraseRole {s : AccountStore} (id : RoleId) :
    ReachedInRange s → ReachedInRange (after (eraseRole id) s)
  | putUser {s : AccountStore} (user : User) : ReachedInRange s → s.HasUserRoom user.id.val →
    ReachedInRange (after (putUser user) s)
  | moveBasePaths {s : AccountStore} (old new : Path) :
    ReachedInRange s → ReachedInRange (after (moveBasePaths old new) s)
  | overwriteScopes {s : AccountStore} (id : RoleId) (text : String) :
    ReachedInRange s → ReachedInRange (after (overwriteScopes id text) s)
  | overwriteRoleIds {s : AccountStore} (id : UserId) (text : String) :
    ReachedInRange s → ReachedInRange (after (overwriteRoleIds id text) s)

/-- What a role does to a store: it is refused, or it is stored. -/
theorem after_putRole (s : AccountStore) (role : Role) :
    after (putRole role) s = s.withoutNewRole role.id.val ∨
      s.roleElsewhere (s.roleNumber role.id.val) role.name = false ∧
        after (putRole role) s = s.withRole (s.roleNumber role.id.val) role := by
  rw [after]
  cases taken : s.roleElsewhere (s.roleNumber role.id.val) role.name with
  | true =>
    rw [putRole_taken role taken]
    exact .inl rfl
  | false =>
    cases told : s.canTell (s.roleNumber role.id.val) with
    | true =>
      rw [putRole_told role taken told]
      exact .inr ⟨rfl, rfl⟩
    | false =>
      rw [putRole_untold role taken told]
      exact .inr ⟨rfl, rfl⟩

/-- What a user does to a store: they are refused, or they are stored. -/
theorem after_putUser (s : AccountStore) (user : User) :
    after (putUser user) s = s.withoutNewUser user.id.val ∨
      s.userElsewhere (s.userNumber user.id.val) user.username = false ∧
        after (putUser user) s = s.withUser (s.userNumber user.id.val) user := by
  rw [after]
  cases taken : s.userElsewhere (s.userNumber user.id.val) user.username with
  | true =>
    rw [putUser_taken user taken]
    exact .inl rfl
  | false =>
    cases told : s.canTell (s.userNumber user.id.val) with
    | true =>
      rw [putUser_told user taken told]
      exact .inr ⟨rfl, rfl⟩
    | false =>
      rw [putUser_untold user taken told]
      exact .inr ⟨rfl, rfl⟩

theorem after_eraseRole (s : AccountStore) (id : RoleId) :
    after (eraseRole id) s = if s.holdsRole id.val then s.withoutRole id.val else s := by
  rw [after, eraseRole_run]
  by_cases held : s.holdsRole id.val = true
  · rw [if_pos held, if_pos held]
  · rw [if_neg held, if_neg held]

theorem keeps_distinct_putRole (role : Role) : Keeps Distinct (putRole role) := by
  intro s distinct
  obtain refused | ⟨free, stored⟩ := s.after_putRole role
  · rw [refused]
    exact distinct.withoutNewRole _
  · rw [stored]
    exact distinct.withRole free

theorem keeps_distinct_putUser (user : User) : Keeps Distinct (putUser user) := by
  intro s distinct
  obtain refused | ⟨free, stored⟩ := s.after_putUser user
  · rw [refused]
    exact distinct.withoutNewUser _
  · rw [stored]
    exact distinct.withUser free

theorem keeps_distinct_eraseRole (id : RoleId) : Keeps Distinct (eraseRole id) := by
  intro s distinct
  rw [after_eraseRole]
  split
  · exact distinct.withoutRole id.val
  · exact distinct

theorem keeps_distinct_moveBasePaths (old new : Path) : Keeps Distinct (moveBasePaths old new) := by
  intro s distinct
  rw [after, moveBasePaths_run distinct]
  cases s.allUsers with
  | error e => exact distinct
  | ok users => exact distinct.followUsers old new

/-- Whoever overwrites the texts of a row leaves the names. -/
theorem keeps_distinct_overwriteScopes (id : RoleId) (text : String) :
    Keeps Distinct (overwriteScopes id text) := by
  intro s distinct
  cases s with
  | records s => exact distinct
  | rows s => exact ⟨distinct.roles.adjust id.val fun _ => rfl, distinct.users⟩

theorem keeps_distinct_overwriteRoleIds (id : UserId) (text : String) :
    Keeps Distinct (overwriteRoleIds id text) := by
  intro s distinct
  cases s with
  | records s => exact distinct
  | rows s => exact ⟨distinct.roles, distinct.users.adjust id.val fun _ => rfl⟩

/-- In every store that is reached names are distinct. -/
theorem Reached.distinct {s : AccountStore} (reached : s.Reached) : s.Distinct := by
  induction reached with
  | noRecords => exact RecordStore.distinct_empty
  | noRows => exact RowStore.distinct_empty
  | putRole role _ ih => exact keeps_distinct_putRole role _ ih
  | eraseRole id _ ih => exact keeps_distinct_eraseRole id _ ih
  | putUser user _ ih => exact keeps_distinct_putUser user _ ih
  | moveBasePaths old new _ ih => exact keeps_distinct_moveBasePaths old new _ ih
  | overwriteScopes id text _ ih => exact keeps_distinct_overwriteScopes id text _ ih
  | overwriteRoleIds id text _ ih => exact keeps_distinct_overwriteRoleIds id text _ ih

theorem Sound.after_putRole {s : AccountStore} (sound : s.Sound) {role : Role}
    (room : s.HasRoleRoom role.id.val) : (after (putRole role) s).Sound := by
  obtain refused | ⟨free, stored⟩ := AccountStore.after_putRole s role
  · rw [refused]
    exact sound.withoutNewRole room
  · rw [stored]
    exact sound.withRole room free

theorem Sound.after_putUser {s : AccountStore} (sound : s.Sound) {user : User}
    (room : s.HasUserRoom user.id.val) : (after (putUser user) s).Sound := by
  obtain refused | ⟨free, stored⟩ := AccountStore.after_putUser s user
  · rw [refused]
    exact sound.withoutNewUser room
  · rw [stored]
    exact sound.withUser room free

theorem keeps_sound_eraseRole (id : RoleId) : Keeps Sound (eraseRole id) := by
  intro s sound
  rw [after_eraseRole]
  split
  · exact sound.withoutRole id.val
  · exact sound

theorem keeps_sound_moveBasePaths (old new : Path) : Keeps Sound (moveBasePaths old new) := by
  intro s sound
  rw [after, moveBasePaths_run sound.distinct]
  cases s.allUsers with
  | error e => exact sound
  | ok users => exact sound.followUsers old new

theorem keeps_numbered_overwriteScopes (id : RoleId) (text : String) :
    Keeps Numbered (overwriteScopes id text) := by
  intro s numbered
  cases s with
  | records s => exact numbered
  | rows s => exact ⟨numbered.roles.adjust id.val _, numbered.users⟩

theorem keeps_numbered_overwriteRoleIds (id : UserId) (text : String) :
    Keeps Numbered (overwriteRoleIds id text) := by
  intro s numbered
  cases s with
  | records s => exact numbered
  | rows s => exact ⟨numbered.roles, numbered.users.adjust id.val _⟩

theorem sound_noRecords : (records .empty).Sound :=
  ⟨RecordStore.distinct_empty, RecordStore.numbered_empty⟩

theorem sound_noRows : (rows .empty).Sound := ⟨RowStore.distinct_empty, RowStore.numbered_empty⟩

namespace ReachedInRange

variable {s : AccountStore}

theorem reached (inRange : s.ReachedInRange) : s.Reached := by
  induction inRange with
  | noRecords => exact .noRecords
  | noRows => exact .noRows
  | putRole role _ _ ih => exact .putRole role ih
  | eraseRole id _ ih => exact .eraseRole id ih
  | putUser user _ _ ih => exact .putUser user ih
  | moveBasePaths old new _ ih => exact .moveBasePaths old new ih
  | overwriteScopes id text _ ih => exact .overwriteScopes id text ih
  | overwriteRoleIds id text _ ih => exact .overwriteRoleIds id text ih

/-- Every store that is reached before a count of numbers comes round is sound. -/
theorem sound (inRange : s.ReachedInRange) : s.Sound := by
  refine ⟨inRange.reached.distinct, ?_⟩
  induction inRange with
  | noRecords => exact RecordStore.numbered_empty
  | noRows => exact RowStore.numbered_empty
  | putRole role inRange room ih =>
    exact (Sound.after_putRole ⟨inRange.reached.distinct, ih⟩ room).numbered
  | eraseRole id inRange ih =>
    exact (keeps_sound_eraseRole id _ ⟨inRange.reached.distinct, ih⟩).numbered
  | putUser user inRange room ih =>
    exact (Sound.after_putUser ⟨inRange.reached.distinct, ih⟩ room).numbered
  | moveBasePaths old new inRange ih =>
    exact (keeps_sound_moveBasePaths old new _ ⟨inRange.reached.distinct, ih⟩).numbered
  | overwriteScopes id text _ ih => exact keeps_numbered_overwriteScopes id text _ ih
  | overwriteRoleIds id text _ ih => exact keeps_numbered_overwriteRoleIds id text _ ih

end ReachedInRange

/-! ## Kinds of stores -/

section Kinds

variable {α : Type} (inRecords : RecordStore.Change α) (inRows : RowStore.Change α)

theorem after_records (s : RecordStore) :
    ∃ t, after (change inRecords inRows) (records s) = records t := by
  rw [after, change]
  cases inRecords s with
  | ok answer t => exact ⟨t, rfl⟩
  | error e t => exact ⟨t, rfl⟩

theorem after_rows (s : RowStore) : ∃ t, after (change inRecords inRows) (rows s) = rows t := by
  rw [after, change]
  cases inRows s with
  | ok answer t => exact ⟨t, rfl⟩
  | error e t => exact ⟨t, rfl⟩

/-- A number that comes along finds room after a change as it does before. -/
theorem keeps_hasRoleRoom {n : Nat} (positive : 0 < n) :
    Keeps (fun s => s.HasRoleRoom n) (change inRecords inRows) := by
  intro s room
  cases s with
  | records s =>
    obtain ⟨t, same⟩ := after_records inRecords inRows s
    rw [HasRoleRoom, Roster.HasRoom, Roster.number_of_pos _ positive] at room
    rwa [same, HasRoleRoom, Roster.HasRoom, Roster.number_of_pos _ positive]
  | rows s =>
    obtain ⟨t, same⟩ := after_rows inRecords inRows s
    rw [same]
    trivial

/-- A number that comes along finds room after a change as it does before. -/
theorem keeps_hasUserRoom {n : Nat} (positive : 0 < n) :
    Keeps (fun s => s.HasUserRoom n) (change inRecords inRows) := by
  intro s room
  cases s with
  | records s =>
    obtain ⟨t, same⟩ := after_records inRecords inRows s
    rw [HasUserRoom, Roster.HasRoom, Roster.number_of_pos _ positive] at room
    rwa [same, HasUserRoom, Roster.HasRoom, Roster.number_of_pos _ positive]
  | rows s =>
    obtain ⟨t, same⟩ := after_rows inRecords inRows s
    rw [same]
    trivial

end Kinds

namespace Reached

variable {s : AccountStore}

/-- Rows are numbered without end, so that only records can be reached after a count of numbers has
come round. -/
theorem inRange_or_records (reached : s.Reached) : s.ReachedInRange ∨ ∃ t, s = records t := by
  have step : ∀ {α : Type} (inRecords : RecordStore.Change α) (inRows : RowStore.Change α)
      {s : AccountStore}, (s.ReachedInRange ∨ ∃ t, s = records t) →
      ((∀ u, s = rows u → s.ReachedInRange → (after (change inRecords inRows) s).ReachedInRange) →
        (after (change inRecords inRows) s).ReachedInRange ∨
          ∃ t, after (change inRecords inRows) s = records t) := by
    intro α inRecords inRows s known goes
    cases s with
    | records s => exact .inr (after_records inRecords inRows s)
    | rows s =>
      rcases known with inRange | ⟨t, same⟩
      · exact .inl (goes s rfl inRange)
      · contradiction
  induction reached with
  | noRecords => exact .inr ⟨_, rfl⟩
  | noRows => exact .inl .noRows
  | putRole role _ ih =>
    refine step _ _ ih ?_
    rintro u rfl inRange
    exact .putRole role inRange trivial
  | eraseRole id _ ih => exact step _ _ ih fun _ _ inRange => .eraseRole id inRange
  | putUser user _ ih =>
    refine step _ _ ih ?_
    rintro u rfl inRange
    exact .putUser user inRange trivial
  | moveBasePaths old new _ ih => exact step _ _ ih fun _ _ inRange => .moveBasePaths old new inRange
  | overwriteScopes id text _ ih =>
    exact step _ _ ih fun _ _ inRange => .overwriteScopes id text inRange
  | overwriteRoleIds id text _ ih =>
    exact step _ _ ih fun _ _ inRange => .overwriteRoleIds id text inRange

/-- A role that can be read can be stored again under a number that can be told. -/
theorem canTell_roleNumber (reached : s.Reached) {id : RoleId} {role : Role}
    (found : s.role id = .ok role) : s.canTell (s.roleNumber id.val) = true := by
  rcases reached.inRange_or_records with inRange | ⟨t, rfl⟩
  · rw [s.roleNumber_of_pos (inRange.sound.numbered.role_positive found)]
    exact (reached.distinct.of_role found).2.1
  · rfl

/-- A user who can be read can be stored again under a number that can be told. -/
theorem canTell_userNumber (reached : s.Reached) {id : UserId} {user : User}
    (found : s.user id = .ok user) : s.canTell (s.userNumber id.val) = true := by
  rcases reached.inRange_or_records with inRange | ⟨t, rfl⟩
  · rw [s.userNumber_of_pos (inRange.sound.numbered.user_positive found)]
    exact (reached.distinct.of_user found).2.1
  · rfl

end Reached

end AccountStore

end StorageGateway
