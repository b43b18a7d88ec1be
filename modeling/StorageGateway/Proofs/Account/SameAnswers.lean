import StorageGateway.Proofs.Account.RoleAnswers
import StorageGateway.Proofs.Account.StoreRuns

/-!
# Records and rows answer alike

The tables of a store of records hold the row of every record under its number. A store of rows that
has these tables answers each request like the store of records, and has the tables of what that has
become, unless a record was refused: only records use up its number. Main statement:
`answers_alike`.
-/

namespace StorageGateway

/-! ## The tables of a store of records -/

namespace RecordStore

variable {s : RecordStore}

/-- The rows of all records. -/
def tables (s : RecordStore) : RowStore :=
  ⟨s.roles.image RoleColumns.ofRole, s.users.image UserColumns.ofUser⟩

theorem tables_withRole {role : Role} (room : s.roles.HasRoom role.id.val) :
    (s.withRole (s.roles.number role.id.val) role).tables =
      s.tables.withRole (s.roles.number role.id.val) role := by
  rw [tables, withRole, Roster.takeId_eq_take room, Roster.image_put]
  rfl

theorem tables_withUser {user : User} (room : s.users.HasRoom user.id.val) :
    (s.withUser (s.users.number user.id.val) user).tables =
      s.tables.withUser (s.users.number user.id.val) user := by
  rw [tables, withUser, Roster.takeId_eq_take room, Roster.image_put]
  rfl

theorem tables_eraseRole (s : RecordStore) (n : Nat) :
    tables { s with roles := s.roles.erase n } =
      { s.tables with roles := s.tables.roles.erase n } := by
  rw [tables, Roster.image_erase]
  rfl

theorem tables_followUsers (s : RecordStore) (old new : Path) :
    (s.followUsers old new).tables = s.tables.followUsers old new := by
  have users : (s.users.mapRecords fun user => user.follow old new).image UserColumns.ofUser =
      (s.users.image UserColumns.ofUser).mapRecords fun row => row.follow old new :=
    Roster.image_mapRecords s.users fun _ => rfl
  exact congrArg (RowStore.mk _) users

/-- A store with distinct names, of which each record can be read back from its row. -/
structure Tellable (s : RecordStore) : Prop where
  distinct : s.Distinct
  role_lt : ∀ {n role}, s.roles.get? n = some role → n < idLimit
  user_lt : ∀ {n user}, s.users.get? n = some user → n < idLimit
  roleIds_lt : ∀ {n user}, s.users.get? n = some user → ∀ id ∈ user.roleIds, id.val < idLimit

namespace Tellable

theorem readRole (tellable : s.Tellable) {n : Nat} {role : Role}
    (found : s.roles.get? n = some role) : (RoleColumns.ofRole role).role n = .ok role := by
  rw [RoleColumns.role_ofRole, if_pos (tellable.role_lt found), ← tellable.distinct.role_id found]

theorem readUser (tellable : s.Tellable) {n : Nat} {user : User}
    (found : s.users.get? n = some user) : (UserColumns.ofUser user).user n = .ok user := by
  rw [UserColumns.user_ofUser, if_pos ⟨tellable.user_lt found, tellable.roleIds_lt found⟩,
    ← tellable.distinct.user_id found]

/-! ### Look-ups -/

theorem role_tables (tellable : s.Tellable) (id : RoleId) : s.tables.role id = s.role id := by
  rw [RowStore.role, tables, Roster.get?_image, role]
  cases found : s.roles.get? id.val with
  | none => rfl
  | some role => exact tellable.readRole found

theorem user_tables (tellable : s.Tellable) (id : UserId) : s.tables.user id = s.user id := by
  rw [RowStore.user, tables, Roster.get?_image, user]
  cases found : s.users.get? id.val with
  | none => rfl
  | some user => exact tellable.readUser found

theorem roleNamed_tables (tellable : s.Tellable) (name : String) :
    s.tables.roleNamed name = s.roleNamed name := by
  have search : s.tables.roles.find? (fun row => row.name == name) =
      (s.roles.find? fun role => role.name == name).map fun e => (e.1, RoleColumns.ofRole e.2) :=
    s.roles.find?_image RoleColumns.ofRole fun row => row.name == name
  rw [RowStore.roleNamed, search, roleNamed]
  cases met : s.roles.find? fun role => role.name == name with
  | none => rfl
  | some hit =>
    obtain ⟨found, -⟩ := Roster.get?_of_find? met
    exact tellable.readRole found

theorem userNamed_tables (tellable : s.Tellable) (name : String) :
    s.tables.userNamed name = s.userNamed name := by
  have search : s.tables.users.find? (fun row => row.username == name) =
      (s.users.find? fun user => user.username == name).map fun e => (e.1, UserColumns.ofUser e.2) :=
    s.users.find?_image UserColumns.ofUser fun row => row.username == name
  rw [RowStore.userNamed, search, userNamed]
  cases met : s.users.find? fun user => user.username == name with
  | none => rfl
  | some hit =>
    obtain ⟨found, -⟩ := Roster.get?_of_find? met
    exact tellable.readUser found

theorem allRoles_tables (tellable : s.Tellable) : s.tables.allRoles = .ok s.allRoles := by
  rw [RowStore.allRoles, RowStore.mapM_eq_ok_iff, tables, Roster.entries_image, allRoles,
    Dict.values, List.map_map, List.map_map]
  apply List.map_congr_left
  rintro ⟨n, role⟩ present
  exact tellable.readRole ((s.roles.mem_entries_iff n role).mp present)

theorem allUsers_tables (tellable : s.Tellable) : s.tables.allUsers = .ok s.allUsers := by
  rw [RowStore.allUsers, RowStore.mapM_eq_ok_iff, tables, Roster.entries_image, allUsers,
    Dict.values, List.map_map, List.map_map]
  apply List.map_congr_left
  rintro ⟨n, user⟩ present
  exact tellable.readUser ((s.users.mem_entries_iff n user).mp present)

theorem rolesOf_tables (tellable : s.Tellable) (id : UserId) :
    s.tables.rolesOf id = s.rolesOf id := by
  have same := tellable.user_tables id
  have roles : s.tables.role = s.role := funext tellable.role_tables
  cases known : s.user id with
  | error e =>
    rw [known] at same
    rw [RowStore.rolesOf, rolesOf, same, known]
    rfl
  | ok user =>
    rw [known] at same
    have readable : (AccountStore.rows s.tables).Legible := by
      intro id small
      change s.tables.role id ≠ _
      rw [roles]
      exact AccountStore.legible_records s id small
    have own :
        (AccountStore.records s).granted user = (AccountStore.rows s.tables).granted user := by
      change Clearance.mk (user.roleIds.filterMap fun i => (s.role i).toOption) =
        ⟨user.roleIds.filterMap fun i => (s.tables.role i).toOption⟩
      rw [roles]
    have byRows := readable.rolesOf same
    have byRecords := (AccountStore.legible_records s).rolesOf known
    exact byRows.trans (own ▸ byRecords.symm)

/-! ### Changes -/

theorem withRole (tellable : s.Tellable) {n : Nat} {role : Role} (small : n < idLimit)
    (free : s.roles.isElsewhere n (fun other => other.name == role.name) = false) :
    (s.withRole n role).Tellable where
  distinct := tellable.distinct.withRole free
  role_lt {m other} found := by
    rw [RecordStore.withRole, Roster.get?_put] at found
    split at found
    · next same => rwa [same]
    · exact tellable.role_lt found
  user_lt := tellable.user_lt
  roleIds_lt := tellable.roleIds_lt

theorem withUser (tellable : s.Tellable) {n : Nat} {user : User} (small : n < idLimit)
    (fit : ∀ id ∈ user.roleIds, id.val < idLimit)
    (free : s.users.isElsewhere n (fun other => other.username == user.username) = false) :
    (s.withUser n user).Tellable where
  distinct := tellable.distinct.withUser free
  role_lt := tellable.role_lt
  user_lt {m other} found := by
    rw [RecordStore.withUser, Roster.get?_put] at found
    split at found
    · next same => rwa [same]
    · exact tellable.user_lt found
  roleIds_lt {m other} found := by
    rw [RecordStore.withUser, Roster.get?_put] at found
    split at found
    · cases found
      exact fit
    · exact tellable.roleIds_lt found

theorem eraseRole (tellable : s.Tellable) (n : Nat) :
    Tellable { s with roles := s.roles.erase n } where
  distinct := tellable.distinct.eraseRole n
  role_lt {m other} found := by
    rw [Roster.get?_erase] at found
    split at found
    · contradiction
    · exact tellable.role_lt found
  user_lt := tellable.user_lt
  roleIds_lt := tellable.roleIds_lt

theorem followUsers (tellable : s.Tellable) (old new : Path) :
    (s.followUsers old new).Tellable where
  distinct := tellable.distinct.followUsers old new
  role_lt := tellable.role_lt
  user_lt found := by
    rw [RecordStore.followUsers, Roster.get?_mapRecords] at found
    obtain ⟨before, present, rfl⟩ := Option.map_eq_some_iff.mp found
    exact tellable.user_lt present
  roleIds_lt {n user} found id held := by
    rw [RecordStore.followUsers, Roster.get?_mapRecords] at found
    obtain ⟨before, present, rfl⟩ := Option.map_eq_some_iff.mp found
    exact tellable.roleIds_lt present id held

end Tellable

end RecordStore

/-! ## Requests to both stores -/

/-- A request was refused for a name that belongs to another record. -/
def isRejection {α : Type} : Except AccountError α → Bool
  | .error (.alreadyExists _) => true
  | _ => false

/-- A request ends alike in a store of records and in a store of rows: with the same answer and with
the tables of what the records have become, or for both with a rejection of the same name. -/
inductive EndsAlike {α : Type} :
    EStateM.Result AccountError AccountStore α → EStateM.Result AccountError AccountStore α → Prop
  | answer (a : α) {t : RecordStore} (tellable : t.Tellable) :
    EndsAlike (.ok a (.records t)) (.ok a (.rows t.tables))
  | fail (e : AccountError) {t : RecordStore} (tellable : t.Tellable) :
    EndsAlike (.error e (.records t)) (.error e (.rows t.tables))
  | reject (name : String) (s t : AccountStore) :
    EndsAlike (.error (.alreadyExists name) s) (.error (.alreadyExists name) t)

/-- A request that has the same answer from a store of records and from its tables. -/
def AskedAlike {α : Type} (x : AccountStore.Change α) (s : RecordStore) : Prop :=
  EndsAlike (x (.records s)) (x (.rows s.tables))

namespace AskedAlike

open AccountStore

variable {α β : Type} {x : AccountStore.Change α} {s : RecordStore}

theorem outcome_eq (alike : AskedAlike x s) :
    outcome x (records s) = outcome x (rows s.tables) := by
  rw [outcome, outcome]
  unfold AskedAlike at alike
  generalize x (records s) = byRecords at alike ⊢
  generalize x (rows s.tables) = byRows at alike ⊢
  cases alike <;> rfl

/-- Unless it is rejected, both stores go on alike. -/
theorem after_eq (alike : AskedAlike x s) (accepted : isRejection (outcome x (records s)) = false) :
    ∃ t : RecordStore, t.Tellable ∧ after x (records s) = records t ∧
      after x (rows s.tables) = rows t.tables := by
  rw [outcome] at accepted
  rw [after, after]
  unfold AskedAlike at alike
  generalize x (records s) = byRecords at alike accepted ⊢
  generalize x (rows s.tables) = byRows at alike ⊢
  cases alike with
  | answer _ tellable => exact ⟨_, tellable, rfl, rfl⟩
  | fail _ tellable => exact ⟨_, tellable, rfl, rfl⟩
  | reject _ _ _ => contradiction

theorem map (alike : AskedAlike x s) (f : α → β) : AskedAlike (f <$> x) s := by
  unfold AskedAlike at alike ⊢
  rw [map_run, map_run]
  generalize x (records s) = byRecords at alike ⊢
  generalize x (rows s.tables) = byRows at alike ⊢
  cases alike with
  | answer a tellable => exact .answer (f a) tellable
  | fail e tellable => exact .fail e tellable
  | reject name s t => exact .reject name s t

theorem lookUp (tellable : s.Tellable) {question : AccountStore → Except AccountError α}
    (same : question (rows s.tables) = question (records s)) :
    AskedAlike (AccountStore.lookUp question) s := by
  rw [AskedAlike, AccountStore.lookUp, AccountStore.lookUp, same]
  cases question (records s) with
  | ok a => exact .answer a tellable
  | error e => exact .fail e tellable

theorem putRole (tellable : s.Tellable) {role : Role} (room : s.roles.HasRoom role.id.val) :
    AskedAlike (AccountStore.putRole role) s := by
  have elsewhere :
      (rows s.tables).roleElsewhere ((rows s.tables).roleNumber role.id.val) role.name =
        (records s).roleElsewhere ((records s).roleNumber role.id.val) role.name :=
    s.roles.isElsewhere_image RoleColumns.ofRole _ fun row => row.name == role.name
  rw [AskedAlike]
  cases taken : (records s).roleElsewhere ((records s).roleNumber role.id.val) role.name with
  | true =>
    rw [putRole_taken role taken, putRole_taken role (elsewhere.trans taken)]
    exact .reject _ _ _
  | false =>
    rw [putRole_told role taken rfl,
      putRole_told role (elsewhere.trans taken) (canTell_of_lt _ (Nat.lt_of_succ_lt room))]
    have stored := tellable.withRole (Nat.lt_of_succ_lt room) taken
    have alike := EndsAlike.answer { role with id := ⟨(records s).roleNumber role.id.val⟩ } stored
    rw [RecordStore.tables_withRole room] at alike
    exact alike

theorem putUser (tellable : s.Tellable) {user : User} (room : s.users.HasRoom user.id.val)
    (fit : ∀ id ∈ user.roleIds, id.val < idLimit) : AskedAlike (AccountStore.putUser user) s := by
  have elsewhere :
      (rows s.tables).userElsewhere ((rows s.tables).userNumber user.id.val) user.username =
        (records s).userElsewhere ((records s).userNumber user.id.val) user.username :=
    s.users.isElsewhere_image UserColumns.ofUser _ fun row => row.username == user.username
  rw [AskedAlike]
  cases taken : (records s).userElsewhere ((records s).userNumber user.id.val) user.username with
  | true =>
    rw [putUser_taken user taken, putUser_taken user (elsewhere.trans taken)]
    exact .reject _ _ _
  | false =>
    rw [putUser_told user taken rfl,
      putUser_told user (elsewhere.trans taken) (canTell_of_lt _ (Nat.lt_of_succ_lt room))]
    have stored := tellable.withUser (Nat.lt_of_succ_lt room) fit taken
    have alike := EndsAlike.answer { user with id := ⟨(records s).userNumber user.id.val⟩ } stored
    rw [RecordStore.tables_withUser room] at alike
    exact alike

theorem eraseRole (tellable : s.Tellable) (id : RoleId) :
    AskedAlike (AccountStore.eraseRole id) s := by
  have held : (rows s.tables).holdsRole id.val = (records s).holdsRole id.val := by
    change ((s.roles.image RoleColumns.ofRole).get? id.val).isSome = (s.roles.get? id.val).isSome
    rw [Roster.get?_image, Option.isSome_map]
  rw [AskedAlike, eraseRole_run, eraseRole_run, held]
  by_cases present : (records s).holdsRole id.val = true
  · rw [if_pos present, if_pos present]
    have alike := EndsAlike.answer () (tellable.eraseRole id.val)
    rw [RecordStore.tables_eraseRole] at alike
    exact alike
  · rw [if_neg present, if_neg present]
    exact .fail _ tellable

theorem moveBasePaths (tellable : s.Tellable) (old new : Path) :
    AskedAlike (AccountStore.moveBasePaths old new) s := by
  have alike := EndsAlike.answer ((basePathMoves s.allUsers old new).map BasePathMove.username)
    (tellable.followUsers old new)
  rw [RecordStore.tables_followUsers] at alike
  rw [AskedAlike, AccountStore.moveBasePaths, change, change,
    RecordStore.moveBasePaths_run tellable.distinct, RowStore.moveBasePaths_run,
    tellable.allUsers_tables]
  exact alike

end AskedAlike

namespace StoreRequest

open AccountStore

/-- Whether the ids that a request brings into a store stay below the largest number of 32 bits, the
ones that it is to be given included, and the ids that a user holds have 32 bits. -/
def Fits : StoreRequest → AccountStore → Prop
  | .putRole r, s => s.roleNumber r.id.val + 1 < idLimit
  | .putUser u, s => s.userNumber u.id.val + 1 < idLimit ∧ ∀ id ∈ u.roleIds, id.val < idLimit
  | _, _ => True

instance : (request : StoreRequest) → (s : AccountStore) → Decidable (request.Fits s)
  | .putRole _, _ => inferInstanceAs (Decidable (_ < _))
  | .putUser _, _ => inferInstanceAs (Decidable (_ ∧ ∀ _ ∈ _, _))
  | .role _, _ | .roleNamed _, _ | .allRoles, _ | .eraseRole _, _ | .user _, _ | .userNamed _, _
  | .allUsers, _ | .moveBasePaths _ _, _ | .rolesOf _, _ => .isTrue trivial

/-- The request is not rejected for a name that belongs to another record. -/
def Accepted (request : StoreRequest) (s : AccountStore) : Prop :=
  isRejection (outcome request.run s) = false

instance (request : StoreRequest) (s : AccountStore) : Decidable (request.Accepted s) :=
  inferInstanceAs (Decidable (_ = _))

/-- Every request is asked alike. -/
theorem askedAlike {s : RecordStore} (tellable : s.Tellable) :
    (request : StoreRequest) → request.Fits (records s) → AskedAlike request.run s
  | .role id, _ => (AskedAlike.lookUp tellable (tellable.role_tables id)).map _
  | .roleNamed name, _ => (AskedAlike.lookUp tellable (tellable.roleNamed_tables name)).map _
  | .allRoles, _ => (AskedAlike.lookUp tellable tellable.allRoles_tables).map _
  | .putRole _, fits => (AskedAlike.putRole tellable fits).map _
  | .eraseRole id, _ => (AskedAlike.eraseRole tellable id).map _
  | .user id, _ => (AskedAlike.lookUp tellable (tellable.user_tables id)).map _
  | .userNamed name, _ => (AskedAlike.lookUp tellable (tellable.userNamed_tables name)).map _
  | .allUsers, _ => (AskedAlike.lookUp tellable tellable.allUsers_tables).map _
  | .putUser _, fits => (AskedAlike.putUser tellable fits.1 fits.2).map _
  | .moveBasePaths old new, _ => (AskedAlike.moveBasePaths tellable old new).map _
  | .rolesOf id, _ => (AskedAlike.lookUp tellable (tellable.rolesOf_tables id)).map _

end StoreRequest

/-! ## Runs of both stores -/

namespace AccountStore

/-- As long as no record is rejected, both stores go on alike. -/
theorem serve_tables {s : RecordStore} (tellable : s.Tellable) {done : List StoreRequest}
    (fits : Throughout StoreRequest.Fits (records s) done)
    (accepted : Throughout StoreRequest.Accepted (records s) done) :
    ∃ t : RecordStore, t.Tellable ∧ (records s).serve done = records t ∧
      (rows s.tables).serve done = rows t.tables := by
  induction done generalizing s with
  | nil => exact ⟨s, tellable, rfl, rfl⟩
  | cons request rest ih =>
    obtain ⟨t, stays, byRecords, byRows⟩ :=
      (request.askedAlike tellable fits.1).after_eq accepted.1
    have laterFits : (after request.run (records s)).Throughout StoreRequest.Fits rest := fits.2
    have laterAccepted : (after request.run (records s)).Throughout StoreRequest.Accepted rest :=
      accepted.2
    rw [byRecords] at laterFits laterAccepted
    obtain ⟨u, ends, recordsEnd, rowsEnd⟩ := ih stays laterFits laterAccepted
    refine ⟨u, ends, ?_, ?_⟩
    · rw [← recordsEnd, ← byRecords]
      rfl
    · rw [← rowsEnd, ← byRows]
      rfl

/-- The built-in roles are stored. -/
def builtInsFirst : List StoreRequest := [.putRole .guest, .putRole .admin]

/-- A store of records with the built-in roles. -/
def builtInRecords : RecordStore := (RecordStore.empty.withRole 1 .guest).withRole 2 .admin

theorem tellable_builtInRecords : builtInRecords.Tellable := by
  have empty : RecordStore.empty.Tellable :=
    ⟨RecordStore.distinct_empty, fun found => by contradiction, fun found => by contradiction,
      fun found => by contradiction⟩
  have guest : (RecordStore.empty.withRole 1 .guest).Tellable :=
    empty.withRole (by decide) (by decide)
  exact guest.withRole (by decide) (by decide)

/-- Both stores give the same answer to every request, up to the first that is rejected, and to that
one too. -/
theorem answers_alike {done : List StoreRequest} {request : StoreRequest}
    (fits : Throughout StoreRequest.Fits ((records .empty).serve builtInsFirst)
      (done ++ [request]))
    (accepted : Throughout StoreRequest.Accepted ((records .empty).serve builtInsFirst) done) :
    outcome request.run (((records .empty).serve builtInsFirst).serve done) =
      outcome request.run (((rows .empty).serve builtInsFirst).serve done) := by
  have startRecords : (records .empty).serve builtInsFirst = records builtInRecords := by
    decide +kernel
  have startRows : (rows .empty).serve builtInsFirst = rows builtInRecords.tables := by
    decide +kernel
  rw [startRecords] at fits accepted ⊢
  rw [startRows]
  obtain ⟨fits, last⟩ := throughout_append.mp fits
  change ((records builtInRecords).serve done).Throughout StoreRequest.Fits [request] at last
  obtain ⟨t, tellable, byRecords, byRows⟩ := serve_tables tellable_builtInRecords fits accepted
  rw [byRecords] at last ⊢
  rw [byRows]
  exact (request.askedAlike tellable last.1).outcome_eq

/-- A role is stored, held by a user whose base path moves, and deleted; another has an id of its
own. -/
def mixedRequests : List StoreRequest :=
  [.putRole ⟨⟨0⟩, "team", "", [⟨"/a", .ofNat 8⟩]⟩,
    .putUser ⟨⟨0⟩, "bob", "/a/b", [⟨3⟩, ⟨1⟩], false, 5⟩,
    .moveBasePaths (.ofText "/a") (.ofText "/z"), .putRole ⟨⟨9⟩, "late", "", []⟩, .rolesOf ⟨1⟩,
    .eraseRole ⟨3⟩, .rolesOf ⟨1⟩, .putRole ⟨⟨0⟩, "crew", "", []⟩, .allUsers]

/-- A role of a name that is taken. -/
def secondGuest : Role := ⟨⟨0⟩, "guest", "", []⟩

theorem answers_alike_mixedRequests :
    let start := (records .empty).serve builtInsFirst
    Throughout StoreRequest.Fits start (mixedRequests ++ [.putRole secondGuest]) ∧
      Throughout StoreRequest.Accepted start mixedRequests ∧
      outcome (StoreRequest.putRole secondGuest).run (start.serve mixedRequests) =
        .error (.alreadyExists "guest") ∧
      outcome (StoreRequest.putRole secondGuest).run (start.serve mixedRequests) =
        outcome (StoreRequest.putRole secondGuest).run
          (((rows .empty).serve builtInsFirst).serve mixedRequests) := by
  intro start
  have fits : Throughout StoreRequest.Fits start (mixedRequests ++ [.putRole secondGuest]) := by
    decide +kernel
  have accepted : Throughout StoreRequest.Accepted start mixedRequests := by decide +kernel
  exact ⟨fits, accepted, by decide +kernel, answers_alike fits accepted⟩

end AccountStore

end StorageGateway
