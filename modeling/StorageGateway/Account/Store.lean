import StorageGateway.Account.RecordStore
import StorageGateway.Account.RowStore

/-!
# The store of accounts

Roles and users are stored as records or as rows; either way the store answers the same questions
and accepts the same changes.
-/

namespace StorageGateway

/-- Where roles and users are stored. -/
inductive AccountStore where
  | records (store : RecordStore)
  | rows (store : RowStore)
deriving DecidableEq

namespace AccountStore

instance : Inhabited AccountStore := ⟨.records .empty⟩

/-! ## Look-ups -/

/-- The role of an id. -/
def role (s : AccountStore) (id : RoleId) : Except AccountError Role :=
  match s with
  | records s => s.role id
  | rows s => s.role id

/-- The role of a name. -/
def roleNamed (s : AccountStore) (name : String) : Except AccountError Role :=
  match s with
  | records s => s.roleNamed name
  | rows s => s.roleNamed name

/-- Every role, by id. -/
def allRoles (s : AccountStore) : Except AccountError (List Role) :=
  match s with
  | records s => .ok s.allRoles
  | rows s => s.allRoles

/-- The user of an id. -/
def user (s : AccountStore) (id : UserId) : Except AccountError User :=
  match s with
  | records s => s.user id
  | rows s => s.user id

/-- The user of a username. -/
def userNamed (s : AccountStore) (name : String) : Except AccountError User :=
  match s with
  | records s => s.userNamed name
  | rows s => s.userNamed name

/-- Every user, by id. -/
def allUsers (s : AccountStore) : Except AccountError (List User) :=
  match s with
  | records s => .ok s.allUsers
  | rows s => s.allUsers

/-- The roles that a user holds; an id that belongs to no role is passed over. -/
def rolesOf (s : AccountStore) (id : UserId) : Except AccountError (List Role) :=
  match s with
  | records s => s.rolesOf id
  | rows s => s.rolesOf id

/-! ## Changes -/

/-- A change of the store, or a reason why it is refused. -/
abbrev Change := EStateM AccountError AccountStore

/-- A change of either kind of store as a change of the store. -/
def change {α : Type} (inRecords : RecordStore.Change α) (inRows : RowStore.Change α) : Change α
  | records s =>
    match inRecords s with
    | .ok a s => .ok a (records s)
    | .error e s => .error e (records s)
  | rows s =>
    match inRows s with
    | .ok a s => .ok a (rows s)
    | .error e s => .error e (rows s)

/-- Store a role under its id, or under a new one if its id is zero. -/
def putRole (role : Role) : Change Role :=
  change (RecordStore.putRole role) (RowStore.putRole role)

/-- Delete a role. -/
def eraseRole (id : RoleId) : Change Unit :=
  change (RecordStore.eraseRole id) (RowStore.eraseRole id)

/-- Store a user under their id, or under a new one if their id is zero. -/
def putUser (user : User) : Change User :=
  change (RecordStore.putUser user) (RowStore.putUser user)

/-- Let base paths follow `old` to `new`; answers with the usernames of those that move. -/
def moveBasePaths (old new : Path) : Change (List String) :=
  change (RecordStore.moveBasePaths old new) (RowStore.moveBasePaths old new)

/-- Overwrite the scopes text of a stored role; answers with the number of rows that changed.
Records have no such text. -/
def overwriteScopes (id : RoleId) (text : String) : Change Nat :=
  change (pure 0) (RowStore.overwriteScopes id text)

/-- Overwrite the role-list text of a stored user; answers with the number of rows that changed.
Records have no such text. -/
def overwriteRoleIds (id : UserId) (text : String) : Change Nat :=
  change (pure 0) (RowStore.overwriteRoleIds id text)

end AccountStore

end StorageGateway
