import StorageGateway.Account.Cascade
import StorageGateway.Account.Record
import StorageGateway.Account.Roster

/-!
# A store of rows

Roles and users are kept as the rows of two tables. The scopes of a role and the role ids of a user
are texts, and a row whose text cannot be read makes every look-up fail that meets it. Names are
unique. A change that is refused leaves the tables as they were, their next numbers included.

The tables number their rows without end, while an id has 32 bits. A row whose number is too large
for an id is stored, but neither the call that stores it nor any later one can tell its id.
-/

namespace StorageGateway

/-- A row of the table of roles. -/
structure RoleColumns where
  name : String
  description : String
  /-- The scopes, as `scopesText` writes them. -/
  scopes : String
deriving DecidableEq

/-- A row of the table of users. -/
structure UserColumns where
  username : String
  basePath : String
  /-- The role ids, as `roleIdsText` writes them. -/
  roleIds : String
  disabled : Bool
  passwordTime : Int
deriving DecidableEq

/-- The row of a role. -/
def RoleColumns.ofRole (r : Role) : RoleColumns :=
  { name := r.name, description := r.description, scopes := scopesText r.scopes }

/-- The role that a row holds. -/
def RoleColumns.role (row : RoleColumns) (n : Nat) : Except AccountError Role :=
  match scopesOfText? row.scopes with
  | some scopes =>
    if n < idLimit then
      .ok { id := ⟨n⟩, name := row.name, description := row.description, scopes }
    else .error .store
  | none => .error .store

/-- The row of a user. -/
def UserColumns.ofUser (u : User) : UserColumns :=
  { username := u.username, basePath := u.basePath, roleIds := roleIdsText u.roleIds,
    disabled := u.disabled, passwordTime := u.passwordTime }

/-- The user that a row holds. -/
def UserColumns.user (row : UserColumns) (n : Nat) : Except AccountError User :=
  match roleIdsOfText? row.roleIds with
  | some roleIds =>
    if n < idLimit then
      .ok { id := ⟨n⟩, username := row.username, basePath := row.basePath, roleIds,
            disabled := row.disabled, passwordTime := row.passwordTime }
    else .error .store
  | none => .error .store

/-- The tables of roles and users. -/
structure RowStore where
  roles : Roster RoleColumns
  users : Roster UserColumns
deriving DecidableEq

namespace RowStore

/-- The tables without rows. -/
def empty : RowStore := ⟨.new 1, .new 1⟩

instance : Inhabited RowStore := ⟨empty⟩

/-! ## Look-ups -/

/-- The role of an id. -/
def role (s : RowStore) (id : RoleId) : Except AccountError Role :=
  match s.roles.get? id.val with
  | some row => row.role id.val
  | none => .error (.roleNotFound (toString id))

/-- The role of a name. -/
def roleNamed (s : RowStore) (name : String) : Except AccountError Role :=
  match s.roles.find? fun row => row.name == name with
  | some (n, row) => row.role n
  | none => .error (.roleNotFound name)

/-- Every role, by id. -/
def allRoles (s : RowStore) : Except AccountError (List Role) :=
  s.roles.records.entries.mapM fun (n, row) => row.role n

/-- The user of an id. -/
def user (s : RowStore) (id : UserId) : Except AccountError User :=
  match s.users.get? id.val with
  | some row => row.user id.val
  | none => .error (.userNotFound (toString id))

/-- The user of a username. -/
def userNamed (s : RowStore) (name : String) : Except AccountError User :=
  match s.users.find? fun row => row.username == name with
  | some (n, row) => row.user n
  | none => .error (.userNotFound name)

/-- Every user, by id. -/
def allUsers (s : RowStore) : Except AccountError (List User) :=
  s.users.records.entries.mapM fun (n, row) => row.user n

/-- The roles that a user holds; an id that belongs to no role is passed over. -/
def rolesOf (s : RowStore) (id : UserId) : Except AccountError (List Role) := do
  let u ← s.user id
  (u.roleIds.filter fun i => (s.roles.get? i.val).isSome).mapM s.role

/-! ## Changes -/

/-- A change of the store, or a reason why it is refused. -/
abbrev Change := EStateM AccountError RowStore

/-- Store a role under its id, or under a new one if its id is zero. -/
def putRole (role : Role) : Change Role := do
  let n := (← get).roles.number role.id.val
  if (← get).roles.isElsewhere n fun row => row.name == role.name then
    throw (.alreadyExists role.name)
  modify fun s => { s with roles := (s.roles.take n).put n (.ofRole role) }
  if idLimit ≤ n then throw .store
  return { role with id := ⟨n⟩ }

/-- Delete a role. -/
def eraseRole (id : RoleId) : Change Unit := do
  if ((← get).roles.get? id.val).isNone then throw (.roleNotFound (toString id))
  modify fun s => { s with roles := s.roles.erase id.val }

/-- Store a user under their id, or under a new one if their id is zero. -/
def putUser (user : User) : Change User := do
  let n := (← get).users.number user.id.val
  if (← get).users.isElsewhere n fun row => row.username == user.username then
    throw (.alreadyExists user.username)
  modify fun s => { s with users := (s.users.take n).put n (.ofUser user) }
  if idLimit ≤ n then throw .store
  return { user with id := ⟨n⟩ }

/-- Let base paths follow `old` to `new`; answers with the usernames of those that move. -/
def moveBasePaths (old new : Path) : Change (List String) := do
  let moves := basePathMoves (← MonadExcept.ofExcept (← get).allUsers) old new
  modify fun s => { s with
    users := moves.foldl (fun users m =>
      users.adjust m.userId.val fun row => { row with basePath := m.target.text }) s.users }
  return moves.map BasePathMove.username

/-! ## Rows written by others -/

/-- Overwrite the scopes text of a role; answers with the number of rows that changed. -/
def overwriteScopes (id : RoleId) (text : String) : Change Nat := do
  let found := ((← get).roles.get? id.val).isSome
  modify fun s => { s with roles := s.roles.adjust id.val fun row => { row with scopes := text } }
  return if found then 1 else 0

/-- Overwrite the role-list text of a user; answers with the number of rows that changed. -/
def overwriteRoleIds (id : UserId) (text : String) : Change Nat := do
  let found := ((← get).users.get? id.val).isSome
  modify fun s => { s with users := s.users.adjust id.val fun row => { row with roleIds := text } }
  return if found then 1 else 0

end RowStore

end StorageGateway
