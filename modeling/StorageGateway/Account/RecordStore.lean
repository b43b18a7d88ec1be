import StorageGateway.Account.Cascade
import StorageGateway.Account.Roster

/-!
# A store of records in memory

Roles and users are kept as they are. No two roles share a name, and no two users a username. The
first two role numbers are set aside for the built-in roles; a number asked for is used up even if
the record is then refused. Numbers are counted with 32 bits, and a record that is given a number
anew replaces the one that had it.
-/

namespace StorageGateway

/-- Roles and users, kept as they are. -/
structure RecordStore where
  roles : Roster Role
  users : Roster User
deriving DecidableEq

namespace RecordStore

/-- The store without records. -/
def empty : RecordStore := ⟨.new 3, .new 1⟩

instance : Inhabited RecordStore := ⟨empty⟩

/-! ## Look-ups -/

/-- The role of an id. -/
def role (s : RecordStore) (id : RoleId) : Except AccountError Role :=
  match s.roles.get? id.val with
  | some r => .ok r
  | none => .error (.roleNotFound (toString id))

/-- The role of a name. -/
def roleNamed (s : RecordStore) (name : String) : Except AccountError Role :=
  match s.roles.find? fun r => r.name == name with
  | some (_, r) => .ok r
  | none => .error (.roleNotFound name)

/-- Every role, by id. -/
def allRoles (s : RecordStore) : List Role := s.roles.records.values

/-- The user of an id. -/
def user (s : RecordStore) (id : UserId) : Except AccountError User :=
  match s.users.get? id.val with
  | some u => .ok u
  | none => .error (.userNotFound (toString id))

/-- The user of a username. -/
def userNamed (s : RecordStore) (name : String) : Except AccountError User :=
  match s.users.find? fun u => u.username == name with
  | some (_, u) => .ok u
  | none => .error (.userNotFound name)

/-- Every user, by id. -/
def allUsers (s : RecordStore) : List User := s.users.records.values

/-- The roles that a user holds; an id that belongs to no role is passed over. -/
def rolesOf (s : RecordStore) (id : UserId) : Except AccountError (List Role) :=
  (s.user id).map fun u => u.roleIds.filterMap fun i => s.roles.get? i.val

/-! ## Changes -/

/-- A change of the store, or a reason why it is refused. -/
abbrev Change := EStateM AccountError RecordStore

/-- Store a role under its id, or under a new one if its id is zero. -/
def putRole (role : Role) : Change Role := do
  let n := (← get).roles.number role.id.val
  modify fun s => { s with roles := s.roles.takeId role.id.val }
  if (← get).roles.isElsewhere n fun r => r.name == role.name then
    throw (.alreadyExists role.name)
  let role := { role with id := ⟨n⟩ }
  modify fun s => { s with roles := s.roles.put n role }
  return role

/-- Delete a role. -/
def eraseRole (id : RoleId) : Change Unit := do
  if ((← get).roles.get? id.val).isNone then throw (.roleNotFound (toString id))
  modify fun s => { s with roles := s.roles.erase id.val }

/-- Store a user under their id, or under a new one if their id is zero. -/
def putUser (user : User) : Change User := do
  let n := (← get).users.number user.id.val
  modify fun s => { s with users := s.users.takeId user.id.val }
  if (← get).users.isElsewhere n fun u => u.username == user.username then
    throw (.alreadyExists user.username)
  let user := { user with id := ⟨n⟩ }
  modify fun s => { s with users := s.users.put n user }
  return user

/-- Let base paths follow `old` to `new`; answers with the usernames of those that move. -/
def moveBasePaths (old new : Path) : Change (List String) := do
  let moves := basePathMoves (← get).allUsers old new
  modify fun s => { s with
    users := moves.foldl (fun users m =>
      users.adjust m.userId.val fun u => { u with basePath := m.target.text }) s.users }
  return moves.map BasePathMove.username

end RecordStore

end StorageGateway
