import StorageGateway.Account.Registry

/-!
# Changing accounts

Every change of roles and users by an administrator. A change is checked first, then stored, and
then the answers that it makes stale are forgotten.
-/

namespace StorageGateway

/-- The records that follow when a path is renamed. -/
structure PathMove where
  /-- The roles with a scope at the path or beneath it. -/
  roles : List RoleId
  /-- The users with a base path at the path or beneath it. -/
  users : List String
deriving DecidableEq, Repr

namespace Accounting

/-- Refuse a request. -/
def refuseIf (condition : Bool) (e : AccountError) : Accounting Unit :=
  if condition then throw e else return

/-! ## Roles -/

/-- Store a built-in role, unless there is a role of its name. -/
def ensureRole (builtIn : Role) : Accounting Unit := do
  let missing ← tryCatch (do discard (storedRoleNamed builtIn.name); return false) fun
    | .roleNotFound _ => return true
    | e => throw e
  if missing then
    let role ← putRole builtIn
    forgetRoles role.keys

/-- Store the built-in roles that are missing. -/
def ensureBuiltIns : Accounting Unit := do
  ensureRole .guest
  ensureRole .admin

/-- Store a new role. -/
def addRole (role : Role) : Accounting Role := do
  refuseIf role.isBuiltIn (.protectedRole (.builtIn role.name))
  MonadExcept.ofExcept role.checkScopes
  let role ← putRole { role.normalize with id := ⟨0⟩ }
  forgetRoles role.keys
  return role

/-- Let the base paths of users follow a primary scope that moves. -/
def followMove : Option (Path × Path) → Accounting (List String)
  | none => return []
  | some (old, new) => do
    let names ← moveBasePaths old new
    forgetUsers names
    return names

/-- Update the role that has the id of `requested`; answers with the role and with the usernames of
those whose base path follows its primary scope. -/
def changeRole (requested : Role) : Accounting (Role × List String) := do
  let current ← storedRole requested.id
  let plan ← MonadExcept.ofExcept (current.planUpdate requested)
  let names ← followMove plan.move
  let role ← putRole plan.role
  forgetRoles plan.stale
  return (role, names)

/-- Delete a role that is not built in. -/
def removeRole (id : RoleId) : Accounting Unit := do
  let role ← storedRole id
  refuseIf role.isBuiltIn (.protectedRole (.delete role.name))
  eraseRole id
  forgetRoles role.keys

/-! ## Paths -/

/-- Let scopes follow `old` to `new`; answers with the ids of the roles that change. -/
def moveScopes (old new : Path) : Accounting (List RoleId) := do
  let moved := scopeMoves (← allRoles) old new
  moved.mapM fun r => do
    let role ← putRole r
    forgetRoles role.keys
    return role.id

/-- Let scopes and base paths follow `old` to `new`. -/
def movePath (old new : Path) : Accounting PathMove := do
  let roles ← moveScopes old new
  let users ← followMove (some (old, new))
  return { roles, users }

/-! ## Users -/

/-- Store a user as they come, with the base path cleaned. -/
def addUser (user : User) : Accounting User := do
  let user ← putUser user.normalize
  forgetUsers [user.username]
  return user

/-- Refuse an update that gives the administrator account another username or other roles. -/
def checkAdmin (current requested : User) : Accounting Unit := do
  refuseIf (current.username == User.adminName && requested.username != current.username)
    (.protectedRole .adminUsername)
  refuseIf (current.username == User.adminName && requested.roleIds != current.roleIds)
    (.protectedRole .adminRoles)

/-- Update the user who has the id of `requested`. Roles that cannot be loaded may be referred to
all the same. -/
def changeUser (requested : User) : Accounting User := do
  let current ← storedUser requested.id
  checkAdmin current requested
  requested.roleIds.forM fun id => discard (attempt (role (.id id)))
  let user ← putUser requested.normalize
  forgetUsers [current.username, user.username]
  return user

end Accounting

end StorageGateway
