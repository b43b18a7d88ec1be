import StorageGateway.Access.Clearance
import StorageGateway.Account.Store

/-!
# The registry of accounts

An `Accounts` value is a store with a cache of roles and a cache of users before it. It counts the
look-ups that reach for the store, and calls of the store can be refused, as they are while the
store is out of reach. Only answers are kept, never failures, and a `Cache` keeps nothing at all if
answers are to live for no time.
-/

namespace StorageGateway

/-- Answers by the keys under which they were looked up. -/
structure Cache (κ α : Type) [KeyOrder κ] where
  /-- For how many seconds an answer is to be kept. -/
  lifetime : Nat
  kept : Dict κ α

namespace Cache

variable {κ α : Type} [KeyOrder κ] [DecidableEq κ]

/-- The cache that keeps no answer yet. -/
def new (lifetime : Nat) : Cache κ α := ⟨lifetime, Dict.empty⟩

/-- The answer kept under a key. -/
def get? (c : Cache κ α) (k : κ) : Option α := c.kept.find? k

/-- Whether an answer is kept under a key. -/
def contains (c : Cache κ α) (k : κ) : Bool := c.kept.contains k

/-- Keep an answer under a key. -/
def keep (c : Cache κ α) (k : κ) (a : α) : Cache κ α :=
  if c.lifetime = 0 then c else { c with kept := c.kept.insert k a }

/-- Forget the answer under a key. -/
def forget (c : Cache κ α) (k : κ) : Cache κ α := { c with kept := c.kept.erase k }

/-- Forget every answer. -/
def clear (c : Cache κ α) : Cache κ α := new c.lifetime

end Cache

/-- The calls that a store answers. -/
inductive StoreCall where
  | roleOfId
  | roleOfName
  | roleList
  | putRole
  | eraseRole
  | userOfName
  | userOfId
  | userList
  | putUser
  | moveBasePaths
  | rolesOfUser
deriving DecidableEq, Repr

namespace StoreCall

/-- Whether the call looks up one role. -/
def looksUpRole : StoreCall → Bool
  | roleOfId => true
  | roleOfName => true
  | _ => false

end StoreCall

/-- A store of accounts behind its caches. -/
structure Accounts where
  store : AccountStore
  /-- The calls that fail before they reach the store. -/
  refused : List StoreCall
  /-- How often the store was called for one role. -/
  roleLoads : Nat
  /-- How often the store was called for the user of a name. -/
  userLoads : Nat
  roles : Cache RoleRef Role
  users : Cache String User

/-- A request to the registry. -/
abbrev Accounting := EStateM AccountError Accounts

namespace Accounts

/-- The registry of a store, with empty caches that keep roles and users for so many seconds. -/
def new (store : AccountStore) (roleLifetime userLifetime : Nat) : Accounts :=
  { store, refused := [], roleLoads := 0, userLoads := 0, roles := .new roleLifetime,
    users := .new userLifetime }

instance : Inhabited Accounts := ⟨new default 0 0⟩

/-- Refuse a call from now on, or let it through again. -/
def refuse (a : Accounts) (call : StoreCall) (on : Bool) : Accounts :=
  let others := a.refused.filter (· != call)
  { a with refused := if on then call :: others else others }

/-- The registry after a call was counted. -/
def count (a : Accounts) (call : StoreCall) : Accounts :=
  { a with
    roleLoads := if call.looksUpRole then a.roleLoads + 1 else a.roleLoads
    userLoads := if call = .userOfName then a.userLoads + 1 else a.userLoads }

end Accounts

namespace Accounting

/-! ## Calls of the store -/

/-- Change the store. -/
def onStore {α : Type} (c : AccountStore.Change α) : Accounting α := fun a =>
  match c a.store with
  | .ok answer store => .ok answer { a with store }
  | .error e store => .error e { a with store }

/-- Call the store to change it, unless the call is refused. -/
def change {α : Type} (call : StoreCall) (c : AccountStore.Change α) : Accounting α := do
  modify fun a => a.count call
  if (← get).refused.contains call then throw .store
  onStore c

/-- Call the store for an answer, unless the call is refused. -/
def ask {α : Type} (call : StoreCall) (question : AccountStore → Except AccountError α) :
    Accounting α :=
  change call do MonadExcept.ofExcept (question (← get))

/-- The stored role of an id. -/
def storedRole (id : RoleId) : Accounting Role := ask .roleOfId (·.role id)

/-- The stored role of a name. -/
def storedRoleNamed (name : String) : Accounting Role := ask .roleOfName (·.roleNamed name)

/-- Every stored role, by id. -/
def allRoles : Accounting (List Role) := ask .roleList (·.allRoles)

/-- Store a role. -/
def putRole (role : Role) : Accounting Role := change .putRole (AccountStore.putRole role)

/-- Delete a stored role. -/
def eraseRole (id : RoleId) : Accounting Unit := change .eraseRole (AccountStore.eraseRole id)

/-- The stored user of a username. -/
def storedUserNamed (name : String) : Accounting User := ask .userOfName (·.userNamed name)

/-- The stored user of an id. -/
def storedUser (id : UserId) : Accounting User := ask .userOfId (·.user id)

/-- Every stored user, by id. -/
def allUsers : Accounting (List User) := ask .userList (·.allUsers)

/-- Store a user. -/
def putUser (user : User) : Accounting User := change .putUser (AccountStore.putUser user)

/-- Let stored base paths follow `old` to `new`. -/
def moveBasePaths (old new : Path) : Accounting (List String) :=
  change .moveBasePaths (AccountStore.moveBasePaths old new)

/-- The stored roles that a stored user holds. -/
def storedRolesOf (id : UserId) : Accounting (List Role) := ask .rolesOfUser (·.rolesOf id)

/-- Overwrite the scopes text of a stored role, as another program would. -/
def overwriteScopes (id : RoleId) (text : String) : Accounting Nat :=
  onStore (AccountStore.overwriteScopes id text)

/-- Overwrite the role-list text of a stored user, as another program would. -/
def overwriteRoleIds (id : UserId) (text : String) : Accounting Nat :=
  onStore (AccountStore.overwriteRoleIds id text)

/-! ## Look-ups through the caches -/

/-- The stored role of a key. -/
def stored : RoleRef → Accounting Role
  | .id id => storedRole id
  | .name name => storedRoleNamed name

/-- The role of a key, from the cache if it is kept there. -/
def role (key : RoleRef) : Accounting Role := do
  match (← get).roles.get? key with
  | some r => return r
  | none =>
    let r ← stored key
    modify fun a => { a with roles := a.roles.keep key r }
    return r

/-- The user of a username, from the cache if they are kept there. -/
def user (name : String) : Accounting User := do
  match (← get).users.get? name with
  | some u => return u
  | none =>
    let u ← storedUserNamed name
    modify fun a => { a with users := a.users.keep name u }
    return u

/-- Forget the roles kept under some keys. -/
def forgetRoles (keys : List RoleRef) : Accounting Unit :=
  modify fun a => { a with roles := keys.foldl Cache.forget a.roles }

/-- Forget the users kept under some names. -/
def forgetUsers (names : List String) : Accounting Unit :=
  modify fun a => { a with users := names.foldl Cache.forget a.users }

/-- Forget every role and every user that is kept. -/
def forgetAll : Accounting Unit :=
  modify fun a => { a with roles := a.roles.clear, users := a.users.clear }

/-- The answer to a request, or nothing if it fails. -/
def attempt {α : Type} (request : Accounting α) : Accounting (Option α) :=
  tryCatch (some <$> request) fun _ => pure none

/-- What the roles of a user grant. A role that cannot be loaded grants nothing. -/
def clearance (u : User) : Accounting Clearance := do
  let roles ← u.roleIds.mapM fun id => attempt (role (.id id))
  return ⟨roles.filterMap id⟩

end Accounting

end StorageGateway
