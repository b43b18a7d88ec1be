/-!
# Why an account operation is refused

The causes, and for each the text that is shown.
-/

namespace StorageGateway

/-- What protects a built-in role or account. -/
inductive Protection where
  /-- A new role cannot take the name of a built-in one. -/
  | builtIn (name : String)
  /-- A role cannot be renamed from or to a protected name. -/
  | rename (current requested : String)
  /-- The administrator role cannot be changed. -/
  | modify (name : String)
  /-- A built-in role cannot be deleted. -/
  | delete (name : String)
  /-- The administrator account keeps its username. -/
  | adminUsername
  /-- The administrator account keeps its roles. -/
  | adminRoles
deriving DecidableEq, Repr

/-- What a protection forbids. -/
def Protection.message : Protection → String
  | .builtIn name => "role " ++ name ++ " is built in"
  | .rename current requested => "cannot rename role " ++ current ++ " to " ++ requested
  | .modify name => "cannot modify role " ++ name
  | .delete name => "cannot delete role " ++ name
  | .adminUsername => "cannot change the admin username"
  | .adminRoles => "cannot change the admin roles"

/-- Why an operation on roles or users fails. -/
inductive AccountError where
  /-- No role has the id or name. -/
  | roleNotFound (key : String)
  /-- No user has the id or name. -/
  | userNotFound (key : String)
  /-- The path of a scope would change its meaning when cleaned. -/
  | invalidScope (path : String)
  | protectedRole (reason : Protection)
  /-- The name belongs to another record. -/
  | alreadyExists (name : String)
  /-- The store failed, or holds a record that cannot be read. -/
  | store
deriving DecidableEq, Repr

namespace AccountError

/-- The text shown for the error. -/
def message : AccountError → String
  | roleNotFound key => "role not found: " ++ key
  | userNotFound key => "user not found: " ++ key
  | invalidScope path => "invalid scope: " ++ path
  | protectedRole reason => "protected role violation: " ++ reason.message
  | alreadyExists name => "already exists: " ++ name
  | store => "store error"

/-- Whether the error says that there is no such record. -/
def isMissing : AccountError → Bool
  | roleNotFound _ => true
  | userNotFound _ => true
  | _ => false

end AccountError

end StorageGateway
