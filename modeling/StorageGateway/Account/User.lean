import StorageGateway.Account.Id
import StorageGateway.Path.Basic

/-!
# Users

A user addresses everything from a base path and holds roles by their ids. An id that belongs to
no role grants nothing.
-/

namespace StorageGateway

/-- A user of the gateway. -/
structure User where
  id : UserId
  username : String
  /-- The directory from which the user's requests start, as it was entered. -/
  basePath : String
  roleIds : List RoleId
  disabled : Bool
  /-- When the password was last changed, in seconds since 1970. -/
  passwordTime : Int
deriving DecidableEq, Repr

namespace User

/-- The username of the built-in account. -/
def adminName : String := "admin"

/-- The base path of a user for whom none is given. -/
def initialBasePath : String := "/"

/-- The user with one more role, unless they hold it already. -/
def giveRole (u : User) (id : RoleId) : User :=
  if id ∈ u.roleIds then u else { u with roleIds := u.roleIds ++ [id] }

/-- Whether the user holds the administrator role. -/
def isAdministrator (u : User) : Bool := u.roleIds.contains .admin

/-- Whether the user holds the visitor role. -/
def isVisitor (u : User) : Bool := u.roleIds.contains .guest

/-- The user with the base path cleaned. -/
def normalize (u : User) : User := { u with basePath := (Path.ofText u.basePath).text }

/-- The path that a request of the user leads to. -/
def resolve (u : User) (request : String) : Except PathError Path :=
  (Path.ofText u.basePath).joinBelow request

end User

end StorageGateway
