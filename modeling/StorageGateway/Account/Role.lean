import StorageGateway.Account.Id
import StorageGateway.Path.Basic
import StorageGateway.Permission.Basic

/-!
# Roles

A role grants masks of permissions at paths. Two roles are built in: `guest` for visitors and
`admin` for the administrator; their names are protected.
-/

namespace StorageGateway

/-- A mask granted at a path and beneath it. -/
structure Scope where
  /-- The path as it was entered; it is cleaned where it is compared. -/
  path : String
  permission : PermissionSet
deriving DecidableEq, Repr

namespace Scope

/-- Whether the scope covers a path. -/
def covers (s : Scope) (p : Path) : Bool := (Path.ofText s.path).covers p

/-- The scope with its path cleaned. -/
def normalize (s : Scope) : Scope := { s with path := (Path.ofText s.path).text }

end Scope

/-- A template of permissions that users refer to by its id. -/
structure Role where
  id : RoleId
  name : String
  description : String
  /-- The scopes in order; the first is the primary one. -/
  scopes : List Scope
deriving DecidableEq, Repr

namespace Role

/-- The name of the role of visitors. -/
def guestName : String := "guest"

/-- The name of the role of the administrator. -/
def adminName : String := "admin"

/-- The built-in role of visitors: no permission anywhere. -/
def guest : Role :=
  { id := .guest, name := guestName, description := "Guest", scopes := [⟨"/", .none⟩] }

/-- The mask of the built-in administrator role. -/
def adminMask : PermissionSet := .ofNat 0xFFFF

/-- The built-in role of the administrator: every permission everywhere. -/
def admin : Role :=
  { id := .admin, name := adminName, description := "Administrator",
    scopes := [⟨"/", adminMask⟩] }

/-- Whether a name belongs to a built-in role. -/
def isBuiltInName (name : String) : Bool := name == adminName || name == guestName

/-- Whether the role has the name of a built-in role. -/
def isBuiltIn (r : Role) : Bool := isBuiltInName r.name

/-- The role with the paths of its scopes cleaned. -/
def normalize (r : Role) : Role := { r with scopes := r.scopes.map Scope.normalize }

/-- The first scope. -/
def primary? (r : Role) : Option Scope := r.scopes.head?

end Role

end StorageGateway
