import StorageGateway.Access.Operation
import StorageGateway.Account.Role
import StorageGateway.Listing.Entry
import StorageGateway.Meta.Basic

/-!
# Clearance

The roles of a user, ready to decide. At a path the user has the permissions of every scope that
covers it. Metas come on top: they ask for passwords, hide entries, and give leave to write. Every
decision is a function of the roles and of the meta that governs the path.
-/

namespace StorageGateway

/-- The roles of a user, in order. -/
structure Clearance where
  roles : List Role
deriving DecidableEq, Repr

namespace Clearance

/-- The scopes of all roles. -/
def scopes (c : Clearance) : List Scope := c.roles.flatMap Role.scopes

/-- The permissions of every scope that covers a path. -/
def effective (c : Clearance) (p : Path) : PermissionSet :=
  .unions ((c.scopes.filter (·.covers p)).map Scope.permission)

/-- Whether a permission is granted at a path. -/
def has (c : Clearance) (p : Path) (perm : Permission) : Bool := (c.effective p).contains perm

/-- Whether a scope covers the path. -/
def mayRead (c : Clearance) (p : Path) : Bool := c.scopes.any (·.covers p)

/-- A user with the path limit keeps to the paths that a scope covers. -/
def withinLimit (c : Clearance) (p : Path) : Bool := !c.has p .pathLimit || c.mayRead p

/-- Whether hide patterns leave the path visible. A path is hidden as an entry of its parent. -/
def sees (c : Clearance) (rules : Option DirectoryRules) (p : Path) : Bool :=
  match rules with
  | none => true
  | some r => !(r.hidesWithin p.parent && r.hide.hides p.lastSegment) || c.has p .seeHides

/-- The entries of a listing of `dir` that hide patterns leave visible. -/
def visibleEntries (c : Clearance) (rules : Option DirectoryRules) (dir : Path)
    (entries : List Entry) : List Entry :=
  match rules with
  | none => entries
  | some r =>
    if r.hidesWithin dir then
      entries.filter fun e => !r.hide.hides e.name || c.has (dir.join e.name) .seeHides
    else entries

/-- Whether the path can be reached with a password: a scope covers it, it is visible, and its
password gate opens. -/
def mayEnter (c : Clearance) (rules : Option DirectoryRules) (p : Path) (password : String) :
    Bool :=
  c.mayRead p && c.sees rules p &&
    (c.has p .accessWithoutPassword ||
      match rules with
      | none => true
      | some r => !r.locks p || r.source.password == password)

/-- Whether the user or the meta of the path allows to write. -/
def mayWrite (c : Clearance) (rules : Option DirectoryRules) (p : Path) : Bool :=
  c.has p .write || rules.any (·.letsWrite p)

/-- The permissions that an operation asks for by itself. -/
def operationAllowed (perms : PermissionSet) : Operation → Bool
  | .read => true
  | .setProperties => true
  | .refresh => perms.contains .write
  | .write => perms.contains .write
  | .rename => perms.contains .rename
  | .move renames => perms.contains .move && (!renames || perms.contains .rename)
  | .copy => perms.contains .copy
  | .remove => perms.contains .remove

/-- Whether an operation other than a refresh is allowed over a protocol to one who has `perms` at
the path and can write there or not. -/
def protocolAllows (perms : PermissionSet) (mayWrite : Bool) (protocol : Protocol)
    (op : Operation) : Bool :=
  match protocol with
  | .http =>
    match op with
    | .read => true
    | .write => mayWrite
    | .setProperties => mayWrite
    | op => operationAllowed perms op
  | .webDav =>
    perms.contains .webdavRead &&
      (!op.isChange || (perms.contains .webdavManage && operationAllowed perms op))
  | .ftp =>
    perms.contains .ftpAccess &&
      (!op.isChange ||
        (perms.contains .ftpManage && if op = .write then mayWrite else operationAllowed perms op))

/-- Whether an operation is allowed at a path over a protocol. -/
def allows (c : Clearance) (rules : Option DirectoryRules) (p : Path) (protocol : Protocol)
    (op : Operation) : Bool :=
  c.withinLimit p &&
    if op = .refresh then c.mayWrite rules p
    else protocolAllows (c.effective p) (c.mayWrite rules p) protocol op

end Clearance

end StorageGateway
