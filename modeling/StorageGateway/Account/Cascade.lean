import StorageGateway.Account.Error
import StorageGateway.Account.Role
import StorageGateway.Account.User

/-!
# What a change of accounts entails

A change of one record can move others along: roles follow a renamed path with their scopes, users
with their base paths. Here all of that is worked out from the records alone, before anything is
written.
-/

namespace StorageGateway

/-- What a role is asked for by. -/
inductive RoleRef where
  | id (id : RoleId)
  | name (name : String)
deriving DecidableEq, Repr

namespace RoleRef

/-- The key as it is named when there is no such role. -/
def text : RoleRef → String
  | id i => toString i
  | name n => n

/-- Ids come before names. -/
def before : RoleRef → RoleRef → Bool
  | id i, id j => KeyOrder.before i j
  | id _, name _ => true
  | name _, id _ => false
  | name m, name n => KeyOrder.before m n

instance : KeyOrder RoleRef where
  before := before
  before_irrefl
    | id i => KeyOrder.before_irrefl i
    | name n => KeyOrder.before_irrefl n
  before_trans {a b c} h k :=
    match a, b, c, h, k with
    | id _, id _, id _, h, k => KeyOrder.before_trans h k
    | id _, _, name _, _, _ => rfl
    | name _, name _, name _, h, k => KeyOrder.before_trans h k
  before_total
    | id i, id j => by simpa [before] using KeyOrder.before_total i j
    | id _, name _ => .inl rfl
    | name _, id _ => .inr (.inr rfl)
    | name m, name n => by simpa [before] using KeyOrder.before_total m n

end RoleRef

/-- The keys under which a role is found. -/
def Role.keys (r : Role) : List RoleRef := [.id r.id, .name r.name]

/-! ## Moving a path -/

/-- A user whose base path moves. -/
structure BasePathMove where
  userId : UserId
  username : String
  source : Path
  target : Path
deriving DecidableEq

/-- How the base path of a user follows `old` to `new`, if it moves at all. -/
def User.basePathMove? (u : User) (old new : Path) : Option BasePathMove :=
  let source := Path.ofText u.basePath
  (source.follow? old new).bind fun target =>
    if target = source then none
    else some { userId := u.id, username := u.username, source, target }

/-- The moves of those users who have their base path at `old` or beneath it. -/
def basePathMoves (users : List User) (old new : Path) : List BasePathMove :=
  users.filterMap fun u => u.basePathMove? old new

/-- The scope after `old` has become `new`. -/
def Scope.follow (s : Scope) (old new : Path) : Scope :=
  match (Path.ofText s.path).follow? old new with
  | some p => { s with path := p.text }
  | none => s

/-- The role after `old` has become `new`, unless nothing changes. -/
def Role.follow? (r : Role) (old new : Path) : Option Role :=
  let scopes := r.scopes.map fun s => s.follow old new
  if scopes = r.scopes then none else some { r with scopes }

/-- The roles that change when `old` becomes `new`, as they are then. -/
def scopeMoves (roles : List Role) (old new : Path) : List Role :=
  roles.filterMap fun r => r.follow? old new

/-! ## Updating a role -/

/-- Whether the path of a scope keeps its meaning when it is cleaned: it has no `..` segment and no
NUL character. -/
def Scope.isSound (s : Scope) : Bool :=
  !s.path.toList.contains '\x00' && !(pieces s.path).contains ".."

/-- Refuse a role with a scope that is not sound. -/
def Role.checkScopes (r : Role) : Except AccountError Unit :=
  match r.scopes.find? fun s => !s.isSound with
  | some s => .error (.invalidScope s.path)
  | none => .ok ()

/-- All that an update of a role entails. -/
structure RoleUpdate where
  /-- The role to store. -/
  role : Role
  /-- The place of the primary scope before and after, if it moves; base paths follow it. -/
  move : Option (Path × Path)
  /-- The keys under which the role must be looked up anew. -/
  stale : List RoleRef
deriving DecidableEq

/-- Refuse an update that touches a protected name: the administrator role is never updated, the
visitor role keeps its name, and no other role takes a protected one. -/
def Role.checkRename (current requested : Role) : Except AccountError Unit :=
  if current.name = guestName then
    if requested.name = guestName then .ok ()
    else .error (.protectedRole (.rename guestName requested.name))
  else if current.isBuiltIn then .error (.protectedRole (.modify current.name))
  else if requested.isBuiltIn then
    .error (.protectedRole (.rename current.name requested.name))
  else .ok ()

/-- How the primary scope moves from one state of a role to the next. -/
def Role.primaryMove? (current next : Role) : Option (Path × Path) :=
  match current.primary?, next.primary? with
  | some old, some new =>
    if Path.ofText old.path = Path.ofText new.path then none
    else some (Path.ofText old.path, Path.ofText new.path)
  | _, _ => none

/-- What it entails to update `current` to `requested`, or why that is refused. -/
def Role.planUpdate (current requested : Role) : Except AccountError RoleUpdate := do
  current.checkRename requested
  requested.checkScopes
  let role := { requested with id := current.id }.normalize
  return {
    role
    move := current.primaryMove? role
    stale := [.id role.id, .name current.name] ++
      if role.name = current.name then [] else [.name role.name] }

end StorageGateway
