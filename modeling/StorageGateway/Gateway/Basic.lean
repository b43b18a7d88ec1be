import StorageGateway.Account.Change
import StorageGateway.Gateway.Settings
import StorageGateway.Meta.Basic
import StorageGateway.Mount.Routes

/-!
# The gateway

A `Gateway` holds mounts, metas and accounts together. A request runs on it, can change it, and
answers or fails; what a failed request has changed so far stays changed. It fails in a storage, in the
accounts, or because of its path; or it is denied. A denial tells nothing but the path that was asked
for.
-/

namespace StorageGateway

/-- Why a request to the gateway fails. -/
inductive GatewayError where
  | storage (e : StorageError)
  | account (e : AccountError)
  | permissionDenied (path : Path)
  | path (e : PathError)
deriving DecidableEq

namespace GatewayError

/-- The text shown for the error. -/
def message : GatewayError → String
  | storage e => e.message
  | account e => e.message
  | permissionDenied p => "permission denied: " ++ p.text
  | path e => e.message

/-- Whether the error says that nothing is there. -/
def isMissing : GatewayError → Bool
  | storage e => e.isMissing
  | account e => e.isMissing
  | _ => false

/-- Whether the error says that the user may not do this. -/
def isDenied : GatewayError → Bool
  | permissionDenied _ => true
  | _ => false

end GatewayError

/-- Mounts, metas and accounts in one place. -/
structure Gateway where
  settings : GatewaySettings
  routes : Routes
  pool : Pool
  metas : MetaIndex
  accounts : Accounts

/-- A request to the gateway. -/
abbrev Serving := EStateM GatewayError Gateway

/-- The backend that a setting asks for, with nothing stored or fetched. -/
def DriverSettings.backend (now : Time) : DriverSettings → Backend
  | .memory => .memory (.new now)
  | .releases settings => .releases (.new settings)

namespace Gateway

/-- The gateway with a backend mounted. -/
def mount (g : Gateway) (p : Path) (b : Backend) (now : Time) : Gateway :=
  let (id, pool) := g.pool.add b
  { g with pool, routes := g.routes.mount p id now }

/-- The gateway without mounts. -/
def new (settings : GatewaySettings) (store : AccountStore) (source : Source) : Gateway :=
  { settings, routes := .empty, pool := .new source, metas := .empty,
    accounts := .new store settings.cache.roleTtlSecs settings.cache.userTtlSecs }

instance : Inhabited Gateway := ⟨new default default default⟩

/-- The gateway with the mounts of its settings. -/
def ofSettings (settings : GatewaySettings) (store : AccountStore) (source : Source) (now : Time) :
    Gateway :=
  settings.mounts.foldl (fun g m => g.mount (.ofText m.path) (m.driver.backend now) now)
    (new settings store source)

end Gateway

namespace Serving

/-- A request to the accounts. -/
def account {α : Type} (request : Accounting α) : Serving α := fun g =>
  match request g.accounts with
  | .ok a accounts => .ok a { g with accounts }
  | .error e accounts => .error (.account e) { g with accounts }

/-- A request to the backends. -/
def storage {α : Type} (request : Pool.Request α) : Serving α := fun g =>
  match request g.pool with
  | .ok a pool => .ok a { g with pool }
  | .error e pool => .error (.storage e) { g with pool }

/-- Create the built-in roles. -/
def ensureBuiltIns : Serving Unit := account .ensureBuiltIns

/-- Drop every mount, and forget every role and user that is kept. -/
def close : Serving Unit := do
  modify fun g => { g with routes := .empty }
  account .forgetAll

/-- The user of a username. -/
def user (name : String) : Serving User := account (.user name)

/-- The roles that the user of a username holds. -/
def rolesOf (name : String) : Serving (List Role) := do
  let u ← user name
  account (.storedRolesOf u.id)

/-- Move a mount; scopes and base paths follow it. -/
def moveMount (old new : Path) (now : Time) : Serving PathMove := do
  match (← get).routes.rename old new now with
  | .error e => throw (.storage e)
  | .ok routes =>
    modify fun g => { g with routes }
    account (.movePath old new)

end Serving

end StorageGateway
