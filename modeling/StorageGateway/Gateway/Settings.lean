import StorageGateway.Release.Storage
import StorageGateway.Toml.Reader

/-!
# Settings

The settings of a gateway: its caches, how many mounts are listed at a time, and what is mounted
from the start. They are read from TOML; every setting but the path of a mount has a default.
-/

namespace StorageGateway

/-- The settings of the caches of roles and users. -/
structure CacheSettings where
  /-- For how many seconds a role is kept. -/
  roleTtlSecs : Nat
  /-- For how many seconds a user is kept. -/
  userTtlSecs : Nat
  /-- How many entries a cache keeps. -/
  maxCapacity : Nat
deriving DecidableEq, Repr

/-- What serves a mount. -/
inductive DriverSettings where
  | memory
  | releases (settings : ReleasesSettings)
deriving DecidableEq, Repr

/-- A mount that is there from the start. -/
structure MountSettings where
  path : String
  driver : DriverSettings
deriving DecidableEq, Repr

/-- The settings of a gateway. -/
structure GatewaySettings where
  cache : CacheSettings
  /-- How many mounts are listed at a time. -/
  listingConcurrency : Nat
  mounts : List MountSettings
deriving DecidableEq, Repr

namespace CacheSettings

/-- The settings where none are given. -/
def default : CacheSettings := ⟨3600, 3600, 10000⟩

end CacheSettings

namespace GatewaySettings

/-- The settings where none are given. -/
def default : GatewaySettings := ⟨.default, 8, []⟩

instance : Inhabited GatewaySettings := ⟨default⟩

/-- The settings with one more mount. -/
def mounting (c : GatewaySettings) (path : String) (driver : DriverSettings) : GatewaySettings :=
  { c with mounts := c.mounts ++ [⟨path, driver⟩] }

end GatewaySettings

open Toml

/-- Read the settings of the caches. -/
def CacheSettings.ofToml? (v : Toml) : Option CacheSettings := do
  match ← fields? ["role_ttl_secs", "user_ttl_secs", "max_capacity"] v with
  | [role, user, capacity] =>
    return {
      roleTtlSecs := ← optional natural? default.roleTtlSecs role
      userTtlSecs := ← optional natural? default.userTtlSecs user
      maxCapacity := ← optional natural? default.maxCapacity capacity }
  | _ => none

/-- Read how many mounts are listed at a time. -/
def listingOfToml? (v : Toml) : Option Nat := do
  match ← fields? ["max_concurrency"] v with
  | [max] => optional natural? GatewaySettings.default.listingConcurrency max
  | _ => none

/-- The names of the settings of a storage of releases. -/
def releasesNames : List String :=
  ["repo_structure", "show_all_versions", "show_readme", "concurrent_requests", "token", "proxy",
    "max_concurrency"]

/-- Read the settings of a storage of releases. -/
def ReleasesSettings.ofToml? (v : Toml) : Option ReleasesSettings := do
  match ← fields? releasesNames v with
  | [repos, allVersions, readme, concurrent, token, proxy, max] =>
    return {
      repoStructure := ← optional string? default.repoStructure repos
      showAllVersions := ← optional boolean? default.showAllVersions allVersions
      showReadme := ← optional boolean? default.showReadme readme
      concurrentRequests := ← optional boolean? default.concurrentRequests concurrent
      token := ← optional string? default.token token
      proxy := ← optional string? default.proxy proxy
      maxConcurrency := ← optional natural? default.maxConcurrency max }
  | _ => none

/-- Read a driver: a table with its kind and settings, or an array that starts with its kind and
holds nothing behind the settings. -/
def DriverSettings.ofToml? : Toml → Option DriverSettings
  | .table style entries => do
    match ← entries.lookup "kind" with
    | .string "memory" => return .memory
    | .string "releases" => return .releases (← ReleasesSettings.ofToml? (.table style entries))
    | _ => none
  | .array (.string "memory" :: settings) => if settings.isEmpty then some .memory else none
  | .array (.string "releases" :: settings) =>
    if settings.length ≤ releasesNames.length then
      (ReleasesSettings.ofToml? (.array settings)).map .releases
    else none
  | _ => none

/-- Read a mount. -/
def MountSettings.ofToml? (v : Toml) : Option MountSettings := do
  match ← fields? ["path", "driver"] v with
  | [some path, driver] =>
    return ⟨← path.string?, ← optional DriverSettings.ofToml? .memory driver⟩
  | _ => none

/-- Read the settings of a gateway. -/
def GatewaySettings.ofToml? (v : Toml) : Option GatewaySettings := do
  match ← fields? ["cache", "listing", "mounts"] v with
  | [cache, listing, mounts] =>
    return {
      cache := ← optional CacheSettings.ofToml? default.cache cache
      listingConcurrency := ← optional listingOfToml? default.listingConcurrency listing
      mounts := ← optional (fun v => do (← v.items?).mapM MountSettings.ofToml?) [] mounts }
  | _ => none

/-- The settings that a TOML text gives. -/
def GatewaySettings.parse? (text : String) : Option GatewaySettings :=
  (Toml.parse? text).bind GatewaySettings.ofToml?

end StorageGateway
