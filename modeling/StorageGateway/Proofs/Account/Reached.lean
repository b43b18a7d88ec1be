import StorageGateway.Proofs.Account.Requests

/-!
# Registries that are reached

The requests to a registry and the registries that come about by them. A request reaches the store by
calls of the store alone, so that what every call keeps is kept by every request. Main statements:
`AccountStore.Stable.keeps_request` and `Accounts.Reached.store_reached`.
-/

namespace StorageGateway

/-- A request to the registry. -/
inductive AccountRequest where
  | change (change : AccountChange)
  | ensureBuiltIns
  | role (key : RoleRef)
  | user (name : String)
  | clearance (u : User)
  | rolesOf (id : UserId)
  | forgetAll

/-- Carry out a request. -/
def AccountRequest.run : AccountRequest → Accounting Unit
  | change c => c.run
  | ensureBuiltIns => Accounting.ensureBuiltIns
  | role key => discard (Accounting.role key)
  | user name => discard (Accounting.user name)
  | clearance u => discard (Accounting.clearance u)
  | rolesOf id => discard (Accounting.storedRolesOf id)
  | forgetAll => Accounting.forgetAll

/-- Whether a store can carry out a change before one of its counts of numbers comes round. Only what
is added needs a new number. -/
def AccountChange.HasRoom (change : AccountChange) (s : AccountStore) : Prop :=
  match change with
  | addRole _ => s.HasRoleRoom 0
  | addUser user _ => s.HasUserRoom user.id.val
  | _ => True

/-- Whether a store can carry out a request before one of its counts of numbers comes round. -/
def AccountRequest.HasRoom (request : AccountRequest) (s : AccountStore) : Prop :=
  match request with
  | change c => c.HasRoom s
  | _ => True

instance (change : AccountChange) (s : AccountStore) : Decidable (change.HasRoom s) :=
  match change with
  | .addRole _ => inferInstanceAs (Decidable (s.HasRoleRoom 0))
  | .addUser user _ => inferInstanceAs (Decidable (s.HasUserRoom user.id.val))
  | .changeRole _ | .removeRole _ | .moveScopes .. | .movePath .. | .changeUser _ => .isTrue trivial

instance (request : AccountRequest) (s : AccountStore) : Decidable (request.HasRoom s) :=
  match request with
  | .change c => inferInstanceAs (Decidable (c.HasRoom s))
  | .ensureBuiltIns | .role _ | .user _ | .clearance _ | .rolesOf _ | .forgetAll => .isTrue trivial

namespace Accounts

/-- The registries that come about by requests, successful or not, while calls of the store are
refused from time to time. -/
inductive Reached : Accounts → Prop
  | new {store : AccountStore} (roleLifetime userLifetime : Nat) :
    store.Reached → Reached (.new store roleLifetime userLifetime)
  | run {a : Accounts} (request : AccountRequest) : Reached a → Reached (after request.run a)
  | refuse {a : Accounts} (call : StoreCall) (on : Bool) : Reached a → Reached (a.refuse call on)

/-- The registries that come about by requests, successful or not, before a count of numbers comes
round, while calls of the store are refused from time to time. -/
inductive ReachedInRange : Accounts → Prop
  | new {store : AccountStore} (roleLifetime userLifetime : Nat) :
    store.ReachedInRange → ReachedInRange (.new store roleLifetime userLifetime)
  | run {a : Accounts} (request : AccountRequest) :
    ReachedInRange a → request.HasRoom a.store → ReachedInRange (after request.run a)
  | refuse {a : Accounts} (call : StoreCall) (on : Bool) :
    ReachedInRange a → ReachedInRange (a.refuse call on)

theorem ReachedInRange.reached {a : Accounts} (inRange : a.ReachedInRange) : a.Reached := by
  induction inRange with
  | new roleLifetime userLifetime store => exact .new roleLifetime userLifetime store.reached
  | run request _ _ ih => exact .run request ih
  | refuse call on _ ih => exact .refuse call on ih

end Accounts

/-- What every call of a store keeps. -/
structure AccountStore.Stable (P : AccountStore → Prop) : Prop where
  putRole : ∀ role, Keeps P (AccountStore.putRole role)
  eraseRole : ∀ id, Keeps P (AccountStore.eraseRole id)
  putUser : ∀ user, Keeps P (AccountStore.putUser user)
  moveBasePaths : ∀ old new, Keeps P (AccountStore.moveBasePaths old new)

namespace Accounting

variable {P : AccountStore → Prop} {α : Type}

/-- What holds of the store. -/
abbrev OfStore (P : AccountStore → Prop) (a : Accounts) : Prop := P a.store

theorem ofStore_of_consults {a b : Accounts} (consults : a.Consults b) (holds : OfStore P a) :
    OfStore P b := by
  rwa [OfStore, consults.store]

theorem OnlyLooksUp.keeps_store {x : Accounting α} (h : OnlyLooksUp x) : Keeps (OfStore P) x := by
  intro a holds
  rw [after]
  cases run : x a with
  | ok v b => exact ofStore_of_consults (h.of_ok run) holds
  | error e b => exact ofStore_of_consults (h.of_error run) holds

theorem keeps_store_change (call : StoreCall) {c : AccountStore.Change α} (kept : Keeps P c) :
    Keeps (OfStore P) (change call c) := by
  intro a holds
  rw [after, change_eq]
  by_cases refused : a.refused.contains call = true
  · rw [if_pos refused]
    exact holds
  · rw [if_neg refused]
    have keeps := kept a.store holds
    rw [after] at keeps
    cases run : c a.store <;> rwa [run] at keeps

theorem keeps_store_ofExcept (answer : Except AccountError α) :
    Keeps (OfStore P) (MonadExcept.ofExcept answer : Accounting α) := by
  cases answer
  · exact .throw _
  · exact .pure _

theorem keeps_store_forgetRoles (keys : List RoleRef) : Keeps (OfStore P) (forgetRoles keys) :=
  fun _ holds => holds

theorem keeps_store_forgetUsers (names : List String) : Keeps (OfStore P) (forgetUsers names) :=
  fun _ holds => holds

end Accounting

namespace AccountStore.Stable

open Accounting

variable {P : AccountStore → Prop} (stable : Stable P)

include stable

theorem keeps_ensureRole (builtIn : Role) : Keeps (OfStore P) (ensureRole builtIn) := by
  refine Keeps.bind (Keeps.rescue ?_ fun e => ?_) fun missing => ?_
  · exact (onlyLooksUp_ask _ _).keeps_store.discard.bind fun _ => .pure _
  · cases e with
    | roleNotFound key => exact .pure _
    | _ => exact .throw _
  · cases missing
    · exact .pure _
    · exact (keeps_store_change _ (stable.putRole builtIn)).bind fun _ => keeps_store_forgetRoles _

theorem keeps_followMove (move : Option (Path × Path)) : Keeps (OfStore P) (followMove move) := by
  cases move with
  | none => exact .pure _
  | some places =>
    exact (keeps_store_change _ (stable.moveBasePaths _ _)).bind fun _ =>
      (keeps_store_forgetUsers _).bind fun _ => .pure _

theorem keeps_moveScopes (old new : Path) : Keeps (OfStore P) (moveScopes old new) :=
  (onlyLooksUp_ask _ _).keeps_store.bind fun _ => .mapM fun role _ =>
    (keeps_store_change _ (stable.putRole role)).bind fun _ =>
      (keeps_store_forgetRoles _).bind fun _ => .pure _

theorem keeps_putUser (user : User) (names : User → List String) :
    Keeps (OfStore P) (do
      let stored ← Accounting.putUser user
      forgetUsers (names stored)
      return stored) :=
  (keeps_store_change _ (stable.putUser user)).bind fun _ =>
    (keeps_store_forgetUsers _).bind fun _ => .pure _

theorem keeps_changeUser (requested : User) : Keeps (OfStore P) (changeUser requested) := by
  have loads : Keeps (OfStore P)
      (requested.roleIds.forM fun id => discard (attempt (Accounting.role (.id id))) : Accounting Unit) := by
    intro a holds
    obtain ⟨b, run, consults⟩ :=
      forM_attempt_run (fun id : RoleId => onlyLooksUp_role (.id id)) requested.roleIds a
    rw [after_of_ok run]
    exact ofStore_of_consults consults holds
  exact (onlyLooksUp_ask _ _).keeps_store.bind fun current =>
    (onlyLooksUp_checkAdmin current requested).keeps_store.bind fun _ =>
      loads.bind fun _ => stable.keeps_putUser _ fun stored => [current.username, stored.username]

theorem keeps_run (change : AccountChange) : Keeps (OfStore P) change.run := by
  cases change with
  | addRole role =>
    exact ((onlyLooksUp_refuseIf _ _).keeps_store.bind fun _ =>
      (keeps_store_ofExcept _).bind fun _ => (keeps_store_change _ (stable.putRole _)).bind fun _ =>
        (keeps_store_forgetRoles _).bind fun _ => .pure _).discard
  | changeRole requested =>
    exact ((onlyLooksUp_ask _ _).keeps_store.bind fun _ => (keeps_store_ofExcept _).bind
      fun plan => (stable.keeps_followMove (RoleUpdate.move plan)).bind fun _ =>
        (keeps_store_change _ (stable.putRole _)).bind fun _ =>
          (keeps_store_forgetRoles _).bind fun _ => .pure _).discard
  | removeRole id =>
    exact (onlyLooksUp_ask _ _).keeps_store.bind fun _ =>
      (onlyLooksUp_refuseIf _ _).keeps_store.bind fun _ =>
        (keeps_store_change _ (stable.eraseRole id)).bind fun _ => keeps_store_forgetRoles _
  | moveScopes old new => exact (stable.keeps_moveScopes old new).discard
  | movePath old new =>
    exact ((stable.keeps_moveScopes old new).bind fun _ =>
      (stable.keeps_followMove _).bind fun _ => .pure _).discard
  | addUser user _ => exact (stable.keeps_putUser _ fun stored => [stored.username]).discard
  | changeUser requested => exact (stable.keeps_changeUser requested).discard

/-- What every call of a store keeps is kept by every request to its registry. -/
theorem keeps_request (request : AccountRequest) : Keeps (OfStore P) request.run := by
  cases request with
  | change c => exact stable.keeps_run c
  | ensureBuiltIns =>
    exact (stable.keeps_ensureRole _).bind fun _ => stable.keeps_ensureRole _
  | role key => exact (onlyLooksUp_role key).keeps_store.discard
  | user name => exact (onlyLooksUp_user name).keeps_store.discard
  | clearance u => exact (onlyLooksUp_clearance u).keeps_store.discard
  | rolesOf id => exact (onlyLooksUp_ask _ _).keeps_store.discard
  | forgetAll => exact fun _ holds => holds

end AccountStore.Stable

theorem AccountStore.Stable.and {P Q : AccountStore → Prop} (first : Stable P) (second : Stable Q) :
    Stable fun s => P s ∧ Q s where
  putRole role s both := ⟨first.putRole role s both.1, second.putRole role s both.2⟩
  eraseRole id s both := ⟨first.eraseRole id s both.1, second.eraseRole id s both.2⟩
  putUser user s both := ⟨first.putUser user s both.1, second.putUser user s both.2⟩
  moveBasePaths old new s both :=
    ⟨first.moveBasePaths old new s both.1, second.moveBasePaths old new s both.2⟩

theorem AccountStore.stable_distinct : Stable Distinct :=
  ⟨keeps_distinct_putRole, keeps_distinct_eraseRole, keeps_distinct_putUser,
    keeps_distinct_moveBasePaths⟩

theorem AccountStore.stable_hasRoleRoom {n : Nat} (positive : 0 < n) :
    Stable fun s => s.HasRoleRoom n :=
  ⟨fun _ => keeps_hasRoleRoom _ _ positive, fun _ => keeps_hasRoleRoom _ _ positive,
    fun _ => keeps_hasRoleRoom _ _ positive, fun _ _ => keeps_hasRoleRoom _ _ positive⟩

theorem AccountStore.stable_hasUserRoom {n : Nat} (positive : 0 < n) :
    Stable fun s => s.HasUserRoom n :=
  ⟨fun _ => keeps_hasUserRoom _ _ positive, fun _ => keeps_hasUserRoom _ _ positive,
    fun _ => keeps_hasUserRoom _ _ positive, fun _ _ => keeps_hasUserRoom _ _ positive⟩

/-- A store of records stays one. -/
theorem AccountStore.stable_records : Stable fun s => ∃ t, s = records t where
  putRole _ _ | ⟨t, same⟩ => same ▸ after_records _ _ t
  eraseRole _ _ | ⟨t, same⟩ => same ▸ after_records _ _ t
  putUser _ _ | ⟨t, same⟩ => same ▸ after_records _ _ t
  moveBasePaths _ _ _ | ⟨t, same⟩ => same ▸ after_records _ _ t

theorem AccountStore.stable_reached : Stable Reached where
  putRole role _ := .putRole role
  eraseRole id _ := .eraseRole id
  putUser user _ := .putUser user
  moveBasePaths old new _ := .moveBasePaths old new

/-- The store of a registry that is reached is reached itself. -/
theorem Accounts.Reached.store_reached {a : Accounts} (reached : a.Reached) : a.store.Reached := by
  induction reached with
  | new _ _ store => exact store
  | run request _ ih => exact AccountStore.stable_reached.keeps_request request _ ih
  | refuse call on _ ih => exact ih

end StorageGateway
