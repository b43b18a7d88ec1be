import StorageGateway.Proofs.Account.Names

/-!
# Runs of a store

A store is asked for records, and stores and deletes them; what it does at one request is a
`StoreStep`, be it made of records or of rows. Names stay distinct along a run, and numbers are given
out in order until a count of them comes round. Main statements: `StoreStep.of_request` and
`sound_serve`.
-/

namespace StorageGateway

/-- A request to a store of accounts. -/
inductive StoreRequest where
  | role (id : RoleId)
  | roleNamed (name : String)
  | allRoles
  | putRole (role : Role)
  | eraseRole (id : RoleId)
  | user (id : UserId)
  | userNamed (name : String)
  | allUsers
  | putUser (user : User)
  | moveBasePaths (old new : Path)
  | rolesOf (id : UserId)

/-- What a store answers to a request. -/
inductive StoreAnswer where
  | role (role : Role)
  | roles (roles : List Role)
  | user (user : User)
  | users (users : List User)
  | usernames (names : List String)
  | done
deriving DecidableEq

namespace AccountStore

/-- A look-up as a request, which leaves the store as it is. -/
def lookUp {α : Type} (question : AccountStore → Except AccountError α) : Change α := fun s =>
  match question s with
  | .ok answer => .ok answer s
  | .error e => .error e s

section LookUp

variable {α : Type} (question : AccountStore → Except AccountError α) (s : AccountStore)

@[simp] theorem after_lookUp : after (lookUp question) s = s := by
  rw [after, lookUp]
  cases question s <;> rfl

end LookUp

end AccountStore

namespace StoreRequest

/-- Put the request to a store. -/
def run : StoreRequest → AccountStore.Change StoreAnswer
  | .role id => .role <$> AccountStore.lookUp (·.role id)
  | .roleNamed name => .role <$> AccountStore.lookUp (·.roleNamed name)
  | .allRoles => .roles <$> AccountStore.lookUp (·.allRoles)
  | .putRole r => .role <$> AccountStore.putRole r
  | .eraseRole id => (fun _ => .done) <$> AccountStore.eraseRole id
  | .user id => .user <$> AccountStore.lookUp (·.user id)
  | .userNamed name => .user <$> AccountStore.lookUp (·.userNamed name)
  | .allUsers => .users <$> AccountStore.lookUp (·.allUsers)
  | .putUser u => .user <$> AccountStore.putUser u
  | .moveBasePaths old new => .usernames <$> AccountStore.moveBasePaths old new
  | .rolesOf id => .roles <$> AccountStore.lookUp (·.rolesOf id)

/-- Whether a store can carry out a request before one of its counts of numbers comes round. -/
def HasRoom (request : StoreRequest) (s : AccountStore) : Prop :=
  match request with
  | putRole r => s.HasRoleRoom r.id.val
  | putUser u => s.HasUserRoom u.id.val
  | _ => True

instance (request : StoreRequest) (s : AccountStore) : Decidable (request.HasRoom s) :=
  match request with
  | .putRole r => inferInstanceAs (Decidable (s.HasRoleRoom r.id.val))
  | .putUser u => inferInstanceAs (Decidable (s.HasUserRoom u.id.val))
  | .role _ | .roleNamed _ | .allRoles | .eraseRole _ | .user _ | .userNamed _ | .allUsers
  | .moveBasePaths .. | .rolesOf _ => .isTrue trivial

end StoreRequest

namespace AccountStore

/-- The store after requests, one after another. -/
def serve (s : AccountStore) (requests : List StoreRequest) : AccountStore :=
  requests.foldl (fun s request => after request.run s) s

@[simp] theorem serve_append (s : AccountStore) (first next : List StoreRequest) :
    s.serve (first ++ next) = (s.serve first).serve next :=
  List.foldl_append

/-- Each request of a run is as `C` says of it and of the store that it meets. -/
abbrev Throughout (C : StoreRequest → AccountStore → Prop) (s : AccountStore)
    (requests : List StoreRequest) : Prop :=
  StorageGateway.Throughout (fun s request => after request.run s) C s requests

/-- No count of numbers comes round in a run of requests. -/
abbrev InRange (s : AccountStore) (requests : List StoreRequest) : Prop :=
  s.Throughout StoreRequest.HasRoom requests

end AccountStore

/-! ## Steps -/

/-- What a store may have become once a request was put to it. -/
inductive StoreStep (s : AccountStore) : StoreRequest → AccountStore → Prop
  /-- A look-up, or a change that finds nothing to change. -/
  | stay (request : StoreRequest) : StoreStep s request s
  | refuseRole {role : Role}
    (taken : s.roleElsewhere (s.roleNumber role.id.val) role.name = true) :
    StoreStep s (.putRole role) (s.withoutNewRole role.id.val)
  | storeRole {role : Role}
    (free : s.roleElsewhere (s.roleNumber role.id.val) role.name = false) :
    StoreStep s (.putRole role) (s.withRole (s.roleNumber role.id.val) role)
  | eraseRole (id : RoleId) : StoreStep s (.eraseRole id) (s.withoutRole id.val)
  | refuseUser {user : User}
    (taken : s.userElsewhere (s.userNumber user.id.val) user.username = true) :
    StoreStep s (.putUser user) (s.withoutNewUser user.id.val)
  | storeUser {user : User}
    (free : s.userElsewhere (s.userNumber user.id.val) user.username = false) :
    StoreStep s (.putUser user) (s.withUser (s.userNumber user.id.val) user)
  | followUsers (old new : Path) : StoreStep s (.moveBasePaths old new) (s.followUsers old new)

namespace StoreStep

open AccountStore

variable {s t : AccountStore} {request : StoreRequest}

theorem of_putRole (s : AccountStore) (role : Role) :
    StoreStep s (.putRole role) (after (AccountStore.putRole role) s) := by
  rw [after]
  cases taken : s.roleElsewhere (s.roleNumber role.id.val) role.name with
  | true =>
    rw [putRole_taken role taken]
    exact .refuseRole taken
  | false =>
    cases told : s.canTell (s.roleNumber role.id.val) with
    | true =>
      rw [putRole_told role taken told]
      exact .storeRole taken
    | false =>
      rw [putRole_untold role taken told]
      exact .storeRole taken

theorem of_putUser (s : AccountStore) (user : User) :
    StoreStep s (.putUser user) (after (AccountStore.putUser user) s) := by
  rw [after]
  cases taken : s.userElsewhere (s.userNumber user.id.val) user.username with
  | true =>
    rw [putUser_taken user taken]
    exact .refuseUser taken
  | false =>
    cases told : s.canTell (s.userNumber user.id.val) with
    | true =>
      rw [putUser_told user taken told]
      exact .storeUser taken
    | false =>
      rw [putUser_untold user taken told]
      exact .storeUser taken

theorem of_eraseRole (s : AccountStore) (id : RoleId) :
    StoreStep s (.eraseRole id) (after (AccountStore.eraseRole id) s) := by
  rw [after, eraseRole_run]
  by_cases held : s.holdsRole id.val = true
  · rw [if_pos held]
    exact .eraseRole id
  · rw [if_neg held]
    exact .stay _

theorem of_moveBasePaths (distinct : s.Distinct) (old new : Path) :
    StoreStep s (.moveBasePaths old new) (after (AccountStore.moveBasePaths old new) s) := by
  rw [after, moveBasePaths_run distinct]
  cases s.allUsers with
  | error e => exact .stay _
  | ok users => exact .followUsers old new

/-- Every request is a step. -/
theorem of_request (distinct : s.Distinct) :
    (request : StoreRequest) → StoreStep s request (after request.run s)
  | .putRole role => by
    rw [StoreRequest.run, after_map]
    exact of_putRole s role
  | .eraseRole id => by
    rw [StoreRequest.run, after_map]
    exact of_eraseRole s id
  | .putUser user => by
    rw [StoreRequest.run, after_map]
    exact of_putUser s user
  | .moveBasePaths old new => by
    rw [StoreRequest.run, after_map]
    exact of_moveBasePaths distinct old new
  | .role _ | .roleNamed _ | .allRoles | .user _ | .userNamed _ | .allUsers | .rolesOf _ => by
    rw [StoreRequest.run, after_map, after_lookUp]
    exact .stay _

theorem distinct (step : StoreStep s request t) (distinct : s.Distinct) : t.Distinct := by
  cases step with
  | stay => exact distinct
  | refuseRole _ => exact distinct.withoutNewRole _
  | storeRole free => exact distinct.withRole free
  | eraseRole id => exact distinct.withoutRole id.val
  | refuseUser _ => exact distinct.withoutNewUser _
  | storeUser free => exact distinct.withUser free
  | followUsers old new => exact distinct.followUsers old new

theorem sound (step : StoreStep s request t) (room : request.HasRoom s) (sound : s.Sound) :
    t.Sound := by
  cases step with
  | stay => exact sound
  | refuseRole _ => exact sound.withoutNewRole room
  | storeRole free => exact sound.withRole room free
  | eraseRole id => exact sound.withoutRole id.val
  | refuseUser _ => exact sound.withoutNewUser room
  | storeUser free => exact sound.withUser room free
  | followUsers old new => exact sound.followUsers old new

end StoreStep

namespace AccountStore

variable {P : AccountStore → Prop} {C : StoreRequest → AccountStore → Prop} {s : AccountStore}
  {requests : List StoreRequest}

/-- What every request keeps that is as `C` says holds at the end of a run of such requests. -/
theorem serve_of_throughout
    (kept : ∀ {s request}, s.Distinct → C request s → P s → P (after request.run s))
    (distinct : s.Distinct) (holds : P s) (all : s.Throughout C requests) :
    (s.serve requests).Distinct ∧ P (s.serve requests) :=
  Throughout.induction (P := fun s => s.Distinct ∧ P s) all
    (fun _ meets ⟨distinct, holds⟩ =>
      ⟨(StoreStep.of_request distinct _).distinct distinct, kept distinct meets holds⟩)
    ⟨distinct, holds⟩

/-- What every step of a run keeps holds at its end, if no count of numbers comes round. -/
theorem serve_of_steps
    (kept : ∀ {s t request}, request ∈ requests → request.HasRoom s → StoreStep s request t →
      P s → P t)
    (sound : s.Sound) (holds : P s) (inRange : s.InRange requests) :
    (s.serve requests).Sound ∧ P (s.serve requests) :=
  Throughout.induction (P := fun s => s.Sound ∧ P s) inRange
    (fun present room ⟨sound, holds⟩ =>
      have step := StoreStep.of_request sound.distinct _
      ⟨step.sound room sound, kept present room step holds⟩)
    ⟨sound, holds⟩

theorem sound_serve (sound : s.Sound) (inRange : s.InRange requests) : (s.serve requests).Sound :=
  (serve_of_steps (P := fun _ => True) (fun _ _ _ _ => trivial) sound trivial inRange).1

end AccountStore

end StorageGateway
