import StorageGateway.Proofs.Account.Reached

/-!
# Roles kept under their ids

Whatever stores or deletes a role forgets what was kept under its id, and a call that fails halfway
has stored a role under an id that cannot be told. So until a count of numbers comes round the role
of an id is never told otherwise than the store would tell it, and what the roles of a user grant is
what their stored roles grant. Main statements: `ReachedInRange.coherent` and
`clearance_of_coherent`.
-/

namespace StorageGateway

/-- What the stored roles of a user grant. -/
def AccountStore.granted (s : AccountStore) (u : User) : Clearance :=
  ⟨u.roleIds.filterMap fun id => (s.role id).toOption⟩

namespace Accounts

/-- Roles kept under ids that are not `stale` are those that the store answers with. -/
structure CoherentExcept (stale : List RoleId) (a : Accounts) : Prop where
  sound : a.store.Sound
  kept : ∀ {id role}, id ∉ stale → a.roles.get? (.id id) = some role → a.store.role id = .ok role

/-- All roles kept under ids are those that the store answers with. -/
abbrev Coherent : Accounts → Prop := CoherentExcept []

variable {a b : Accounts}

theorem Consults.coherent (consults : a.Consults b) (coherent : a.Coherent) : b.Coherent where
  sound := consults.store ▸ coherent.sound
  kept fresh present := by
    rw [consults.store]
    rcases consults.roles present with kept | told
    · exact coherent.kept fresh kept
    · exact told

/-- A change that leaves every role as it was leaves the kept ones current. -/
theorem CoherentExcept.of_same {stale : List RoleId} (coherent : a.CoherentExcept stale)
    (sound : b.store.Sound) (roles : b.roles = a.roles)
    (same : ∀ id, b.store.role id = a.store.role id) : b.CoherentExcept stale where
  sound := sound
  kept fresh present := by
    rw [roles] at present
    rw [same, coherent.kept fresh present]

theorem CoherentExcept.forgettingRoles {stale : List RoleId} (coherent : a.CoherentExcept stale)
    {keys : List RoleRef} (gone : ∀ id ∈ stale, .id id ∈ keys) :
    (a.forgettingRoles keys).Coherent where
  sound := coherent.sound
  kept {id role} _ present := by
    obtain ⟨remembered, before⟩ := Cache.of_get?_foldl_forget present
    exact coherent.kept (fun stale => remembered (gone id stale)) before

end Accounts

namespace Accounting

open Accounts AccountStore

variable {a : Accounts}

theorem OnlyLooksUp.keeps_coherent {α : Type} {x : Accounting α} (h : OnlyLooksUp x) :
    Keeps Coherent x := by
  intro a coherent
  rw [after]
  cases run : x a with
  | ok v b => exact (h.of_ok run).coherent coherent
  | error e b => exact (h.of_error run).coherent coherent

/-! ## Changes of roles -/

/-- A role that is stored makes stale what is kept under its id, and nothing else. -/
theorem coherent_putRole (coherent : a.Coherent) {role : Role}
    (room : a.store.HasRoleRoom role.id.val) :
    match putRole role a with
    | .ok stored b => b.CoherentExcept [stored.id] ∧ (0 < role.id.val → stored.id = role.id)
    | .error _ b => b.Coherent := by
  rw [putRole, change_eq]
  by_cases refused : a.refused.contains .putRole = true
  · rw [if_pos refused]
    exact (Consults.called a .putRole).coherent coherent
  · rw [if_neg refused]
    have sound := coherent.sound
    cases taken : a.store.roleElsewhere (a.store.roleNumber role.id.val) role.name with
    | true =>
      rw [putRole_taken role taken]
      exact coherent.of_same (sound.withoutNewRole room) rfl (role_withoutNewRole _ _)
    | false =>
      have soundAfter := sound.withRole room taken
      cases told : a.store.canTell (a.store.roleNumber role.id.val) with
      | true =>
        rw [putRole_told role taken told]
        refine ⟨⟨soundAfter, fun {id found} other present => ?_⟩, fun positive => ?_⟩
        · have differ : id.val ≠ a.store.roleNumber role.id.val :=
            fun same => other (List.mem_singleton.mpr (congrArg RoleId.mk same))
          rw [store_called, role_withRole, if_neg differ]
          exact coherent.kept List.not_mem_nil present
        · exact congrArg RoleId.mk (roleNumber_of_pos a.store positive)
      | false =>
        rw [putRole_untold role taken told]
        refine ⟨soundAfter, fun {id found} fresh present => ?_⟩
        have known := coherent.kept fresh present
        have readable := (sound.distinct.of_role known).2.1
        have differ : id.val ≠ a.store.roleNumber role.id.val := by
          intro same
          rw [same, told] at readable
          contradiction
        rw [store_called, role_withRole, if_neg differ]
        exact known

/-- Whoever stores a role forgets it next. -/
theorem coherent_after_putRole {α : Type} (coherent : a.Coherent) {role : Role}
    (room : a.store.HasRoleRoom role.id.val) {f : Role → Accounting α}
    (next : ∀ stored b, b.CoherentExcept [stored.id] →
      (0 < role.id.val → stored.id = role.id) → (after (f stored) b).Coherent) :
    (after (putRole role >>= f) a).Coherent := by
  have stored := coherent_putRole coherent room
  cases run : putRole role a with
  | error e b =>
    rw [run] at stored
    rw [after, bind_of_error run]
    exact stored
  | ok known b =>
    rw [run] at stored
    rw [after, bind_of_ok run]
    exact next known b stored.1 stored.2

theorem id_mem_keys (role : Role) : ∀ id ∈ [role.id], .id id ∈ role.keys := by
  intro id same
  rw [List.mem_singleton.mp same]
  exact List.mem_cons_self

theorem keeps_coherent_ensureRole {builtIn : Role} (positive : 0 < builtIn.id.val)
    (small : builtIn.id.val + 1 < idLimit) : Keeps Coherent (ensureRole builtIn) := by
  refine Keeps.bind (Keeps.rescue ?_ fun e => ?_) fun missing => ?_
  · exact (onlyLooksUp_ask _ _).keeps_coherent.discard.bind fun _ => .pure _
  · cases e with
    | roleNotFound key => exact .pure _
    | _ => exact .throw _
  · cases missing
    · exact .pure _
    · exact fun a coherent => coherent_after_putRole coherent
        (hasRoleRoom_of_pos a.store positive small)
        fun stored b coherent _ => coherent.forgettingRoles (id_mem_keys stored)

theorem keeps_coherent_ensureBuiltIns : Keeps Coherent ensureBuiltIns :=
  (keeps_coherent_ensureRole (by decide) (by decide)).bind fun _ =>
    keeps_coherent_ensureRole (by decide) (by decide)

theorem coherent_addRole (coherent : a.Coherent) (room : a.store.HasRoleRoom 0) (role : Role) :
    (after (addRole role) a).Coherent := by
  by_cases builtIn : role.isBuiltIn = true
  · rw [addRole, after, bind_of_error (by rw [refuseIf_run, if_pos builtIn])]
    exact coherent
  · rw [addRole, after, bind_of_ok (by rw [refuseIf_run, if_neg builtIn])]
    cases allowed : role.checkScopes with
    | error e =>
      rw [bind_of_error (ofExcept_run _)]
      exact coherent
    | ok _ =>
      rw [bind_of_ok (ofExcept_run _), ← after]
      exact coherent_after_putRole coherent room fun stored _ coherent _ =>
        coherent.forgettingRoles (id_mem_keys stored)

/-- A change of the store that leaves every role as it was. -/
theorem coherent_change {α : Type} (coherent : a.Coherent) (call : StoreCall)
    {c : AccountStore.Change α} (soundAfter : (after c a.store).Sound)
    (roles : ∀ id, (after c a.store).role id = a.store.role id) :
    (after (change call c) a).Coherent := by
  rw [after, change_eq]
  by_cases refused : a.refused.contains call = true
  · rw [if_pos refused]
    exact (Consults.called a call).coherent coherent
  · rw [if_neg refused]
    rw [after] at soundAfter roles
    cases run : c a.store with
    | ok v s =>
      rw [run] at soundAfter roles
      exact coherent.of_same soundAfter rfl roles
    | error e s =>
      rw [run] at soundAfter roles
      exact coherent.of_same soundAfter rfl roles

theorem keeps_coherent_forgetUsers (names : List String) : Keeps Coherent (forgetUsers names) :=
  fun _ coherent => coherent.of_same coherent.sound rfl fun _ => rfl

theorem keeps_coherent_followMove (move : Option (Path × Path)) :
    Keeps Coherent (followMove move) := by
  cases move with
  | none => exact .pure _
  | some places =>
    obtain ⟨old, new⟩ := places
    refine Keeps.bind (fun a coherent => ?_) fun names =>
      (keeps_coherent_forgetUsers names).bind fun _ => .pure _
    refine coherent_change coherent _ (keeps_sound_moveBasePaths old new _ coherent.sound) fun id => ?_
    rw [after, moveBasePaths_run coherent.sound.distinct]
    cases a.store.allUsers with
    | error e => rfl
    | ok users => exact role_followUsers a.store old new id

/-- What comes after a role was asked for can rely on the answer of the store. -/
theorem keeps_coherent_storedRole {α : Type} {id : RoleId} {f : Role → Accounting α}
    (next : ∀ role b, b.Coherent → b.store.role id = .ok role → (after (f role) b).Coherent) :
    Keeps Coherent (storedRole id >>= f) := by
  intro a coherent
  cases asked : storedRole id a with
  | error e b =>
    rw [after, bind_of_error asked]
    exact ((onlyLooksUp_ask _ _).of_error asked).coherent coherent
  | ok role b =>
    rw [after, bind_of_ok asked]
    obtain ⟨known, rfl⟩ := of_ask_ok asked
    exact next role _ ((Consults.called a .roleOfId).coherent coherent) known

/-- The id of the role to change comes from the store, so that it is no request for a new one. -/
theorem keeps_coherent_changeRole (requested : Role) : Keeps Coherent (changeRole requested) := by
  refine keeps_coherent_storedRole fun current b coherent known => ?_
  have own := (coherent.sound.distinct.of_role known).1
  have positive := coherent.sound.numbered.role_positive known
  have room := coherent.sound.numbered.hasRoleRoom known
  rw [← own] at positive room
  cases planned : current.planUpdate requested with
  | error e =>
    rw [after, bind_of_error (ofExcept_run _)]
    exact coherent
  | ok plan =>
    rw [← Role.id_of_planUpdate planned] at positive room
    have followed := ((keeps_coherent_followMove plan.move).and
      ((stable_hasRoleRoom positive).keeps_followMove plan.move)) b ⟨coherent, room⟩
    rw [after, bind_of_ok (ofExcept_run _)]
    cases run : followMove plan.move b with
    | error e c =>
      rw [bind_of_error run]
      exact (after_of_error run ▸ followed).1
    | ok names c =>
      rw [after_of_ok run] at followed
      rw [bind_of_ok run, ← after]
      refine coherent_after_putRole followed.1 followed.2 fun stored d rest same => ?_
      refine rest.forgettingRoles fun i stale => ?_
      rw [List.mem_singleton.mp stale, same positive]
      exact Role.id_mem_stale planned

/-- A role that is deleted makes stale what is kept under its id. -/
theorem coherent_eraseRole (coherent : a.Coherent) (id : RoleId) :
    match eraseRole id a with
    | .ok _ b => b.CoherentExcept [id]
    | .error _ b => b.Coherent := by
  rw [eraseRole, change_eq]
  by_cases refused : a.refused.contains .eraseRole = true
  · rw [if_pos refused]
    exact (Consults.called a .eraseRole).coherent coherent
  · rw [if_neg refused, AccountStore.eraseRole_run]
    by_cases held : a.store.holdsRole id.val = true
    · rw [if_pos held]
      refine ⟨coherent.sound.withoutRole id.val, fun {other role} differ present => ?_⟩
      have apart : other.val ≠ id.val :=
        fun same => differ (List.mem_singleton.mpr (congrArg RoleId.mk same))
      rw [store_called, role_withoutRole _ _ apart]
      exact coherent.kept List.not_mem_nil present
    · rw [if_neg held]
      exact (Consults.called a .eraseRole).coherent coherent

theorem keeps_coherent_removeRole (id : RoleId) : Keeps Coherent (removeRole id) := by
  refine keeps_coherent_storedRole fun role a coherent known => ?_
  have own : role.id = id := (coherent.sound.distinct.of_role known).1
  refine (onlyLooksUp_refuseIf _ _).keeps_coherent.bind (fun _ b coherent => ?_) _ coherent
  have erased := coherent_eraseRole coherent id
  cases run : eraseRole id b with
  | error e c =>
    rw [run] at erased
    rw [after, bind_of_error run]
    exact erased
  | ok _ c =>
    rw [run] at erased
    rw [after, bind_of_ok run]
    exact erased.forgettingRoles (own ▸ id_mem_keys role)

/-! ## Paths and users -/

/-- The roles that follow a path are stored anew, for which there is room. -/
theorem keeps_coherent_moveScopes (old new : Path) : Keeps Coherent (moveScopes old new) := by
  intro a coherent
  cases asked : allRoles a with
  | error e b =>
    rw [moveScopes, after, bind_of_error asked]
    exact ((onlyLooksUp_ask _ _).of_error asked).coherent coherent
  | ok roles b =>
    rw [moveScopes, after, bind_of_ok asked, ← after]
    obtain ⟨all, rfl⟩ := of_ask_ok asked
    have room : ∀ role ∈ scopeMoves roles old new,
        0 < role.id.val ∧ a.store.HasRoleRoom role.id.val := by
      intro role present
      obtain ⟨before, listed, rfl, -⟩ := mem_scopeMoves.mp present
      have found := (mem_allRoles coherent.sound.distinct all before).mp listed
      exact ⟨coherent.sound.numbered.role_positive found,
        coherent.sound.numbered.hasRoleRoom found⟩
    let P (a : Accounts) : Prop := a.Coherent ∧ ∀ role ∈ scopeMoves roles old new,
      0 < role.id.val ∧ a.store.HasRoleRoom role.id.val
    refine (Keeps.mapM (P := P) (fun role present => ?_) (a.called .roleList a.store)
      ⟨(Consults.called a .roleList).coherent coherent, room⟩).1
    rintro b ⟨coherent, room⟩
    refine ⟨coherent_after_putRole coherent (room role present).2 fun stored c coherent _ =>
      coherent.forgettingRoles (id_mem_keys stored), fun other among => ?_⟩
    obtain ⟨positive, before⟩ := room other among
    refine ⟨positive, ?_⟩
    exact (keeps_store_change _ ((stable_hasRoleRoom positive).putRole role)).bind
      (fun _ => (keeps_store_forgetRoles _).bind fun _ => .pure _) b before

theorem keeps_coherent_movePath (old new : Path) : Keeps Coherent (movePath old new) :=
  (keeps_coherent_moveScopes old new).bind fun _ =>
    (keeps_coherent_followMove _).bind fun _ => .pure _

theorem role_after_putUser (s : AccountStore) (user : User) (id : RoleId) :
    (after (AccountStore.putUser user) s).role id = s.role id := by
  obtain refused | ⟨-, stored⟩ := s.after_putUser user
  · rw [refused, role_withoutNewUser]
  · rw [stored, role_withUser]

theorem coherent_putUser (coherent : a.Coherent) (user : User)
    (room : a.store.HasUserRoom user.id.val) (names : User → List String) :
    (after (do
      let stored ← putUser user
      forgetUsers (names stored)
      return stored) a).Coherent := by
  have stored := coherent_change coherent .putUser (coherent.sound.after_putUser room)
    (role_after_putUser a.store user)
  change (after (putUser user) a).Coherent at stored
  cases run : putUser user a with
  | error e b =>
    rw [after_of_error run] at stored
    rwa [after, bind_of_error run]
  | ok known b =>
    rw [after_of_ok run] at stored
    rw [after, bind_of_ok run, ← after]
    exact (keeps_coherent_forgetUsers _).bind (fun _ => .pure _) b stored

/-- The id of the user to change comes from the store, so that it is no request for a new one. -/
theorem keeps_coherent_changeUser (requested : User) : Keeps Coherent (changeUser requested) := by
  intro a coherent
  cases asked : storedUser requested.id a with
  | error e b =>
    rw [changeUser, after, bind_of_error asked]
    exact ((onlyLooksUp_ask _ _).of_error asked).coherent coherent
  | ok current b =>
    rw [changeUser, after, bind_of_ok asked, ← after]
    obtain ⟨known, rfl⟩ := of_ask_ok asked
    let P (a : Accounts) : Prop :=
      a.Coherent ∧ OfStore (fun s => s.HasUserRoom requested.id.val) a
    have positive := coherent.sound.numbered.user_positive known
    have room := coherent.sound.numbered.hasUserRoom known
    have loads : Keeps P
        (requested.roleIds.forM fun id => discard (attempt (role (.id id))) : Accounting Unit) := by
      rintro a ⟨coherent, room⟩
      obtain ⟨b, run, consults⟩ :=
        forM_attempt_run (fun id : RoleId => onlyLooksUp_role (.id id)) requested.roleIds a
      rw [after_of_ok run]
      exact ⟨consults.coherent coherent, ofStore_of_consults consults room⟩
    have checks := onlyLooksUp_checkAdmin current requested
    have stores : Keeps P (do
        let stored ← putUser requested.normalize
        forgetUsers [current.username, stored.username]
        return stored) := by
      rintro a ⟨coherent, room⟩
      exact ⟨coherent_putUser coherent requested.normalize room _,
        (stable_hasUserRoom positive).keeps_putUser requested.normalize _ a room⟩
    have checked : Keeps P (checkAdmin current requested) :=
      checks.keeps_coherent.and checks.keeps_store
    exact (checked.bind (fun _ => loads.bind fun _ => stores) (a.called .userOfId a.store)
      ⟨(Consults.called a .userOfId).coherent coherent, room⟩).1

/-- A change for which there is room leaves what is kept current. -/
theorem coherent_run (coherent : a.Coherent) {change : AccountChange}
    (room : change.HasRoom a.store) : (after change.run a).Coherent := by
  cases change with
  | addRole role =>
    rw [AccountChange.run, after_discard]
    exact coherent_addRole coherent room role
  | changeRole requested => exact (keeps_coherent_changeRole requested).discard a coherent
  | removeRole id => exact keeps_coherent_removeRole id a coherent
  | moveScopes old new => exact (keeps_coherent_moveScopes old new).discard a coherent
  | movePath old new => exact (keeps_coherent_movePath old new).discard a coherent
  | addUser user _ =>
    rw [AccountChange.run, after_discard]
    exact coherent_putUser coherent user.normalize room fun stored => [stored.username]
  | changeUser requested => exact (keeps_coherent_changeUser requested).discard a coherent

end Accounting

namespace Accounting

open Accounts

theorem coherent_request {a : Accounts} (coherent : a.Coherent) {request : AccountRequest}
    (room : request.HasRoom a.store) : (after request.run a).Coherent := by
  cases request with
  | change c => exact coherent_run coherent room
  | ensureBuiltIns => exact keeps_coherent_ensureBuiltIns a coherent
  | role key => exact (onlyLooksUp_role key).keeps_coherent.discard a coherent
  | user name => exact (onlyLooksUp_user name).keeps_coherent.discard a coherent
  | clearance u => exact (onlyLooksUp_clearance u).keeps_coherent.discard a coherent
  | rolesOf id => exact (onlyLooksUp_ask _ _).keeps_coherent.discard a coherent
  | forgetAll => exact ⟨coherent.sound, fun _ present => by contradiction⟩

end Accounting

/-- Every registry that is reached before a count of numbers comes round keeps current roles under
ids. -/
theorem Accounts.ReachedInRange.coherent {a : Accounts} (inRange : a.ReachedInRange) :
    a.Coherent := by
  induction inRange with
  | new _ _ store => exact ⟨store.sound, fun _ present => by contradiction⟩
  | run _ _ room ih => exact Accounting.coherent_request ih room
  | refuse call on _ ih => exact ih.of_same ih.sound rfl fun _ => rfl

namespace Accounting

variable {a : Accounts}

/-- While the store can be reached, a role is told as it is stored. -/
theorem attempt_role_run (coherent : a.Coherent) (served : a.refused = []) (id : RoleId) :
    ∃ b, attempt (role (.id id)) a = .ok (a.store.role id).toOption b ∧ a.Consults b := by
  have run := attempt_run (role (.id id)) a
  have consults := onlyLooksUp_attempt (onlyLooksUp_role (.id id))
  rw [role_eq] at run
  cases kept : a.roles.get? (.id id) with
  | some known =>
    rw [kept] at run
    refine ⟨_, ?_, consults.of_ok run⟩
    rw [run, coherent.kept List.not_mem_nil kept]
    rfl
  | none =>
    have asked := ask_run served .roleOfId (·.role id)
    change stored (.id id) a = _ at asked
    rw [kept, asked] at run
    cases told : a.store.role id with
    | ok known =>
      rw [told] at run
      exact ⟨_, run, consults.of_ok run⟩
    | error e =>
      rw [told] at run
      exact ⟨_, run, consults.of_ok run⟩

/-- While the store can be reached, the roles of a user grant what their stored roles grant. -/
theorem clearance_of_coherent (coherent : a.Coherent) (served : a.refused = []) (u : User) :
    ∃ b, clearance u a = .ok (a.store.granted u) b ∧ a.Consults b := by
  have roles : ∀ (ids : List RoleId) (a : Accounts), a.Coherent → a.refused = [] →
      ∃ b, (ids.mapM fun id => attempt (role (.id id))) a =
          .ok (ids.map fun id => (a.store.role id).toOption) b := by
    intro ids
    induction ids with
    | nil => exact fun a _ _ => ⟨a, rfl⟩
    | cons id rest ih =>
      intro a coherent served
      obtain ⟨b, first, consults⟩ := attempt_role_run coherent served id
      obtain ⟨c, others⟩ := ih b (consults.coherent coherent) (consults.refused.trans served)
      rw [consults.store] at others
      refine ⟨c, ?_⟩
      rw [List.mapM_cons, bind_of_ok first, bind_of_ok others]
      rfl
  obtain ⟨b, run⟩ := roles u.roleIds a coherent served
  have told : clearance u a = .ok (a.store.granted u) b := by
    rw [clearance, bind_of_ok run]
    change EStateM.Result.ok _ _ = _
    rw [List.filterMap_map]
    rfl
  exact ⟨b, told, (onlyLooksUp_clearance u).of_ok told⟩

end Accounting

end StorageGateway
