import StorageGateway.Proofs.Account.Steps
import StorageGateway.Proofs.Account.StoreRuns
import StorageGateway.Proofs.Path.Joining

/-!
# Stored paths are clean

Whoever stores a role or a user cleans its paths, and the paths that follow another are written
anew. So no store that started empty holds a path that cleaning would change, whatever it was asked
for. A scope whose path would mean something else once it is clean is refused; any other keeps the
segments that its path names. Main statement: `stored_paths_clean`.
-/

namespace StorageGateway

/-! ## Clean paths -/

theorem IsCleanPath.followed {text : String} (clean : IsCleanPath text) (old new : Path) :
    IsCleanPath (followedText text old new) := by
  rw [followedText]
  split
  · split
    · exact clean
    · exact isCleanPath_text _
  · exact clean

/-- The paths of all scopes are clean. -/
def Role.IsClean (r : Role) : Prop := ∀ x ∈ r.scopes, IsCleanPath x.path

namespace Role

theorem isClean_normalize (r : Role) : r.normalize.IsClean := by
  intro x normalized
  obtain ⟨asked, -, rfl⟩ := List.mem_map.mp normalized
  exact isCleanPath_text _

theorem Preset.isClean {builtIn : Role} (preset : builtIn.Preset) : builtIn.IsClean := by
  rcases preset with rfl | rfl <;> (rw [IsClean]; decide)

theorem IsClean.follow {r : Role} (clean : r.IsClean) (old new : Path) :
    (r.follow old new).IsClean := by
  intro x followed
  obtain ⟨before, held, rfl⟩ := List.mem_map.mp followed
  rw [Scope.follow]
  split
  · exact isCleanPath_text _
  · exact clean before held

end Role

/-! ## Stores of clean paths -/

namespace AccountStore

/-- What is read of the scopes of the role of a number. -/
def readScopes (s : AccountStore) (n : Nat) : Option (Option (List Scope)) :=
  match s with
  | records s => (s.roles.get? n).map fun role => some role.scopes
  | rows s => (s.roles.get? n).map fun row => scopesOfText? row.scopes

/-- The base path of the user of a number. -/
def basePath? (s : AccountStore) (n : Nat) : Option String :=
  match s with
  | records s => (s.users.get? n).map User.basePath
  | rows s => (s.users.get? n).map UserColumns.basePath

/-- The scopes of every stored role can be read, and their paths are clean; and so are the base paths
of all stored users. -/
structure PathsClean (s : AccountStore) : Prop where
  scopes : ∀ n read, s.readScopes n = some read →
    ∃ scopes, read = some scopes ∧ ∀ x ∈ scopes, IsCleanPath x.path
  basePath : ∀ n text, s.basePath? n = some text → IsCleanPath text

section Views

variable (s : AccountStore) (m n : Nat) (role : Role) (user : User)

theorem readScopes_withRole :
    (s.withRole m role).readScopes n =
      if n = m then some (some role.scopes) else s.readScopes n := by
  cases s with
  | records s =>
    simp only [withRole, readScopes, RecordStore.withRole, Roster.get?_put, Roster.get?_takeId]
    split <;> rfl
  | rows s =>
    simp only [withRole, readScopes, RowStore.withRole, Roster.get?_put, Roster.get?_take]
    split
    · rw [Option.map_some, RoleColumns.ofRole, scopesOfText?_scopesText]
    · rfl

theorem readScopes_withoutRole :
    (s.withoutRole m).readScopes n = if n = m then none else s.readScopes n := by
  cases s <;> simp only [withoutRole, readScopes, Roster.get?_erase] <;> split <;> rfl

@[simp] theorem readScopes_withoutNewRole :
    (s.withoutNewRole m).readScopes n = s.readScopes n := by
  cases s <;> rfl

@[simp] theorem readScopes_withoutNewUser :
    (s.withoutNewUser m).readScopes n = s.readScopes n := by
  cases s <;> rfl

@[simp] theorem readScopes_withUser : (s.withUser m user).readScopes n = s.readScopes n := by
  cases s <;> rfl

@[simp] theorem readScopes_followUsers (old new : Path) :
    (s.followUsers old new).readScopes n = s.readScopes n := by
  cases s <;> rfl

theorem basePath?_withUser :
    (s.withUser m user).basePath? n = if n = m then some user.basePath else s.basePath? n := by
  cases s with
  | records s =>
    simp only [withUser, basePath?, RecordStore.withUser, Roster.get?_put, Roster.get?_takeId]
    split <;> rfl
  | rows s =>
    simp only [withUser, basePath?, RowStore.withUser, Roster.get?_put, Roster.get?_take]
    split <;> rfl

theorem basePath?_followUsers (old new : Path) :
    (s.followUsers old new).basePath? n = (s.basePath? n).map (followedText · old new) := by
  cases s with
  | records s =>
    simp only [followUsers, basePath?, RecordStore.followUsers, Roster.get?_mapRecords,
      Option.map_map]
    rfl
  | rows s =>
    simp only [followUsers, basePath?, RowStore.followUsers, Roster.get?_mapRecords, Option.map_map]
    rfl

@[simp] theorem basePath?_withRole : (s.withRole m role).basePath? n = s.basePath? n := by
  cases s <;> rfl

@[simp] theorem basePath?_withoutRole : (s.withoutRole m).basePath? n = s.basePath? n := by
  cases s <;> rfl

@[simp] theorem basePath?_withoutNewRole : (s.withoutNewRole m).basePath? n = s.basePath? n := by
  cases s <;> rfl

@[simp] theorem basePath?_withoutNewUser : (s.withoutNewUser m).basePath? n = s.basePath? n := by
  cases s <;> rfl

end Views

namespace PathsClean

variable {s t : AccountStore}

theorem of_empty (empty : s = .records .empty ∨ s = .rows .empty) : s.PathsClean := by
  rcases empty with rfl | rfl <;> exact ⟨nofun, nofun⟩

/-- What is stored was there before or is clean. -/
theorem of_views (clean : s.PathsClean)
    (scopes : ∀ n read, t.readScopes n = some read → s.readScopes n = some read ∨
      ∃ scopes, read = some scopes ∧ ∀ x ∈ scopes, IsCleanPath x.path)
    (basePath : ∀ n text, t.basePath? n = some text →
      s.basePath? n = some text ∨ IsCleanPath text) : t.PathsClean where
  scopes n read found := (scopes n read found).elim (clean.scopes n read) id
  basePath n text found := (basePath n text found).elim (clean.basePath n text) id

/-- A role that can be read has the scopes that are read under its number. -/
theorem of_role (clean : s.PathsClean) {id : RoleId} {role : Role} (found : s.role id = .ok role) :
    role.IsClean := by
  have read : s.readScopes id.val = some (some role.scopes) := by
    cases s with
    | records s => rw [readScopes, RecordStore.role_eq_ok_iff.mp found, Option.map_some]
    | rows s =>
      obtain ⟨row, present, reads⟩ := RowStore.role_eq_ok_iff.mp found
      obtain ⟨-, -, -, -, readable⟩ := RoleColumns.role_eq_ok_iff.mp reads
      rw [readScopes, present, Option.map_some, readable]
  obtain ⟨scopes, same, all⟩ := clean.scopes _ _ read
  cases same
  exact all

/-- The paths that a request asks to store are clean. -/
def Stores : StoreRequest → Prop
  | .putRole role => role.IsClean
  | .putUser user => IsCleanPath user.basePath
  | _ => True

/-- A store that is asked to store clean paths alone keeps to them. -/
theorem step (clean : s.PathsClean) {request : StoreRequest} (step : StoreStep s request t)
    (stores : Stores request) : t.PathsClean := by
  cases step with
  | stay => exact clean
  | refuseRole _ =>
    exact clean.of_views (fun n read found => .inl (by simpa using found))
      fun n text found => .inl (by simpa using found)
  | @storeRole role _ =>
    refine clean.of_views (fun n read found => ?_) fun n text found => .inl (by simpa using found)
    rw [readScopes_withRole] at found
    split at found
    · cases found
      exact .inr ⟨role.scopes, rfl, stores⟩
    · exact .inl found
  | eraseRole id =>
    refine clean.of_views (fun n read found => ?_) fun n text found => .inl (by simpa using found)
    rw [readScopes_withoutRole] at found
    split at found
    · contradiction
    · exact .inl found
  | refuseUser _ =>
    exact clean.of_views (fun n read found => .inl (by simpa using found))
      fun n text found => .inl (by simpa using found)
  | storeUser _ =>
    refine clean.of_views (fun n read found => .inl (by simpa using found)) fun n text found => ?_
    rw [basePath?_withUser] at found
    split at found
    · cases found
      exact .inr stores
    · exact .inl found
  | followUsers old new =>
    refine clean.of_views (fun n read found => .inl (by simpa using found)) fun n text found => ?_
    rw [basePath?_followUsers] at found
    obtain ⟨before, held, rfl⟩ := Option.map_eq_some_iff.mp found
    exact .inr ((clean.basePath n before held).followed old new)

end PathsClean

end AccountStore

/-! ## Requests -/

namespace Accounts

/-- The store of the registry has distinct names and holds clean paths alone. -/
structure Clean (a : Accounts) : Prop where
  distinct : a.store.Distinct
  paths : a.store.PathsClean

theorem Clean.consults {a b : Accounts} (clean : a.Clean) (consults : a.Consults b) : b.Clean :=
  ⟨consults.store ▸ clean.distinct, consults.store ▸ clean.paths⟩

end Accounts

namespace Accounting

open Accounts AccountStore

variable {a b : Accounts}

theorem OnlyLooksUp.keeps_clean {α : Type} {x : Accounting α} (h : OnlyLooksUp x) :
    Keeps Clean x := by
  intro a clean
  rw [after]
  cases run : x a with
  | ok v b => exact clean.consults (h.of_ok run)
  | error e b => exact clean.consults (h.of_error run)

theorem keeps_clean_ofExcept {α : Type} (answer : Except AccountError α) :
    Keeps Clean (MonadExcept.ofExcept answer : Accounting α) := by
  cases answer
  · exact .throw _
  · exact .pure _

/-- A call that is a step of the store, and asks to store clean paths alone. -/
theorem keeps_clean_change {α : Type} (call : StoreCall) {c : AccountStore.Change α}
    (request : StoreRequest) (stores : PathsClean.Stores request)
    (step : ∀ s, s.Distinct → StoreStep s request (after c s)) : Keeps Clean (change call c) := by
  intro a clean
  have next := step a.store clean.distinct
  have kept : (after c a.store).Distinct ∧ (after c a.store).PathsClean :=
    ⟨next.distinct clean.distinct, clean.paths.step next stores⟩
  rw [after, change_eq]
  by_cases refused : a.refused.contains call = true
  · rw [if_pos refused]
    exact clean.consults (.called a call)
  · rw [if_neg refused]
    cases run : c a.store with
    | ok v s =>
      rw [after_of_ok run] at kept
      exact ⟨kept.1, kept.2⟩
    | error e s =>
      rw [after_of_error run] at kept
      exact ⟨kept.1, kept.2⟩

theorem keeps_clean_putRole {role : Role} (clean : role.IsClean) : Keeps Clean (putRole role) :=
  keeps_clean_change .putRole (.putRole role) clean fun s _ => .of_putRole s role

theorem keeps_clean_putUser (user : User) : Keeps Clean (putUser user.normalize) :=
  keeps_clean_change .putUser (.putUser user.normalize) (isCleanPath_text _)
    fun s _ => .of_putUser s user.normalize

theorem keeps_clean_forgetRoles (keys : List RoleRef) : Keeps Clean (forgetRoles keys) :=
  fun _ clean => ⟨clean.distinct, clean.paths⟩

theorem keeps_clean_forgetUsers (names : List String) : Keeps Clean (forgetUsers names) :=
  fun _ clean => ⟨clean.distinct, clean.paths⟩

theorem keeps_clean_ensureRole {builtIn : Role} (preset : builtIn.Preset) :
    Keeps Clean (ensureRole builtIn) := by
  refine Keeps.bind (Keeps.rescue ?_ fun e => ?_) fun missing => ?_
  · exact (onlyLooksUp_ask _ _).keeps_clean.discard.bind fun _ => .pure _
  · cases e with
    | roleNotFound key => exact .pure _
    | _ => exact .throw _
  · cases missing
    · exact .pure _
    · exact (keeps_clean_putRole preset.isClean).bind fun _ => keeps_clean_forgetRoles _

theorem keeps_clean_ensureBuiltIns : Keeps Clean ensureBuiltIns :=
  (keeps_clean_ensureRole (.inl rfl)).bind fun _ => keeps_clean_ensureRole (.inr rfl)

theorem keeps_clean_addRole (role : Role) : Keeps Clean (addRole role) := by
  have cleaned : Role.IsClean { role.normalize with id := ⟨0⟩ } := role.isClean_normalize
  exact (onlyLooksUp_refuseIf _ _).keeps_clean.bind fun _ => (keeps_clean_ofExcept _).bind fun _ =>
    (keeps_clean_putRole cleaned).bind fun _ => (keeps_clean_forgetRoles _).bind fun _ => .pure _

/-- The base paths that follow a scope are written anew. -/
theorem keeps_clean_followMove (move : Option (Path × Path)) : Keeps Clean (followMove move) := by
  cases move with
  | none => exact .pure _
  | some places =>
    obtain ⟨old, new⟩ := places
    have moves : Keeps Clean (moveBasePaths old new) :=
      keeps_clean_change .moveBasePaths (.moveBasePaths old new) trivial
        fun s distinct => .of_moveBasePaths distinct old new
    exact moves.bind fun names => (keeps_clean_forgetUsers names).bind fun _ => .pure _

theorem keeps_clean_changeRole (requested : Role) : Keeps Clean (changeRole requested) := by
  refine (onlyLooksUp_ask _ _).keeps_clean.bind fun current => ?_
  refine (keeps_clean_ofExcept _).bind_of (Q := fun plan => plan.role.IsClean) ?_
    fun plan clean => ?_
  · intro a plan b _ planned
    rw [ofExcept_run] at planned
    cases known : current.planUpdate requested with
    | error e =>
      rw [known] at planned
      contradiction
    | ok plan =>
      rw [known] at planned
      cases planned
      rw [Role.role_of_planUpdate known]
      exact Role.isClean_normalize _
  · exact (keeps_clean_followMove plan.move).bind fun names => (keeps_clean_putRole clean).bind
      fun _ => (keeps_clean_forgetRoles _).bind fun _ => .pure _

theorem keeps_clean_removeRole (id : RoleId) : Keeps Clean (removeRole id) := by
  have erases : Keeps Clean (eraseRole id) :=
    keeps_clean_change .eraseRole (.eraseRole id) trivial fun s _ => .of_eraseRole s id
  exact (onlyLooksUp_ask _ _).keeps_clean.bind fun role =>
    (onlyLooksUp_refuseIf _ _).keeps_clean.bind fun _ =>
      erases.bind fun _ => keeps_clean_forgetRoles _

/-- The roles that follow a path come from the store, where their other scopes are clean. -/
theorem keeps_clean_moveScopes (old new : Path) : Keeps Clean (moveScopes old new) := by
  refine (onlyLooksUp_ask _ _).keeps_clean.bind_of (Q := fun roles => ∀ r ∈ roles, r.IsClean) ?_
    fun roles clean => Keeps.mapM fun moved present => ?_
  · intro a roles b clean asked role listed
    obtain ⟨all, -⟩ := of_ask_ok asked
    exact clean.paths.of_role ((mem_allRoles clean.distinct all role).mp listed)
  · obtain ⟨before, held, rfl, -⟩ := mem_scopeMoves.mp present
    exact (keeps_clean_putRole ((clean before held).follow old new)).bind
      fun _ => (keeps_clean_forgetRoles _).bind fun _ => .pure _

theorem keeps_clean_movePath (old new : Path) : Keeps Clean (movePath old new) :=
  (keeps_clean_moveScopes old new).bind fun _ => (keeps_clean_followMove _).bind fun _ => .pure _

theorem keeps_clean_addUser (user : User) : Keeps Clean (addUser user) :=
  (keeps_clean_putUser user).bind fun _ => (keeps_clean_forgetUsers _).bind fun _ => .pure _

theorem keeps_clean_changeUser (requested : User) : Keeps Clean (changeUser requested) := by
  have loads : Keeps Clean
      (requested.roleIds.forM fun id => discard (attempt (role (.id id))) : Accounting Unit) := by
    intro a clean
    obtain ⟨b, run, consults⟩ :=
      forM_attempt_run (fun id : RoleId => onlyLooksUp_role (.id id)) requested.roleIds a
    rw [after_of_ok run]
    exact clean.consults consults
  exact (onlyLooksUp_ask _ _).keeps_clean.bind fun current =>
    (onlyLooksUp_checkAdmin current requested).keeps_clean.bind fun _ =>
      loads.bind fun _ => (keeps_clean_putUser requested).bind fun _ =>
        (keeps_clean_forgetUsers _).bind fun _ => .pure _

/-- Every request keeps to clean paths, also while calls of the store are refused. -/
theorem keeps_clean_request (request : AccountRequest) : Keeps Clean request.run := by
  cases request with
  | change c =>
    cases c with
    | addRole role => exact (keeps_clean_addRole role).discard
    | changeRole requested => exact (keeps_clean_changeRole requested).discard
    | removeRole id => exact keeps_clean_removeRole id
    | moveScopes old new => exact (keeps_clean_moveScopes old new).discard
    | movePath old new => exact (keeps_clean_movePath old new).discard
    | addUser user _ => exact (keeps_clean_addUser user).discard
    | changeUser requested => exact (keeps_clean_changeUser requested).discard
  | ensureBuiltIns => exact keeps_clean_ensureBuiltIns
  | role key => exact (onlyLooksUp_role key).keeps_clean.discard
  | user name => exact (onlyLooksUp_user name).keeps_clean.discard
  | clearance u => exact (onlyLooksUp_clearance u).keeps_clean.discard
  | rolesOf id => exact (onlyLooksUp_ask _ _).keeps_clean.discard
  | forgetAll => exact fun _ clean => ⟨clean.distinct, clean.paths⟩

end Accounting

/-! ## Scopes that are accepted -/

namespace Scope

/-- The path of the scope would mean something else once it is clean: `..` stands in it, or it holds
a NUL character. -/
def ChangesMeaning (x : Scope) : Prop := StandsIn ".." x.path ∨ '\x00' ∈ x.path.toList

theorem isSound_eq_false_iff {x : Scope} : x.isSound = false ↔ x.ChangesMeaning := by
  rw [isSound, Bool.and_eq_false_iff, or_comm, ChangesMeaning, ← mem_pieces_iff]
  simp

/-- A scope is stored as it was asked for, its path reduced to the segments that it names. -/
structure StoredAs (asked stored : Scope) : Prop where
  permission : stored.permission = asked.permission
  segments : (Path.ofText stored.path).segments = Path.named asked.path
  clean : IsCleanPath stored.path

theorem storedAs_normalize {x : Scope} (sound : x.isSound = true) : x.StoredAs x.normalize where
  permission := rfl
  segments := by
    have stays : ".." ∉ pieces x.path := by
      rw [isSound, Bool.and_eq_true] at sound
      simpa using sound.2
    rw [normalize, Path.ofText_text]
    exact Path.segments_join stays .root
  clean := isCleanPath_text _

end Scope

namespace Role

/-- A role is refused for the first of its scopes that would change their meaning. -/
theorem checkScopes_eq_error {r : Role} (changes : ∃ x ∈ r.scopes, x.ChangesMeaning) :
    ∃ x ∈ r.scopes, x.ChangesMeaning ∧ r.checkScopes = .error (.invalidScope x.path) := by
  obtain ⟨y, held, changes⟩ := changes
  have unsound : (!y.isSound) = true := by rw [Scope.isSound_eq_false_iff.mpr changes]; rfl
  have some : (r.scopes.find? fun x => !x.isSound).isSome = true :=
    List.find?_isSome.mpr ⟨y, held, unsound⟩
  obtain ⟨x, found⟩ := Option.isSome_iff_exists.mp some
  refine ⟨x, List.mem_of_find?_eq_some found, Scope.isSound_eq_false_iff.mp ?_, ?_⟩
  · simpa using List.find?_some found
  · rw [checkScopes, found]

theorem storedAs_of_checkScopes {r : Role} (checked : r.checkScopes = .ok ()) :
    List.Forall₂ Scope.StoredAs r.scopes r.normalize.scopes := by
  rw [normalize, List.forall₂_map_right_iff, List.forall₂_same]
  intro x held
  rw [checkScopes] at checked
  split at checked
  · contradiction
  · next none =>
    have sound := List.find?_eq_none.mp none x held
    exact Scope.storedAs_normalize (by simpa using sound)

theorem planUpdate_of_checkScopes {current requested : Role} {e : AccountError}
    (allowed : current.checkRename requested = .ok ()) (refused : requested.checkScopes = .error e) :
    current.planUpdate requested = .error e := by
  rw [planUpdate, allowed, refused]
  rfl

theorem checkScopes_of_planUpdate {current requested : Role} {plan : RoleUpdate}
    (planned : current.planUpdate requested = .ok plan) : requested.checkScopes = .ok () := by
  cases checked : requested.checkScopes with
  | ok _ => rfl
  | error e =>
    cases allowed : current.checkRename requested with
    | error e => rw [planUpdate_of_checkRename allowed] at planned; contradiction
    | ok _ => rw [planUpdate_of_checkScopes allowed checked] at planned; contradiction

end Role

namespace Accounting

open Accounts AccountStore

variable {a b : Accounts} {role stored : Role}

/-- A role is refused for the path of a scope unless it is refused before: a new one for the name of
a built-in role, an update if the stored role cannot be told or may not be updated so. -/
structure RefusedFor (x : Scope) (role : Role) (a : Accounts) : Prop where
  new : addRole role a = .error (if role.isBuiltIn then .protectedRole (.builtIn role.name)
    else .invalidScope x.path) a
  update : match storedRole role.id a with
    | .error e b => a.Consults b ∧ changeRole role a = .error e b
    | .ok current b => a.Consults b ∧ changeRole role a =
        .error (match current.checkRename role with
          | .error e => e
          | .ok () => .invalidScope x.path) b

theorem refusedFor_of_checkScopes {x : Scope}
    (refused : role.checkScopes = .error (.invalidScope x.path)) (a : Accounts) :
    RefusedFor x role a where
  new := by
    rw [addRole]
    cases builtIn : role.isBuiltIn with
    | true => exact bind_of_error (refuseIf_run true _)
    | false =>
      rw [bind_of_ok (refuseIf_run false _), refused]
      exact bind_of_error (ofExcept_run _)
  update := by
    cases asked : storedRole role.id a with
    | error e b => exact ⟨(onlyLooksUp_ask _ _).of_error asked, bind_of_error asked⟩
    | ok current b =>
      refine ⟨(onlyLooksUp_ask _ _).of_ok asked, ?_⟩
      rw [changeRole, bind_of_ok asked]
      cases allowed : current.checkRename role with
      | error e =>
        rw [Role.planUpdate_of_checkRename allowed]
        exact bind_of_error (ofExcept_run _)
      | ok _ =>
        rw [Role.planUpdate_of_checkScopes allowed refused]
        exact bind_of_error (ofExcept_run _)

/-- A role is stored under the id that the call answers with. -/
theorem of_putRole_ok (run : putRole role a = .ok stored b) :
    b.store.role stored.id = .ok stored ∧ stored.scopes = role.scopes := by
  rw [putRole, change_eq] at run
  split at run
  · contradiction
  · cases asked : AccountStore.putRole role a.store with
    | error e t =>
      rw [asked] at run
      contradiction
    | ok answer t =>
      obtain ⟨-, told, rfl, rfl⟩ := AccountStore.putRole_eq_ok_iff.mp asked
      rw [asked] at run
      cases run
      refine ⟨?_, rfl⟩
      rw [store_called, role_withRole, if_pos rfl, if_pos told]

/-- A role that was accepted is stored with the scopes that were asked for. -/
structure Accepted (asked stored : Role) (b : Accounts) : Prop where
  role : b.store.role stored.id = .ok stored
  scopes : List.Forall₂ Scope.StoredAs asked.scopes stored.scopes

theorem of_ofExcept_ok {α : Type} {answer : Except AccountError α} {v : α}
    (run : (MonadExcept.ofExcept answer : Accounting α) a = .ok v b) : answer = .ok v ∧ b = a := by
  rw [ofExcept_run] at run
  cases answer with
  | error e => contradiction
  | ok w =>
    cases run
    exact ⟨rfl, rfl⟩

theorem accepted_of_addRole (run : addRole role a = .ok stored b) : Accepted role stored b := by
  rw [addRole] at run
  obtain ⟨_, a₁, -, run⟩ := of_bind_ok run
  obtain ⟨_, a₂, checked, run⟩ := of_bind_ok run
  obtain ⟨r, a₃, put, run⟩ := of_bind_ok run
  obtain ⟨held, scopes⟩ := of_putRole_ok put
  cases run
  exact ⟨held, scopes ▸ Role.storedAs_of_checkScopes (of_ofExcept_ok checked).1⟩

theorem accepted_of_changeRole {names : List String}
    (run : changeRole role a = .ok (stored, names) b) : Accepted role stored b := by
  rw [changeRole] at run
  obtain ⟨current, a₁, -, run⟩ := of_bind_ok run
  obtain ⟨plan, a₂, checked, run⟩ := of_bind_ok run
  obtain ⟨_, a₃, -, run⟩ := of_bind_ok run
  obtain ⟨r, a₄, put, run⟩ := of_bind_ok run
  obtain ⟨held, scopes⟩ := of_putRole_ok put
  have planned := (of_ofExcept_ok checked).1
  rw [Role.role_of_planUpdate planned] at scopes
  cases run
  exact ⟨held, scopes ▸ Role.storedAs_of_checkScopes (Role.checkScopes_of_planUpdate planned)⟩

/-- A registry whose store started empty holds clean paths alone, whatever it was asked for. A role
with a scope whose path would mean something else once it is clean is refused; of any other that is
accepted, the scopes are stored with the segments that their paths name. -/
theorem stored_paths_clean (a : Accounts) :
    (a.store = .records .empty ∨ a.store = .rows .empty →
        ∀ requests, (a.serve requests).store.PathsClean) ∧
      ∀ role : Role,
        ((∃ x ∈ role.scopes, x.ChangesMeaning) →
          ∃ x ∈ role.scopes, x.ChangesMeaning ∧ RefusedFor x role a) ∧
        (∀ stored b, addRole role a = .ok stored b → Accepted role stored b) ∧
        ∀ stored names b, changeRole role a = .ok (stored, names) b → Accepted role stored b := by
  refine ⟨fun empty requests => ?_, fun role => ⟨fun changes => ?_, ?_, ?_⟩⟩
  · have clean : a.Clean := by
      refine ⟨?_, .of_empty empty⟩
      rcases empty with same | same <;> rw [same]
      · exact RecordStore.distinct_empty
      · exact RowStore.distinct_empty
    exact (List.foldlRecOn requests _ clean fun a clean request _ =>
      keeps_clean_request request a clean).paths
  · obtain ⟨x, held, changes, refused⟩ := Role.checkScopes_eq_error changes
    exact ⟨x, held, changes, refusedFor_of_checkScopes refused a⟩
  · exact fun stored b => accepted_of_addRole
  · exact fun stored names b => accepted_of_changeRole

/-- A role whose scopes are entered carelessly. -/
def careless : Role := ⟨⟨0⟩, "team", "", [⟨"team//./docs/", .none⟩, ⟨"\x5cteam", .none⟩]⟩

/-- It is stored with a user, and then both follow their path. -/
def carelessRequests : List AccountRequest :=
  [.ensureBuiltIns, .change (.addRole careless),
    .change (.addUser ⟨⟨0⟩, "bob", "/team/../team/bob", [⟨3⟩], false, 0⟩ (by decide)),
    .change (.movePath (.ofText "/team") (.ofText "/crew"))]

/-- A role with a scope that goes up. -/
def climbing : Role := ⟨⟨0⟩, "up", "", [⟨"/a/../b", .none⟩]⟩

theorem stored_paths_clean_careless :
    ((Accounts.new (.rows .empty) 60 60).serve carelessRequests).store.PathsClean ∧
      (∃ x ∈ climbing.scopes, x.ChangesMeaning ∧
        RefusedFor x climbing (.new (.rows .empty) 60 60)) ∧
      ∃ stored b, addRole careless (.new (.rows .empty) 60 60) = .ok stored b ∧
        Accepted careless stored b := by
  obtain ⟨kept, checked⟩ := stored_paths_clean (.new (.rows .empty) 60 60)
  have climbs : ∃ x ∈ climbing.scopes, x.ChangesMeaning :=
    ⟨_, List.mem_singleton_self _, .inl (mem_pieces_iff.mp (by decide))⟩
  have added : ∃ stored b, addRole careless (.new (.rows .empty) 60 60) = .ok stored b :=
    ⟨_, _, rfl⟩
  obtain ⟨stored, b, run⟩ := added
  exact ⟨kept (.inr rfl) carelessRequests, (checked climbing).1 climbs, stored, b, run,
    (checked careless).2.1 stored b run⟩

end Accounting

end StorageGateway
