import Mathlib.Logic.Relation
import StorageGateway.Proofs.Account.Coherence
import StorageGateway.Proofs.Account.Names

/-!
# How accounts go on

While no call of the store is refused and no count of numbers comes round, a request moves the
accounts on in steps, and there are only a few ways in which the roles and the users go on in a step,
each with the request that it belongs to and the answers that it forgets. The one request that goes
its own way is to add a user under an id that they ask for, since whoever has the id makes room for
them. Main statements: `stepsTo_of_request` and `after_addUser_of_id`.
-/

namespace StorageGateway

/-! ## Built-in roles -/

/-- A role of those that are built in. -/
def Role.Preset (role : Role) : Prop := role = .guest ∨ role = .admin

namespace Role.Preset

variable {one other : Role}

theorem positive (preset : one.Preset) : 0 < one.id.val := by
  rcases preset with rfl | rfl <;> decide

theorem small (preset : one.Preset) : one.id.val + 1 < idLimit := by
  rcases preset with rfl | rfl <;> decide

theorem fits (preset : one.Preset) : one.id.val < idLimit := Nat.lt_of_succ_lt preset.small

/-- A role that does not pass for a built-in one has another name. -/
theorem name_ne (preset : one.Preset) (ordinary : other.isBuiltIn = false) :
    other.name ≠ one.name := by
  intro named
  rw [Role.isBuiltIn, named] at ordinary
  rcases preset with rfl | rfl <;> exact absurd ordinary (by decide)

theorem eq_of_name (preset : one.Preset) (also : other.Preset) (named : one.name = other.name) :
    one = other := by
  rcases preset with rfl | rfl <;> rcases also with rfl | rfl <;> first | rfl | (revert named; decide)

theorem eq_of_id (preset : one.Preset) (also : other.Preset) (own : one.id = other.id) :
    one = other := by
  rcases preset with rfl | rfl <;> rcases also with rfl | rfl <;> first | rfl | (revert own; decide)

end Role.Preset

/-! ## Next numbers -/

namespace AccountStore.Sound

variable {s : AccountStore}

/-- The number of a role lies below the next one. -/
theorem role_below (sound : s.Sound) {id : RoleId} {role : Role} (found : s.role id = .ok role) :
    id.val < s.roleNumber 0 := by
  cases s with
  | records s => exact sound.numbered.roles.below (RecordStore.role_eq_ok_iff.mp found)
  | rows s =>
    obtain ⟨row, present, -⟩ := RowStore.role_eq_ok_iff.mp found
    exact sound.numbered.roles.below present

/-- The next number belongs to no role. -/
theorem role_next (sound : s.Sound) (role : Role) : s.role ⟨s.roleNumber 0⟩ ≠ .ok role :=
  fun found => Nat.lt_irrefl _ (sound.role_below found)

/-- The next number belongs to no user. -/
theorem user_next (sound : s.Sound) (user : User) : s.user ⟨s.userNumber 0⟩ ≠ .ok user := by
  intro found
  cases s with
  | records s =>
    have present := RecordStore.user_eq_ok_iff.mp found
    exact Nat.lt_irrefl _ (sound.numbered.users.below present)
  | rows s =>
    obtain ⟨row, present, -⟩ := RowStore.user_eq_ok_iff.mp found
    exact Nat.lt_irrefl _ (sound.numbered.users.below present)

end AccountStore.Sound

/-- A request lets paths follow `old` to `new`. -/
def AccountRequest.Moves (request : AccountRequest) (old new : Path) : Prop :=
  request = .change (.moveScopes old new) ∨ request = .change (.movePath old new)

namespace Accounts

open AccountStore

/-! ## Steps -/

/-- How the roles go on in a step of a request. -/
inductive RolesGo (a b : Accounts) : AccountRequest → Prop
  /-- They stay, and what is kept of them was kept before or is what the store answers. -/
  | stay {request : AccountRequest} (same : b.store.SameRoles a.store)
      (kept : ∀ {key role}, b.roles.get? key = some role →
        a.roles.get? key = some role ∨ a.store.find key = .ok role) : RolesGo a b request
  /-- A role is refused, since its name is taken. -/
  | refuse {request : AccountRequest} {wanted : Nat} (room : a.store.HasRoleRoom wanted)
      (stored : b.store = a.store.withoutNewRole wanted) (kept : b.roles = a.roles) : RolesGo a b request
  /-- A role that is not built in takes the next number. -/
  | add {role : Role} (keys : List RoleRef) (room : a.store.HasRoleRoom 0)
      (ordinary : role.isBuiltIn = false) (allowed : role.checkScopes = .ok ())
      (stored : b.store =
        a.store.withRole (a.store.roleNumber 0) { role.normalize with id := ⟨0⟩ })
      (kept : b.roles = keys.foldl Cache.forget a.roles) : RolesGo a b (.change (.addRole role))
  /-- A role takes the place of the one that had its id, whose keys are forgotten. -/
  | change {requested current : Role} {plan : RoleUpdate}
      (found : a.store.role requested.id = .ok current)
      (planned : current.planUpdate requested = .ok plan)
      (stored : b.store = a.store.withRole requested.id.val plan.role)
      (kept : b.roles = plan.stale.foldl Cache.forget a.roles) :
    RolesGo a b (.change (.changeRole requested))
  /-- A built-in role takes its id, since no role has its name. -/
  | ensure {builtIn : Role} (preset : builtIn.Preset)
      (missing : ∀ role, a.store.roleNamed builtIn.name ≠ .ok role)
      (stored : b.store = a.store.withRole builtIn.id.val builtIn)
      (kept : b.roles = builtIn.keys.foldl Cache.forget a.roles) : RolesGo a b .ensureBuiltIns
  /-- A role that is not built in is deleted, and its keys are forgotten. -/
  | erase {id : RoleId} {role : Role} (found : a.store.role id = .ok role)
      (ordinary : role.isBuiltIn = false) (stored : b.store = a.store.withoutRole id.val)
      (kept : b.roles = role.keys.foldl Cache.forget a.roles) :
    RolesGo a b (.change (.removeRole id))
  /-- All roles follow a path, and the keys of those that move are forgotten. -/
  | follow {request : AccountRequest} {roles : List Role} {old new : Path}
      (moves : request.Moves old new) (all : a.store.allRoles = .ok roles)
      (stored : b.store = a.store.followRoles old new)
      (kept : b.roles =
        (scopeMoves roles old new).foldl (fun c role => role.keys.foldl Cache.forget c) a.roles) :
    RolesGo a b request

/-- How the users go on in a step. -/
inductive UsersGo (a b : Accounts) : Prop
  /-- They stay, and what is kept of them was kept before or is what the store answers. -/
  | stay (stored : ∀ id, b.store.user id = a.store.user id)
      (kept : ∀ {name user}, b.users.get? name = some user →
        a.users.get? name = some user ∨ a.store.userNamed name = .ok user)
  /-- A user takes a number that belongs to no user. -/
  | add {n : Nat} (user : User) (names : List String)
      (vacant : ∀ other, a.store.user ⟨n⟩ ≠ .ok other)
      (stored : b.store = a.store.withUser n user)
      (kept : b.users = names.foldl Cache.forget a.users)
  /-- A user takes the place of the one who had their id, and both usernames are forgotten. The
  administrator account keeps its name and its roles. -/
  | change {current user : User} {names : List String}
      (found : a.store.user user.id = .ok current)
      (guarded : current.username = User.adminName →
        user.username = current.username ∧ user.roleIds = current.roleIds)
      (stale : current.username ∈ names)
      (stored : b.store = a.store.withUser user.id.val user)
      (kept : b.users = names.foldl Cache.forget a.users)
  /-- All users follow a path, and those who move are forgotten. -/
  | follow {users : List User} {old new : Path} (all : a.store.allUsers = .ok users)
      (stored : b.store = a.store.followUsers old new)
      (kept : b.users =
        ((basePathMoves users old new).map BasePathMove.username).foldl Cache.forget a.users)

/-- A step of a request. -/
structure Step (request : AccountRequest) (a b : Accounts) : Prop where
  sound : b.store.Sound
  roles : a.RolesGo b request
  users : a.UsersGo b

/-- `a` comes from `start` in steps of a request, and no call of its store is refused. -/
structure StepsTo (request : AccountRequest) (start a : Accounts) : Prop where
  served : a.refused = []
  sound : a.store.Sound
  steps : Relation.ReflTransGen (Step request) start a

namespace StepsTo

variable {request : AccountRequest} {start a b : Accounts}

/-- What every step keeps holds at the end of a course. -/
theorem induction {P : Accounts → Prop} (course : StepsTo request start a)
    (sound : start.store.Sound) (holds : P start)
    (step : ∀ {a b}, a.store.Sound → Step request a b → P a → P b) : P a := by
  obtain ⟨-, -, steps⟩ := course
  have both : a.store.Sound ∧ P a := by
    induction steps with
    | refl => exact ⟨sound, holds⟩
    | tail _ next ih => exact ⟨next.sound, step ih.1 next ih.2⟩
  exact both.2

theorem go (course : StepsTo request start a) (served : b.refused = a.refused)
    (sound : b.store.Sound) (roles : a.RolesGo b request) (users : a.UsersGo b) :
    StepsTo request start b where
  served := served.trans course.served
  sound := sound
  steps := course.steps.tail ⟨sound, roles, users⟩

theorem consults (course : StepsTo request start a) (consults : a.Consults b) :
    StepsTo request start b := by
  refine course.go consults.refused (consults.store ▸ course.sound) ?_ ?_
  · exact .stay (consults.store ▸ .refl a.store) consults.roles
  · exact .stay (fun _ => by rw [consults.store]) consults.users

/-- The roles go on, and the users stay. -/
theorem goRoles (course : StepsTo request start a) (served : b.refused = a.refused)
    (sound : b.store.Sound) (roles : a.RolesGo b request)
    (stored : ∀ id, b.store.user id = a.store.user id) (kept : b.users = a.users) :
    StepsTo request start b :=
  course.go served sound roles (.stay stored fun present => .inl (kept ▸ present))

/-- The users go on, and the roles stay. -/
theorem goUsers (course : StepsTo request start a) (served : b.refused = a.refused)
    (sound : b.store.Sound) (users : a.UsersGo b) (same : b.store.SameRoles a.store)
    (kept : b.roles = a.roles) : StepsTo request start b :=
  course.go served sound (.stay same fun present => .inl (kept ▸ present)) users

/-- A role that is refused leaves all as it is, up to a number that is used up. -/
theorem withoutNewRole (course : StepsTo request start a) (call : StoreCall) {wanted : Nat}
    (room : a.store.HasRoleRoom wanted) :
    StepsTo request start (a.called call (a.store.withoutNewRole wanted)) :=
  course.goRoles rfl (course.sound.withoutNewRole room) (.refuse room rfl rfl)
    (user_withoutNewRole _ wanted) rfl

theorem withoutNewUser (course : StepsTo request start a) (call : StoreCall) {wanted : Nat}
    (room : a.store.HasUserRoom wanted) :
    StepsTo request start (a.called call (a.store.withoutNewUser wanted)) :=
  course.goUsers rfl (course.sound.withoutNewUser room) (.stay (user_withoutNewUser _ wanted) .inl)
    (sameRoles_withoutNewUser wanted _) rfl

end StepsTo

end Accounts

namespace Accounting

open Accounts AccountStore

variable {request : AccountRequest} {start : Accounts}

theorem OnlyLooksUp.keeps_stepsTo {α : Type} {x : Accounting α} (h : OnlyLooksUp x) :
    Keeps (StepsTo request start) x := by
  intro a course
  rw [after]
  cases run : x a with
  | ok v b => exact course.consults (h.of_ok run)
  | error e b => exact course.consults (h.of_error run)

/-! ## Roles -/

theorem keeps_stepsTo_ensureRole {builtIn : Role} (preset : builtIn.Preset) :
    Keeps (StepsTo .ensureBuiltIns start) (ensureRole builtIn) := by
  intro a course
  have asked := course.consults (.called a .roleOfName)
  rw [after, ensureRole_run course.served]
  dsimp only
  cases told : a.store.roleNamed builtIn.name with
  | ok role => exact asked
  | error e =>
    cases e with
    | roleNotFound key =>
      dsimp only
      have room := a.store.hasRoleRoom_of_pos preset.positive preset.small
      have tellable := a.store.canTell_of_lt preset.fits
      rw [putRole_of_positive preset.positive tellable]
      cases taken : a.store.roleElsewhere builtIn.id.val builtIn.name with
      | true => exact asked.withoutNewRole .putRole room
      | false =>
        refine asked.goRoles rfl (course.sound.withRole_of_pos preset.positive room taken)
          (.ensure preset ?_ rfl rfl) (user_withRole _ _ _) rfl
        intro role found
        rw [store_called, told] at found
        contradiction
    | _ => exact asked

theorem keeps_stepsTo_ensureBuiltIns : Keeps (StepsTo .ensureBuiltIns start) ensureBuiltIns :=
  (keeps_stepsTo_ensureRole (.inl rfl)).bind fun _ => keeps_stepsTo_ensureRole (.inr rfl)

/-- A role that is added takes the next number, if there is room. -/
theorem stepsTo_addRole {role : Role} {a : Accounts}
    (course : StepsTo (.change (.addRole role)) start a) (room : a.store.HasRoleRoom 0) :
    StepsTo (.change (.addRole role)) start (after (addRole role) a) := by
  rw [after, addRole_run course.served]
  by_cases builtIn : role.isBuiltIn = true
  · rwa [if_pos builtIn]
  · rw [if_neg builtIn]
    have ordinary : role.isBuiltIn = false := eq_false_of_ne_true builtIn
    cases allowed : role.checkScopes with
    | error e => exact course
    | ok _ =>
      let fresh : Role := { role.normalize with id := ⟨0⟩ }
      dsimp only
      cases taken : a.store.roleElsewhere (a.store.roleNumber 0) role.name with
      | true =>
        rw [putRole_taken fresh taken]
        exact course.withoutNewRole .putRole room
      | false =>
        have sound : (a.store.withRole (a.store.roleNumber 0) fresh).Sound :=
          course.sound.withRole room taken
        cases told : a.store.canTell (a.store.roleNumber 0) with
        | true =>
          rw [putRole_told fresh taken told]
          exact course.goRoles rfl sound (.add _ room ordinary allowed rfl rfl)
            (user_withRole _ _ _) rfl
        | false =>
          rw [putRole_untold fresh taken told]
          exact course.goRoles rfl sound (.add [] room ordinary allowed rfl rfl)
            (user_withRole _ _ _) rfl

/-- Base paths that follow a move are forgotten with their users. -/
theorem keeps_stepsTo_followMove (move : Option (Path × Path)) :
    Keeps (StepsTo request start) (followMove move) := by
  cases move with
  | none => exact .pure _
  | some places =>
    obtain ⟨old, new⟩ := places
    intro a course
    rw [after, followMove_run course.served course.sound.distinct]
    cases all : a.store.allUsers with
    | error e => exact course.consults (.called a .moveBasePaths)
    | ok users =>
      exact course.goUsers rfl (course.sound.followUsers old new) (.follow all rfl rfl)
        (sameRoles_followUsers old new _) rfl

/-- Whatever base paths follow, the roles stay. -/
theorem sameRoles_after_followMove {a : Accounts} (served : a.refused = [])
    (distinct : a.store.Distinct) (move : Option (Path × Path)) :
    (after (followMove move) a).store.SameRoles a.store := by
  cases move with
  | none => exact .refl _
  | some places =>
    rw [after, followMove_run served distinct]
    cases a.store.allUsers with
    | error e => exact .refl _
    | ok users => exact sameRoles_followUsers places.1 places.2 _

theorem keeps_stepsTo_changeRole (requested : Role) :
    Keeps (StepsTo (.change (.changeRole requested)) start) (changeRole requested) := by
  intro a course
  have asked := course.consults (.called a .roleOfId)
  rw [after, changeRole_run course.served course.sound.distinct]
  cases found : a.store.role requested.id with
  | error e => exact asked
  | ok current =>
    dsimp only
    cases planned : current.planUpdate requested with
    | error e => exact asked
    | ok plan =>
      -- base paths follow before the role is stored, which can still be refused
      have followed := keeps_stepsTo_followMove plan.move _ asked
      have same := sameRoles_after_followMove asked.served asked.sound.distinct plan.move
      dsimp only
      cases run : followMove plan.move (a.called .roleOfId a.store) with
      | error e b => exact after_of_error run ▸ followed
      | ok names b =>
        rw [after_of_ok run] at followed same
        have own := (Role.id_of_planUpdate planned).trans (course.sound.distinct.of_role found).1
        have known : b.store.role requested.id = .ok current := (same.role _).trans found
        have told := (followed.sound.distinct.of_role known).2.1
        have positive := followed.sound.numbered.role_positive known
        have room := followed.sound.numbered.hasRoleRoom known
        rw [← own] at told positive room
        dsimp only
        rw [putRole_of_positive positive told]
        cases taken : b.store.roleElsewhere plan.role.id.val plan.role.name with
        | true => exact followed.withoutNewRole .putRole room
        | false =>
          exact followed.goRoles rfl (followed.sound.withRole_of_pos positive room taken)
            (.change known planned (own ▸ rfl) rfl) (user_withRole _ _ _) rfl

theorem keeps_stepsTo_removeRole (id : RoleId) :
    Keeps (StepsTo (.change (.removeRole id)) start) (removeRole id) := by
  intro a course
  have asked := course.consults (.called a .roleOfId)
  rw [after, removeRole_run course.served]
  cases found : a.store.role id with
  | error e => exact asked
  | ok role =>
    dsimp only
    by_cases builtIn : role.isBuiltIn = true
    · rw [if_pos builtIn]
      exact asked
    · rw [if_neg builtIn, eraseRole_run]
      -- if the store has nothing under the number, it erases nothing
      by_cases held : a.store.holdsRole id.val = true
      · rw [if_pos held]
        exact asked.goRoles rfl (course.sound.withoutRole id.val)
          (.erase found (eq_false_of_ne_true builtIn) rfl rfl) (user_withoutRole _ _) rfl
      · rw [if_neg held]
        exact asked.consults (.called _ .eraseRole)

/-! ## Paths -/

theorem keeps_stepsTo_moveScopes {old new : Path} (moves : request.Moves old new) :
    Keeps (StepsTo request start) (moveScopes old new) := by
  intro a course
  have moved := moveScopes_run course.served course.sound old new
  cases all : a.store.allRoles with
  | error e =>
    rw [all] at moved
    rw [after_of_error moved]
    exact course.consults (.called a .roleList)
  | ok roles =>
    rw [all] at moved
    obtain ⟨b, run, store, served, users, forgotten⟩ := moved
    rw [after_of_ok run]
    refine course.goRoles (served.trans course.served.symm) ?_
      (.follow moves all store forgotten) ?_ users
    · rw [store]
      exact course.sound.followRoles old new
    · intro id
      rw [store, user_followRoles]

theorem keeps_stepsTo_movePath (old new : Path) :
    Keeps (StepsTo (.change (.movePath old new)) start) (movePath old new) :=
  (keeps_stepsTo_moveScopes (.inr rfl)).bind fun _ =>
    (keeps_stepsTo_followMove (some (old, new))).bind fun _ => .pure _

/-! ## Users -/

/-- A user who asks for no id takes the next number, if there is room. -/
theorem stepsTo_addUser {user : User} (new : user.id.val = 0) {a : Accounts}
    (course : StepsTo request start a) (room : a.store.HasUserRoom user.id.val) :
    StepsTo request start (after (addUser user) a) := by
  have number : a.store.userNumber user.normalize.id.val = a.store.userNumber 0 := by
    rw [← new]
    rfl
  rw [after, addUser_run course.served]
  cases taken : a.store.userElsewhere (a.store.userNumber 0) user.username with
  | true =>
    rw [putUser_taken user.normalize (number ▸ taken)]
    exact course.withoutNewUser .putUser room
  | false =>
    have sound : (a.store.withUser (a.store.userNumber 0) user.normalize).Sound :=
      number ▸ course.sound.withUser room (number.symm ▸ taken)
    cases told : a.store.canTell (a.store.userNumber 0) with
    | true =>
      rw [putUser_told user.normalize (number ▸ taken) (number ▸ told), number]
      exact course.goUsers rfl sound (.add user.normalize _ course.sound.user_next rfl rfl)
        (sameRoles_withUser _ _ _) rfl
    | false =>
      rw [putUser_untold user.normalize (number ▸ taken) (number ▸ told), number]
      exact course.goUsers rfl sound (.add user.normalize [] course.sound.user_next rfl rfl)
        (sameRoles_withUser _ _ _) rfl

/-- A user who asks for an id takes it, whoever has it, unless their name is taken. -/
theorem after_addUser_of_id {a : Accounts} (served : a.refused = []) {user : User}
    (asks : user.id.val ≠ 0) (fits : user.id.val < idLimit) :
    after (addUser user) a =
      if a.store.userElsewhere user.id.val user.username then
        a.called .putUser (a.store.withoutNewUser user.id.val)
      else
        (a.called .putUser (a.store.withUser user.id.val user.normalize)).forgettingUsers
          [user.username] := by
  have number : a.store.userNumber user.normalize.id.val = user.id.val :=
    a.store.userNumber_of_pos (Nat.pos_of_ne_zero asks)
  have told := a.store.canTell_of_lt fits
  rw [after, addUser_run served]
  cases taken : a.store.userElsewhere user.id.val user.username with
  | true =>
    rw [putUser_taken user.normalize (number.symm ▸ taken)]
    rfl
  | false =>
    rw [putUser_told user.normalize (number.symm ▸ taken) (number.symm ▸ told), number]
    rfl

theorem keeps_stepsTo_changeUser (requested : User) :
    Keeps (StepsTo request start) (changeUser requested) := by
  intro a course
  rcases changeUser_run course.served requested with
    ⟨e, b, run, consults⟩ | ⟨current, b, found, consults, guarded, run⟩
  · rw [after_of_error run]
    exact course.consults consults
  · have told := (course.sound.distinct.of_user found).2.1
    have positive := course.sound.numbered.user_positive found
    have room := course.sound.numbered.hasUserRoom found
    have number : a.store.userNumber requested.normalize.id.val = requested.id.val :=
      a.store.userNumber_of_pos positive
    have asked := course.consults consults
    rw [after, run]
    cases taken : a.store.userElsewhere requested.id.val requested.username with
    | true =>
      rw [putUser_taken requested.normalize (number.symm ▸ taken), ← consults.store]
      rw [← consults.store] at room
      exact asked.withoutNewUser .putUser room
    | false =>
      rw [putUser_told requested.normalize (number.symm ▸ taken) (number.symm ▸ told), number,
        ← consults.store]
      rw [← consults.store] at found taken room
      have known : b.store.user requested.normalize.id = .ok current := found
      have sound : (b.store.withUser requested.id.val requested.normalize).Sound :=
        AccountStore.Sound.withUser_of_pos asked.sound positive room taken
      exact asked.goUsers rfl sound
        (.change known guarded List.mem_cons_self rfl rfl) (sameRoles_withUser _ _ _) rfl

/-! ## Every request -/

/-- A request for which there is room is a course of steps from where the registry stands, unless it
adds a user under an id that they ask for. -/
theorem stepsTo_of_request {a : Accounts} (served : a.refused = []) (sound : a.store.Sound)
    (room : request.HasRoom a.store)
    (fresh : ∀ user fits, request = .change (.addUser user fits) → user.id.val = 0) :
    StepsTo request a (after request.run a) := by
  have here : StepsTo request a a := ⟨served, sound, .refl⟩
  cases request with
  | change c =>
    cases c with
    | addRole role =>
      rw [AccountRequest.run, AccountChange.run, after_discard]
      exact stepsTo_addRole here room
    | changeRole requested => exact (keeps_stepsTo_changeRole requested).discard a here
    | removeRole id => exact keeps_stepsTo_removeRole id a here
    | moveScopes old new => exact (keeps_stepsTo_moveScopes (.inl rfl)).discard a here
    | movePath old new => exact (keeps_stepsTo_movePath old new).discard a here
    | addUser user fits =>
      rw [AccountRequest.run, AccountChange.run, after_discard]
      exact stepsTo_addUser (fresh user fits rfl) here room
    | changeUser requested => exact (keeps_stepsTo_changeUser requested).discard a here
  | ensureBuiltIns => exact keeps_stepsTo_ensureBuiltIns a here
  | role key => exact (onlyLooksUp_role key).keeps_stepsTo.discard a here
  | user name => exact (onlyLooksUp_user name).keeps_stepsTo.discard a here
  | clearance u => exact (onlyLooksUp_clearance u).keeps_stepsTo.discard a here
  | rolesOf id => exact (onlyLooksUp_ask _ _).keeps_stepsTo.discard a here
  | forgetAll =>
    exact here.go rfl sound (.stay (.refl _) fun present => by contradiction)
      (.stay (fun _ => rfl) fun present => by contradiction)

/-- A user who takes an id leaves the registry in order, if there is room. -/
theorem sound_after_addUser {a : Accounts} (served : a.refused = []) (sound : a.store.Sound)
    {user : User} (asks : user.id.val ≠ 0) (fits : user.id.val < idLimit)
    (room : a.store.HasUserRoom user.id.val) :
    (after (addUser user) a).refused = [] ∧ (after (addUser user) a).store.Sound := by
  rw [after_addUser_of_id served asks fits]
  cases taken : a.store.userElsewhere user.id.val user.username with
  | true => exact ⟨served, sound.withoutNewUser room⟩
  | false =>
    exact ⟨served, AccountStore.Sound.withUser_of_pos sound (Nat.pos_of_ne_zero asks) room taken⟩

/-- What every step of a request keeps of the roles, the request keeps if there is room. -/
theorem kept_of_rolesGo {P : Accounts → Prop}
    (step : ∀ {a b}, a.store.Sound → b.store.Sound → a.RolesGo b request → P a → P b)
    {a : Accounts} (room : request.HasRoom a.store)
    (kept : a.refused = [] ∧ a.store.Sound ∧ P a) :
    (after request.run a).refused = [] ∧ (after request.run a).store.Sound ∧
      P (after request.run a) := by
  obtain ⟨served, sound, holds⟩ := kept
  by_cases fresh : ∀ user fits, request = .change (.addUser user fits) → user.id.val = 0
  · have course := stepsTo_of_request served sound room fresh
    refine ⟨course.served, course.sound, course.induction sound holds ?_⟩
    exact fun sound next => step sound next.sound next.roles
  · obtain ⟨user, fits, rfl, asks⟩ :
        ∃ user fits, request = .change (.addUser user fits) ∧ user.id.val ≠ 0 := by
      simpa only [not_forall, exists_prop] using fresh
    rw [AccountRequest.run, AccountChange.run, after_discard]
    -- whoever takes an id, the roles stay
    obtain ⟨servedAfter, soundAfter⟩ := sound_after_addUser served sound asks fits room
    refine ⟨servedAfter, soundAfter, step sound soundAfter ?_ holds⟩
    rw [after_addUser_of_id served asks fits]
    cases a.store.userElsewhere user.id.val user.username with
    | true => exact .stay (sameRoles_withoutNewUser _ _) .inl
    | false => exact .stay (sameRoles_withUser _ _ _) .inl

/-- What every step keeps of the users, every request keeps for which there is room and that is no
exception, if those who take an id keep it that are no exception. -/
theorem kept_of_usersGo {P : Accounts → Prop} {Excepted : AccountRequest → Accounts → Prop}
    (step : ∀ {a b}, a.store.Sound → b.store.Sound → a.UsersGo b → P a → P b)
    (asked : ∀ {a u} (fits : u.id.val < idLimit), a.refused = [] → a.store.Sound → u.id.val ≠ 0 →
      ¬ Excepted (.change (.addUser u fits)) a → P a → P (after (addUser u) a))
    {a : Accounts} {request : AccountRequest} (room : request.HasRoom a.store)
    (kept : a.refused = [] ∧ a.store.Sound ∧ P a) (fine : ¬ Excepted request a) :
    (after request.run a).refused = [] ∧ (after request.run a).store.Sound ∧
      P (after request.run a) := by
  obtain ⟨served, sound, holds⟩ := kept
  by_cases fresh : ∀ u fits, request = .change (.addUser u fits) → u.id.val = 0
  · have course := stepsTo_of_request served sound room fresh
    refine ⟨course.served, course.sound, course.induction sound holds ?_⟩
    exact fun sound next => step sound next.sound next.users
  · obtain ⟨u, fits, rfl, asks⟩ :
        ∃ u fits, request = .change (.addUser u fits) ∧ u.id.val ≠ 0 := by
      simpa only [not_forall, exists_prop] using fresh
    rw [AccountRequest.run, AccountChange.run, after_discard]
    obtain ⟨servedAfter, soundAfter⟩ := sound_after_addUser served sound asks fits room
    exact ⟨servedAfter, soundAfter, asked fits served sound asks fine holds⟩

end Accounting

/-! ## Courses of requests -/

namespace Accounts

/-- The registry after requests, one after another. -/
def serve (a : Accounts) (requests : List AccountRequest) : Accounts :=
  requests.foldl (fun a request => after request.run a) a

/-- No count of numbers comes round in a course of requests. -/
def InRange (a : Accounts) (requests : List AccountRequest) : Prop :=
  Throughout (fun a request => after request.run a) (fun request a => request.HasRoom a.store) a
    requests

instance (a : Accounts) (requests : List AccountRequest) : Decidable (a.InRange requests) :=
  inferInstanceAs (Decidable (Throughout ..))

/-- What each step of the requests keeps of the roles holds after all of them. -/
theorem serve_of_rolesGo {P : Accounts → Prop} {a : Accounts} {requests : List AccountRequest}
    (inRange : a.InRange requests)
    (step : ∀ {a b request}, request ∈ requests → a.store.Sound → b.store.Sound →
      a.RolesGo b request → P a → P b) (first : a.refused = [] ∧ a.store.Sound ∧ P a) :
    (a.serve requests).refused = [] ∧ (a.serve requests).store.Sound ∧ P (a.serve requests) :=
  Throughout.induction (P := fun a => a.refused = [] ∧ a.store.Sound ∧ P a) inRange
    (fun present room => Accounting.kept_of_rolesGo (step present) room) first

@[simp] theorem serve_append (a : Accounts) (first next : List AccountRequest) :
    a.serve (first ++ next) = (a.serve first).serve next :=
  List.foldl_append

end Accounts

end StorageGateway
