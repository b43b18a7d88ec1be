import StorageGateway.Proofs.Account.LookUps

/-!
# What changes of accounts come to

While no call of the store is refused, a change of accounts runs as its calls of the store do, one
after another. Main statements: a closed form for every change, such as `addRole_run` and
`movePath_run`.
-/

namespace StorageGateway

namespace Accounting

variable {a : Accounts}

/-! ## Changes of roles -/

theorem putRole_run (served : a.refused = []) (role : Role) :
    putRole role a =
      match AccountStore.putRole role a.store with
      | .ok stored s => .ok stored (a.called .putRole s)
      | .error e s => .error e (a.called .putRole s) := by
  rw [putRole, change_run served]
  cases AccountStore.putRole role a.store <;> rfl

/-- A built-in role is stored only if the store says that there is none of its name. -/
theorem ensureRole_run (served : a.refused = []) (builtIn : Role) :
    ensureRole builtIn a =
      let asked := a.called .roleOfName a.store
      match a.store.roleNamed builtIn.name with
      | .ok _ => .ok () asked
      | .error (.roleNotFound _) => match AccountStore.putRole builtIn a.store with
        | .ok stored s => .ok () ((asked.called .putRole s).forgettingRoles stored.keys)
        | .error e s => .error e (asked.called .putRole s)
      | .error e => .error e asked := by
  let asked := a.called .roleOfName a.store
  have looked := ask_run served .roleOfName (·.roleNamed builtIn.name)
  change storedRoleNamed builtIn.name a = _ at looked
  dsimp only
  cases told : a.store.roleNamed builtIn.name with
  | ok known =>
    rw [told] at looked
    rw [ensureRole, bind_of_ok (v := false) (t := asked)
      (by rw [tryCatch_run, bind_of_ok (by rw [discard_run, looked])]; rfl)]
    rfl
  | error e =>
    rw [told] at looked
    cases e with
    | roleNotFound key =>
      rw [ensureRole, bind_of_ok (v := true) (t := asked)
        (by rw [tryCatch_run, bind_of_error (by rw [discard_run, looked])]; rfl)]
      have put := putRole_run (a := asked) served builtIn
      dsimp only
      rw [if_pos rfl]
      cases stored : AccountStore.putRole builtIn a.store with
      | error e s => exact bind_of_error (put.trans (by rw [Accounts.store_called, stored]))
      | ok role s =>
        rw [bind_of_ok (put.trans (by rw [Accounts.store_called, stored]))]
        rfl
    | _ =>
      exact bind_of_error
        (by rw [tryCatch_run, bind_of_error (by rw [discard_run, looked])]; rfl)

theorem addRole_run (served : a.refused = []) (role : Role) :
    addRole role a =
      if role.isBuiltIn then .error (.protectedRole (.builtIn role.name)) a
      else match role.checkScopes with
        | .error e => .error e a
        | .ok _ => match AccountStore.putRole { role.normalize with id := ⟨0⟩ } a.store with
          | .ok stored s => .ok stored ((a.called .putRole s).forgettingRoles stored.keys)
          | .error e s => .error e (a.called .putRole s) := by
  rw [addRole]
  by_cases builtIn : role.isBuiltIn = true
  · rw [if_pos builtIn, bind_of_error (by rw [refuseIf_run, if_pos builtIn])]
  · rw [if_neg builtIn, bind_of_ok (by rw [refuseIf_run, if_neg builtIn])]
    cases checked : role.checkScopes with
    | error e => rw [bind_of_error (ofExcept_run _)]
    | ok _ =>
      rw [bind_of_ok (ofExcept_run _)]
      have put := putRole_run served { role.normalize with id := ⟨0⟩ }
      cases stored : AccountStore.putRole { role.normalize with id := ⟨0⟩ } a.store with
      | error e s => rw [bind_of_error (put.trans (by rw [stored]))]
      | ok role s =>
        rw [bind_of_ok (put.trans (by rw [stored]))]
        rfl

/-- Base paths that follow a move are forgotten with their users. -/
theorem followMove_run (served : a.refused = []) (distinct : a.store.Distinct) (old new : Path) :
    followMove (some (old, new)) a =
      match a.store.allUsers with
      | .error e => .error e (a.called .moveBasePaths a.store)
      | .ok users =>
        let names := (basePathMoves users old new).map BasePathMove.username
        .ok names
          ((a.called .moveBasePaths (a.store.followUsers old new)).forgettingUsers names) := by
  have moved := change_run served .moveBasePaths (AccountStore.moveBasePaths old new)
  rw [AccountStore.moveBasePaths_run distinct] at moved
  rw [followMove, moveBasePaths]
  cases all : a.store.allUsers with
  | error e => rw [bind_of_error (moved.trans (by rw [all]))]
  | ok users =>
    rw [bind_of_ok (moved.trans (by rw [all]))]
    rfl

theorem changeRole_run (served : a.refused = []) (distinct : a.store.Distinct) (requested : Role) :
    changeRole requested a =
      match a.store.role requested.id with
      | .error e => .error e (a.called .roleOfId a.store)
      | .ok current => match current.planUpdate requested with
        | .error e => .error e (a.called .roleOfId a.store)
        | .ok plan => match followMove plan.move (a.called .roleOfId a.store) with
          | .error e b => .error e b
          | .ok names b => match AccountStore.putRole plan.role b.store with
            | .error e s => .error e (b.called .putRole s)
            | .ok role s =>
              .ok (role, names) ((b.called .putRole s).forgettingRoles plan.stale) := by
  rw [changeRole, storedRole]
  have asked := ask_run served .roleOfId (·.role requested.id)
  cases found : a.store.role requested.id with
  | error e => rw [bind_of_error (asked.trans (by rw [found]))]
  | ok current =>
    rw [bind_of_ok (asked.trans (by rw [found]))]
    dsimp only
    cases planned : current.planUpdate requested with
    | error e => rw [bind_of_error (ofExcept_run _)]
    | ok plan =>
      rw [bind_of_ok (ofExcept_run _)]
      dsimp only
      cases followed : followMove plan.move (a.called .roleOfId a.store) with
      | error e b => rw [bind_of_error followed]
      | ok names b =>
        rw [bind_of_ok followed]
        have served : b.refused = [] := by
          cases shape : plan.move with
          | none =>
            rw [shape] at followed
            cases followed
            exact served
          | some move =>
            rw [shape, followMove_run (by exact served) (by exact distinct)] at followed
            cases all : a.store.allUsers with
            | error e => simp [all] at followed
            | ok users =>
              simp only [Accounts.store_called, all, EStateM.Result.ok.injEq] at followed
              rw [← followed.2]
              exact served
        have put := putRole_run served plan.role
        dsimp only
        cases stored : AccountStore.putRole plan.role b.store with
        | error e s => rw [bind_of_error (put.trans (by rw [stored]))]
        | ok role s =>
          rw [bind_of_ok (put.trans (by rw [stored]))]
          rfl

theorem removeRole_run (served : a.refused = []) (id : RoleId) :
    removeRole id a =
      match a.store.role id with
      | .error e => .error e (a.called .roleOfId a.store)
      | .ok role =>
        if role.isBuiltIn then
          .error (.protectedRole (.delete role.name)) (a.called .roleOfId a.store)
        else match AccountStore.eraseRole id a.store with
          | .error e s => .error e ((a.called .roleOfId a.store).called .eraseRole s)
          | .ok _ s =>
            .ok () (((a.called .roleOfId a.store).called .eraseRole s).forgettingRoles
              role.keys) := by
  rw [removeRole, storedRole]
  have asked := ask_run served .roleOfId (·.role id)
  cases found : a.store.role id with
  | error e => rw [bind_of_error (asked.trans (by rw [found]))]
  | ok role =>
    rw [bind_of_ok (asked.trans (by rw [found]))]
    dsimp only
    by_cases builtIn : role.isBuiltIn = true
    · rw [if_pos builtIn, bind_of_error (by rw [refuseIf_run, if_pos builtIn])]
    · rw [if_neg builtIn, bind_of_ok (by rw [refuseIf_run, if_neg builtIn]), eraseRole]
      have erased := change_run (a := a.called .roleOfId a.store) served .eraseRole
        (AccountStore.eraseRole id)
      rw [Accounts.store_called] at erased
      cases left : AccountStore.eraseRole id a.store with
      | error e s => rw [bind_of_error (erased.trans (by rw [left]))]
      | ok _ s =>
        rw [bind_of_ok (erased.trans (by rw [left]))]
        rfl

/-! ## Paths -/

/-- The registry after roles were stored and forgotten one after another. -/
theorem mapM_putRole_run (served : a.refused = []) (distinct : a.store.Distinct)
    {moved : List Role} (held : ∀ role ∈ moved, 0 < role.id.val ∧ ∃ current,
      a.store.role role.id = .ok current ∧ current.name = role.name) :
    ∃ b, (moved.mapM fun r => do
        let role ← putRole r
        forgetRoles role.keys
        return role.id) a = .ok (moved.map Role.id) b ∧
      b.store = moved.foldl (fun s role => s.withRole role.id.val role) a.store ∧
      b.refused = [] ∧ b.users = a.users ∧
      b.roles = moved.foldl (fun c role => role.keys.foldl Cache.forget c) a.roles := by
  induction moved generalizing a with
  | nil => exact ⟨a, rfl, rfl, served, rfl, rfl⟩
  | cons role rest ih =>
    obtain ⟨positive, current, found, named⟩ := held role List.mem_cons_self
    obtain ⟨stored, distinctAfter⟩ :=
      AccountStore.putRole_of_held distinct positive found named
    have put := putRole_run served role
    rw [stored] at put
    have heldAfter : ∀ other ∈ rest, 0 < other.id.val ∧ ∃ current,
        (a.store.withRole role.id.val role).role other.id = .ok current ∧
          current.name = other.name := by
      intro other later
      obtain ⟨positive, before, known, same⟩ := held other (List.mem_cons_of_mem _ later)
      refine ⟨positive, ?_⟩
      rw [AccountStore.role_withRole]
      by_cases again : other.id.val = role.id.val
      · have told := (distinct.of_role found).2.1
        have id : other.id = role.id := congrArg RoleId.mk again
        rw [id, found] at known
        cases known
        exact ⟨role, by rw [if_pos again, if_pos told], named.symm.trans same⟩
      · exact ⟨before, by rw [if_neg again, known], same⟩
    obtain ⟨b, run, store, servedLast, users, roles⟩ :=
      ih (a := (a.called .putRole (a.store.withRole role.id.val role)).forgettingRoles role.keys)
        served distinctAfter heldAfter
    refine ⟨b, ?_, store, servedLast, users, roles⟩
    have first : (do
        let role ← putRole role
        forgetRoles role.keys
        return role.id : Accounting RoleId) a = .ok role.id
          ((a.called .putRole (a.store.withRole role.id.val role)).forgettingRoles role.keys) := by
      rw [bind_of_ok put]
      rfl
    rw [List.mapM_cons, bind_of_ok first, bind_of_ok run]
    rfl

/-- All scopes follow at once, unless a role cannot be read. -/
theorem moveScopes_run (served : a.refused = []) (sound : a.store.Sound) (old new : Path) :
    match a.store.allRoles with
    | .error e => moveScopes old new a = .error e (a.called .roleList a.store)
    | .ok roles =>
      let moved := scopeMoves roles old new
      ∃ b, moveScopes old new a = .ok (moved.map Role.id) b ∧
        b.store = a.store.followRoles old new ∧ b.refused = [] ∧ b.users = a.users ∧
        b.roles = moved.foldl (fun c role => role.keys.foldl Cache.forget c) a.roles := by
  have asked := ask_run served .roleList (·.allRoles)
  cases all : a.store.allRoles with
  | error e =>
    dsimp only
    rw [moveScopes, allRoles, bind_of_error (asked.trans (by rw [all]))]
  | ok roles =>
    have held : ∀ role ∈ scopeMoves roles old new, 0 < role.id.val ∧ ∃ current,
        a.store.role role.id = .ok current ∧ current.name = role.name := by
      intro role present
      obtain ⟨before, listed, rfl, -⟩ := mem_scopeMoves.mp present
      have found := (AccountStore.mem_allRoles sound.distinct all before).mp listed
      exact ⟨sound.numbered.role_positive found, before, found, rfl⟩
    obtain ⟨b, run, store, servedLast, users, forgotten⟩ :=
      mapM_putRole_run (a := a.called .roleList a.store) served sound.distinct held
    refine ⟨b, ?_, ?_, servedLast, users, forgotten⟩
    · rw [moveScopes, allRoles, bind_of_ok (asked.trans (by rw [all]))]
      exact run
    · rw [store]
      exact AccountStore.foldl_withRole_scopeMoves sound all old new

/-- Scopes follow first, so that a user who cannot be read stops the move halfway. -/
theorem movePath_run (served : a.refused = []) (sound : a.store.Sound) (old new : Path) :
    match a.store.allRoles with
    | .error e => movePath old new a = .error e (a.called .roleList a.store)
    | .ok roles => match a.store.allUsers with
      | .error e => ∃ b, movePath old new a = .error e b ∧
          b.store = a.store.followRoles old new
      | .ok users =>
        let moved := scopeMoves roles old new
        let names := (basePathMoves users old new).map BasePathMove.username
        ∃ b, movePath old new a = .ok { roles := moved.map Role.id, users := names } b ∧
          b.store = (a.store.followRoles old new).followUsers old new ∧ b.refused = [] ∧
          b.users = names.foldl Cache.forget a.users ∧
          b.roles = moved.foldl (fun c role => role.keys.foldl Cache.forget c) a.roles := by
  have scopes := moveScopes_run served sound old new
  cases allRoles : a.store.allRoles with
  | error e =>
    rw [allRoles] at scopes
    exact bind_of_error scopes
  | ok roles =>
    rw [allRoles] at scopes
    obtain ⟨b, run, store, servedAfter, users, forgotten⟩ := scopes
    have distinctAfter : b.store.Distinct := store ▸ sound.distinct.followRoles old new
    have bases := followMove_run servedAfter distinctAfter old new
    rw [store, AccountStore.allUsers_followRoles] at bases
    cases all : a.store.allUsers with
    | error e =>
      rw [all] at bases
      refine ⟨b.called .moveBasePaths (a.store.followRoles old new), ?_, rfl⟩
      rw [movePath, bind_of_ok run, bind_of_error bases]
    | ok stored =>
      rw [all] at bases
      refine ⟨(b.called .moveBasePaths ((a.store.followRoles old new).followUsers old new)
        ).forgettingUsers ((basePathMoves stored old new).map BasePathMove.username),
        ?_, rfl, servedAfter, ?_, forgotten⟩
      · rw [movePath, bind_of_ok run, bind_of_ok bases]
        rfl
      · rw [← users]
        rfl

/-- What becomes of a registry while roles are stored: names stay distinct, and the users stay as they
are, those that are kept included. -/
structure UsersStay (a b : Accounts) : Prop where
  distinct : b.store.Distinct
  store : b.store.SameUsers a.store
  refused : b.refused = a.refused
  kept : b.users = a.users

theorem keeps_usersStay_putRole (role : Role) : Keeps (UsersStay a) (putRole role) := by
  intro b stay
  rw [after, putRole, change_eq]
  by_cases refused : b.refused.contains .putRole = true
  · rw [if_pos refused]
    exact ⟨stay.distinct, stay.store, stay.refused, stay.kept⟩
  · rw [if_neg refused]
    have distinct := AccountStore.keeps_distinct_putRole role b.store stay.distinct
    have same : (after (AccountStore.putRole role) b.store).SameUsers b.store := by
      obtain left | ⟨-, left⟩ := AccountStore.after_putRole b.store role
      · exact left ▸ AccountStore.sameUsers_withoutNewRole _ _
      · exact left ▸ AccountStore.sameUsers_withRole _ _ _
    rw [after] at distinct same
    cases run : AccountStore.putRole role b.store <;> rw [run] at distinct same <;>
      exact ⟨distinct, same.trans stay.store, stay.refused, stay.kept⟩

/-- Scopes that follow leave the users, whatever numbers their roles are given. -/
theorem keeps_usersStay_moveScopes (old new : Path) : Keeps (UsersStay a) (moveScopes old new) := by
  have asks : Keeps (UsersStay a) allRoles := by
    intro b stay
    rw [after, allRoles, ask_eq]
    by_cases refused : b.refused.contains .roleList = true
    · rw [if_pos refused]
      exact ⟨stay.distinct, stay.store, stay.refused, stay.kept⟩
    · rw [if_neg refused]
      cases b.store.allRoles <;> exact ⟨stay.distinct, stay.store, stay.refused, stay.kept⟩
  refine asks.bind fun roles => .mapM fun role _ => (keeps_usersStay_putRole role).bind fun _ => ?_
  have forgets (keys : List RoleRef) : Keeps (UsersStay a) (forgetRoles keys) :=
    fun _ stay => ⟨stay.distinct, stay.store, stay.refused, stay.kept⟩
  exact (forgets _).bind fun _ => .pure _

/-- Base paths that follow with scopes follow as the store lets them, whatever numbers the roles are
given. -/
theorem users_of_movePath (served : a.refused = []) (distinct : a.store.Distinct) {old new : Path}
    {moved : PathMove} {b : Accounts} (run : movePath old new a = .ok moved b) :
    ∃ users, a.store.allUsers = .ok users ∧
      (∀ id, b.store.user id = (a.store.user id).map fun user => user.follow old new) ∧
      b.refused = [] ∧
      b.users =
        ((basePathMoves users old new).map BasePathMove.username).foldl Cache.forget a.users := by
  obtain ⟨ids, c, first, run⟩ := of_bind_ok run
  obtain ⟨names, d, next, run⟩ := of_bind_ok run
  cases run
  have stay := (keeps_usersStay_moveScopes old new).of_ok ⟨distinct, .refl _, rfl, rfl⟩ first
  rw [followMove_run (stay.refused.trans served) stay.distinct, stay.store.allUsers] at next
  cases all : a.store.allUsers with
  | error e =>
    rw [all] at next
    contradiction
  | ok users =>
    rw [all] at next
    cases next
    refine ⟨users, rfl, fun id => ?_, stay.refused.trans served, ?_⟩
    · rw [Accounts.store_forgettingUsers, Accounts.store_called, AccountStore.user_followUsers,
        stay.store.user]
    · rw [← stay.kept]
      rfl

/-! ## Users -/

theorem putUser_run (served : a.refused = []) (user : User) :
    putUser user a =
      match AccountStore.putUser user a.store with
      | .ok stored s => .ok stored (a.called .putUser s)
      | .error e s => .error e (a.called .putUser s) := by
  rw [putUser, change_run served]
  cases AccountStore.putUser user a.store <;> rfl

theorem addUser_run (served : a.refused = []) (user : User) :
    addUser user a =
      match AccountStore.putUser user.normalize a.store with
      | .ok stored s => .ok stored ((a.called .putUser s).forgettingUsers [stored.username])
      | .error e s => .error e (a.called .putUser s) := by
  rw [addUser]
  have put := putUser_run served user.normalize
  cases stored : AccountStore.putUser user.normalize a.store with
  | error e s => rw [bind_of_error (put.trans (by rw [stored]))]
  | ok user s =>
    rw [bind_of_ok (put.trans (by rw [stored]))]
    rfl

/-- An update that is let through leaves the administrator account its name and its roles. -/
theorem of_checkAdmin_ok {current requested : User} {b : Accounts}
    (run : checkAdmin current requested a = .ok () b) (admin : current.username = User.adminName) :
    requested.username = current.username ∧ requested.roleIds = current.roleIds := by
  rw [checkAdmin] at run
  cases renames : current.username == User.adminName && requested.username != current.username with
  | true =>
    rw [bind_of_error (refuseIf_run _ _ |>.trans (if_pos renames))] at run
    contradiction
  | false =>
    rw [bind_of_ok (refuseIf_run _ _ |>.trans (if_neg (by simp [renames])))] at run
    cases demotes : current.username == User.adminName && requested.roleIds != current.roleIds with
    | true =>
      rw [refuseIf_run, if_pos demotes] at run
      contradiction
    | false =>
      rw [admin, beq_self_eq_true, Bool.true_and, bne_eq_false_iff_eq] at renames demotes
      exact ⟨renames.trans admin.symm, demotes⟩

/-- An update of a user fails before anything is stored, or goes as the store takes it. -/
theorem changeUser_run (served : a.refused = []) (requested : User) :
    (∃ e b, changeUser requested a = .error e b ∧ a.Consults b) ∨
      ∃ current b, a.store.user requested.id = .ok current ∧ a.Consults b ∧
        (current.username = User.adminName →
          requested.username = current.username ∧ requested.roleIds = current.roleIds) ∧
        changeUser requested a =
          match AccountStore.putUser requested.normalize a.store with
          | .ok stored s => .ok stored
              ((b.called .putUser s).forgettingUsers [current.username, stored.username])
          | .error e s => .error e (b.called .putUser s) := by
  rw [changeUser, storedUser]
  have asked := ask_run served .userOfId (·.user requested.id)
  cases found : a.store.user requested.id with
  | error e =>
    refine .inl ⟨e, _, ?_, .called a .userOfId⟩
    rw [bind_of_error (asked.trans (by rw [found]))]
  | ok current =>
    rw [bind_of_ok (asked.trans (by rw [found]))]
    have first := Accounts.Consults.called a .userOfId
    cases checked : checkAdmin current requested (a.called .userOfId a.store) with
    | error e b =>
      refine .inl ⟨e, b, bind_of_error checked, ?_⟩
      exact first.trans ((onlyLooksUp_checkAdmin _ _).of_error checked)
    | ok _ b =>
      rw [bind_of_ok checked]
      have second := first.trans ((onlyLooksUp_checkAdmin _ _).of_ok checked)
      obtain ⟨c, tried, third⟩ :=
        forM_attempt_run (fun id : RoleId => onlyLooksUp_role (.id id)) requested.roleIds b
      have consults := second.trans third
      refine .inr ⟨current, c, rfl, consults, of_checkAdmin_ok checked, ?_⟩
      have put := putUser_run (consults.refused.trans served) requested.normalize
      rw [bind_of_ok tried]
      rw [consults.store] at put
      cases stored : AccountStore.putUser requested.normalize a.store with
      | error e s => rw [bind_of_error (put.trans (by rw [stored]))]
      | ok user s =>
        rw [bind_of_ok (put.trans (by rw [stored]))]
        rfl

end Accounting

/-! ## Every change -/

/-- A change of accounts by an administrator. -/
inductive AccountChange where
  | addRole (role : Role)
  | changeRole (requested : Role)
  | removeRole (id : RoleId)
  | moveScopes (old new : Path)
  | movePath (old new : Path)
  /-- The id that a new user asks for has 32 bits. -/
  | addUser (user : User) (fits : user.id.val < idLimit)
  | changeUser (requested : User)

namespace AccountChange

/-- Carry out a change. -/
def run : AccountChange → Accounting Unit
  | addRole role => discard (Accounting.addRole role)
  | changeRole requested => discard (Accounting.changeRole requested)
  | removeRole id => Accounting.removeRole id
  | moveScopes old new => discard (Accounting.moveScopes old new)
  | movePath old new => discard (Accounting.movePath old new)
  | addUser user _ => discard (Accounting.addUser user)
  | changeUser requested => discard (Accounting.changeUser requested)

end AccountChange

end StorageGateway
