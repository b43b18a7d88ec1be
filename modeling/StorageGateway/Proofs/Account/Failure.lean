import StorageGateway.Proofs.Account.Names
import StorageGateway.Proofs.Account.Reached

/-!
# What a failed change leaves behind

A change that fails is expected to leave every stored role and user as it was. Most failures come
before anything is stored, but three do not: an update of a role lets base paths follow before the
role is stored, and storing it can still fail; a row whose number is too large for an id is stored
by a call that fails; and scopes follow a path before it is known whether base paths can. Main
statement: `failure_keeps_records_iff`, which says that there is no fourth, even after a count of
numbers has come round.
-/

namespace StorageGateway

namespace AccountStore

/-- An update is stored under a number that can be told. -/
theorem Reached.canTell_of_planUpdate {s : AccountStore} (reached : s.Reached)
    {requested current : Role} {plan : RoleUpdate} (found : s.role requested.id = .ok current)
    (planned : current.planUpdate requested = .ok plan) :
    s.canTell (s.roleNumber plan.role.id.val) = true := by
  rw [Role.id_of_planUpdate planned, (reached.distinct.of_role found).1]
  exact reached.canTell_roleNumber found

/-! ## When a change changes anything -/

/-- Some stored base path follows `old` to `new`. -/
def MovesBasePaths (s : AccountStore) (old new : Path) : Prop :=
  ∃ users, s.allUsers = .ok users ∧ basePathMoves users old new ≠ []

/-- Some stored scope follows `old` to `new`. -/
def MovesScopes (s : AccountStore) (old new : Path) : Prop :=
  ∃ roles, s.allRoles = .ok roles ∧ scopeMoves roles old new ≠ []

theorem sameRecords_withoutNewRole_iff (s t : AccountStore) (wanted : Nat) :
    s.SameRecords (t.withoutNewRole wanted) ↔ s.SameRecords t := by
  cases s <;> cases t <;> exact Iff.rfl

@[simp] theorem roleElsewhere_followUsers (s : AccountStore) (old new : Path) (n : Nat)
    (name : String) : (s.followUsers old new).roleElsewhere n name = s.roleElsewhere n name := by
  cases s <;> rfl

@[simp] theorem roleNumber_followUsers (s : AccountStore) (old new : Path) (wanted : Nat) :
    (s.followUsers old new).roleNumber wanted = s.roleNumber wanted := by
  cases s <;> rfl

@[simp] theorem canTell_followUsers (s : AccountStore) (old new : Path) (n : Nat) :
    (s.followUsers old new).canTell n = s.canTell n := by
  cases s <;> rfl

/-- The records stay the same while users follow a path exactly if no base path moves. -/
theorem sameRecords_followUsers_iff {s : AccountStore} (distinct : s.Distinct) {users : List User}
    (all : s.allUsers = .ok users) (old new : Path) :
    s.SameRecords (s.followUsers old new) ↔ basePathMoves users old new = [] := by
  rw [basePathMoves, List.filterMap_eq_nil_iff]
  cases s with
  | records s =>
    cases all
    refine (and_iff_right rfl).trans ?_
    rw [RecordStore.followUsers, Roster.records_mapRecords_eq_iff]
    constructor
    · intro fixed user listed
      rw [← User.follow_eq_self_iff]
      exact fixed _ user ((RecordStore.mem_allUsers distinct user).mp listed)
    · intro still n user found
      rw [User.follow_eq_self_iff]
      refine still user ((RecordStore.mem_allUsers distinct user).mpr ?_)
      rw [distinct.user_id found]
      exact found
  | rows s =>
    refine (and_iff_right rfl).trans ?_
    rw [RowStore.followUsers, Roster.records_mapRecords_eq_iff]
    constructor
    · intro fixed user listed
      obtain ⟨row, found, reads⟩ := (RowStore.mem_allUsers all user).mp listed
      rw [← User.follow_eq_self_iff, ← UserColumns.follow_eq_self_iff reads]
      exact fixed _ row found
    · intro still n row found
      obtain ⟨user, listed, reads⟩ :=
        RowStore.exists_of_mapM_ok all ((s.users.mem_entries_iff n row).mpr found)
      rw [UserColumns.follow_eq_self_iff reads, User.follow_eq_self_iff]
      exact still user listed

/-- The records stay the same while roles follow a path exactly if no scope moves. -/
theorem sameRecords_followRoles_iff {s : AccountStore} (distinct : s.Distinct) {roles : List Role}
    (all : s.allRoles = .ok roles) (old new : Path) :
    s.SameRecords (s.followRoles old new) ↔ scopeMoves roles old new = [] := by
  rw [scopeMoves_eq_nil_iff]
  cases s with
  | records s =>
    cases all
    refine (and_iff_left rfl).trans ?_
    rw [RecordStore.followRoles, Roster.records_mapRecords_eq_iff]
    constructor
    · intro fixed role listed
      exact fixed _ role ((RecordStore.mem_allRoles distinct role).mp listed)
    · intro still n role found
      refine still role ((RecordStore.mem_allRoles distinct role).mpr ?_)
      rw [distinct.role_id found]
      exact found
  | rows s =>
    refine (and_iff_left rfl).trans ?_
    rw [RowStore.followRoles, Roster.records_mapRecords_eq_iff]
    constructor
    · intro fixed role listed
      obtain ⟨row, found, reads⟩ := (RowStore.mem_allRoles all role).mp listed
      rw [← RoleColumns.follow_eq_self_iff reads]
      exact fixed _ row found
    · intro still n row found
      obtain ⟨role, listed, reads⟩ :=
        RowStore.exists_of_mapM_ok all ((s.roles.mem_entries_iff n row).mpr found)
      rw [RoleColumns.follow_eq_self_iff reads]
      exact still role listed

/-- A role under a new number that cannot be told is one more row. -/
theorem not_sameRecords_withRole {s : AccountStore} (reached : s.Reached)
    (untold : s.canTell (s.roleNumber 0) = false) (role : Role) :
    ¬ s.SameRecords (s.withRole (s.roleNumber 0) role) := by
  rcases reached.inRange_or_records with inRange | ⟨t, rfl⟩
  · cases s with
    | records s => contradiction
    | rows s => exact fun same => inRange.sound.numbered.roles.records_put_next_ne _ same.1
  · contradiction

/-- A user under a new number that cannot be told is one more row. -/
theorem not_sameRecords_withUser {s : AccountStore} (reached : s.Reached)
    (untold : s.canTell (s.userNumber 0) = false) (user : User) :
    ¬ s.SameRecords (s.withUser (s.userNumber 0) user) := by
  rcases reached.inRange_or_records with inRange | ⟨t, rfl⟩
  · cases s with
    | records s => contradiction
    | rows s => exact fun same => inRange.sound.numbered.users.records_put_next_ne _ same.2
  · contradiction

end AccountStore

namespace AccountChange

/-- Whether a change of the records of a store fails when some of it is done. -/
def LeavesTrace (s : AccountStore) : AccountChange → Prop
  | addRole role =>
    role.isBuiltIn = false ∧ role.checkScopes = .ok () ∧
      s.roleElsewhere (s.roleNumber 0) role.name = false ∧ s.canTell (s.roleNumber 0) = false
  | changeRole requested =>
    ∃ current plan old new, s.role requested.id = .ok current ∧
      current.planUpdate requested = .ok plan ∧ plan.move = some (old, new) ∧
      s.MovesBasePaths old new ∧
      s.roleElsewhere (s.roleNumber current.id.val) plan.role.name = true
  | removeRole _ => False
  | moveScopes _ _ => False
  | movePath old new => s.MovesScopes old new ∧ ∃ e, s.allUsers = .error e
  | addUser user _ =>
    s.userElsewhere (s.userNumber user.id.val) user.username = false ∧
      s.canTell (s.userNumber user.id.val) = false
  | changeUser _ => False

end AccountChange

namespace Accounting

open AccountStore

variable {a : Accounts}

/-- A request that fails leaves the records as they were. -/
def FailsCleanly {α : Type} (x : Accounting α) (a : Accounts) : Prop :=
  ∀ e b, x a = .error e b → a.store.SameRecords b.store

namespace FailsCleanly

variable {α : Type} {x : Accounting α} {b : Accounts}

theorem of_ok {v : α} (run : x a = .ok v b) : FailsCleanly x a := by
  intro e c failed
  rw [run] at failed
  contradiction

theorem of_error_iff {e : AccountError} (run : x a = .error e b) :
    FailsCleanly x a ↔ a.store.SameRecords b.store := by
  refine ⟨fun clean => clean e b run, fun same f c failed => ?_⟩
  rw [run] at failed
  cases failed
  exact same

theorem discard_iff : FailsCleanly (discard x) a ↔ FailsCleanly x a := by
  rw [FailsCleanly, FailsCleanly, discard_run]
  cases x a with
  | ok v b => simp
  | error e b => simp

end FailsCleanly

/-- A role that is added is stored in spite of the failure if its number cannot be told. -/
theorem failsCleanly_addRole_iff (served : a.refused = []) (reached : a.store.Reached)
    (role : Role) :
    FailsCleanly (addRole role) a ↔ ¬ (AccountChange.addRole role).LeavesTrace a.store := by
  have run := addRole_run served role
  cases builtIn : role.isBuiltIn with
  | true =>
    rw [if_pos builtIn] at run
    refine (FailsCleanly.of_error_iff run).trans (iff_of_true (.refl _) fun trace => ?_)
    exact Bool.false_ne_true (trace.1.symm.trans builtIn)
  | false =>
    rw [if_neg (by simp [builtIn])] at run
    cases checked : role.checkScopes with
    | error e =>
      rw [checked] at run
      refine (FailsCleanly.of_error_iff run).trans (iff_of_true (.refl _) fun trace => ?_)
      exact nomatch trace.2.1.symm.trans checked
    | ok _ =>
      rw [checked] at run
      cases taken : a.store.roleElsewhere (a.store.roleNumber 0) role.name with
      | true =>
        have put := putRole_taken { role.normalize with id := ⟨0⟩ } taken
        simp only [put] at run
        refine (FailsCleanly.of_error_iff run).trans
          (iff_of_true (sameRecords_withoutNewRole a.store _) fun trace => ?_)
        exact Bool.false_ne_true (trace.2.2.1.symm.trans taken)
      | false =>
        cases told : a.store.canTell (a.store.roleNumber 0) with
        | true =>
          have put := putRole_told { role.normalize with id := ⟨0⟩ } taken told
          simp only [put] at run
          refine iff_of_true (.of_ok run) fun trace => ?_
          exact Bool.false_ne_true (trace.2.2.2.symm.trans told)
        | false =>
          have put := putRole_untold { role.normalize with id := ⟨0⟩ } taken told
          simp only [put] at run
          exact (FailsCleanly.of_error_iff run).trans
            (iff_of_false (not_sameRecords_withRole reached told _)
              (not_not.mpr ⟨builtIn, checked, taken, told⟩))

/-- An update that moves nothing fails before it stores anything. -/
theorem failsCleanly_changeRole_of_still (served : a.refused = []) (reached : a.store.Reached)
    {requested current : Role} {plan : RoleUpdate} (found : a.store.role requested.id = .ok current)
    (planned : current.planUpdate requested = .ok plan) (still : plan.move = none) :
    FailsCleanly (changeRole requested) a := by
  have run := changeRole_run served reached.distinct requested
  have told := reached.canTell_of_planUpdate found planned
  have followed : followMove none (a.called .roleOfId a.store) =
    .ok [] (a.called .roleOfId a.store) := rfl
  simp only [found, planned, still, followed, Accounts.store_called] at run
  cases taken : a.store.roleElsewhere (a.store.roleNumber plan.role.id.val) plan.role.name with
  | true =>
    rw [putRole_taken plan.role taken] at run
    exact (FailsCleanly.of_error_iff run).mpr (sameRecords_withoutNewRole a.store _)
  | false =>
    rw [putRole_told plan.role taken told] at run
    exact .of_ok run

/-- When the new name of a role turns out to be taken, base paths have followed its primary
scope. -/
theorem failsCleanly_changeRole_of_move (served : a.refused = []) (reached : a.store.Reached)
    {requested current : Role} {plan : RoleUpdate} {old new : Path}
    (found : a.store.role requested.id = .ok current)
    (planned : current.planUpdate requested = .ok plan) (move : plan.move = some (old, new)) :
    FailsCleanly (changeRole requested) a ↔
      ¬ (a.store.MovesBasePaths old new ∧
        a.store.roleElsewhere (a.store.roleNumber plan.role.id.val) plan.role.name = true) := by
  have distinct := reached.distinct
  have run := changeRole_run served distinct requested
  have told := reached.canTell_of_planUpdate found planned
  have followed := followMove_run (a := a.called .roleOfId a.store) served distinct old new
  rw [Accounts.store_called] at followed
  cases all : a.store.allUsers with
  | error e =>
    rw [all] at followed
    simp only [found, planned, move, followed] at run
    refine (FailsCleanly.of_error_iff run).trans (iff_of_true (.refl _) ?_)
    rintro ⟨⟨users, known, -⟩, -⟩
    exact nomatch known.symm.trans all
  | ok users =>
    rw [all] at followed
    simp only [found, planned, move, followed, Accounts.store_forgettingUsers,
      Accounts.store_called] at run
    cases taken : a.store.roleElsewhere (a.store.roleNumber plan.role.id.val) plan.role.name with
    | true =>
      rw [putRole_taken plan.role (by simpa using taken)] at run
      refine (FailsCleanly.of_error_iff run).trans ?_
      refine (sameRecords_withoutNewRole_iff a.store _ _).trans ?_
      rw [sameRecords_followUsers_iff distinct all]
      simp [MovesBasePaths, all]
    | false =>
      rw [putRole_told plan.role (by simpa using taken) (by simpa using told)] at run
      refine iff_of_true (.of_ok run) ?_
      rintro ⟨-, clash⟩
      contradiction

/-- Base paths may have followed when the new name of a role turns out to be taken. -/
theorem failsCleanly_changeRole_iff (served : a.refused = []) (reached : a.store.Reached)
    (requested : Role) :
    FailsCleanly (changeRole requested) a ↔
      ¬ (AccountChange.changeRole requested).LeavesTrace a.store := by
  have run := changeRole_run served reached.distinct requested
  cases found : a.store.role requested.id with
  | error e =>
    rw [found] at run
    refine (FailsCleanly.of_error_iff run).trans (iff_of_true (.refl _) ?_)
    rintro ⟨current, -, -, -, known, -⟩
    exact nomatch known.symm.trans found
  | ok current =>
    simp only [found] at run
    cases planned : current.planUpdate requested with
    | error e =>
      rw [planned] at run
      refine (FailsCleanly.of_error_iff run).trans (iff_of_true (.refl _) ?_)
      rintro ⟨other, plan, -, -, known, made, -⟩
      cases known.symm.trans found
      exact nomatch made.symm.trans planned
    | ok plan =>
      have id := Role.id_of_planUpdate planned
      have trace : (AccountChange.changeRole requested).LeavesTrace a.store ↔
          ∃ old new, plan.move = some (old, new) ∧ a.store.MovesBasePaths old new ∧
            a.store.roleElsewhere (a.store.roleNumber plan.role.id.val) plan.role.name =
              true := by
        simp [AccountChange.LeavesTrace, found, planned, id]
      rw [trace]
      cases move : plan.move with
      | none =>
        refine iff_of_true (failsCleanly_changeRole_of_still served reached found planned move) ?_
        rintro ⟨old, new, same, -⟩
        contradiction
      | some places =>
        obtain ⟨old, new⟩ := places
        refine (failsCleanly_changeRole_of_move served reached found planned move).trans ?_
        simp

/-- A role is deleted at last, so that no failure comes after it. -/
theorem failsCleanly_removeRole (served : a.refused = []) (id : RoleId) :
    FailsCleanly (removeRole id) a := by
  have run := removeRole_run served id
  cases found : a.store.role id with
  | error e =>
    rw [found] at run
    exact (FailsCleanly.of_error_iff run).mpr (.refl _)
  | ok role =>
    simp only [found] at run
    by_cases builtIn : role.isBuiltIn = true
    · rw [if_pos builtIn] at run
      exact (FailsCleanly.of_error_iff run).mpr (.refl _)
    · rw [if_neg builtIn, AccountStore.eraseRole_run] at run
      cases held : a.store.holdsRole id.val with
      | true =>
        rw [if_pos held] at run
        exact .of_ok run
      | false =>
        rw [if_neg (by simp [held])] at run
        exact (FailsCleanly.of_error_iff run).mpr (.refl _)

/-- In a store of records all scopes follow, or the first role that is to be stored is refused, since
its number asks for a new one. -/
theorem mapM_putRole_records (served : a.refused = []) (distinct : a.store.Distinct)
    {t : RecordStore} (store : a.store = records t) {moved : List Role}
    (inOrder : moved.Pairwise fun r s => r.id.val < s.id.val)
    (held : ∀ role ∈ moved, ∃ current, a.store.role role.id = .ok current ∧
      current.name = role.name) :
    let step (r : Role) : Accounting RoleId := do
      let role ← putRole r
      forgetRoles role.keys
      return role.id
    (∃ ids b, moved.mapM step a = .ok ids b ∧ b.refused = []) ∨
      ∃ e b, moved.mapM step a = .error e b ∧ a.store.SameRecords b.store := by
  intro step
  cases moved with
  | nil => exact .inl ⟨[], a, rfl, served⟩
  | cons role rest =>
    obtain ⟨current, found, named⟩ := held role List.mem_cons_self
    obtain ⟨later, -⟩ := List.pairwise_cons.mp inOrder
    have put := putRole_run served role
    cases taken : a.store.roleElsewhere (a.store.roleNumber role.id.val) role.name with
    | true =>
      rw [putRole_taken role taken] at put
      refine .inr ⟨.alreadyExists role.name, a.called .putRole (a.store.withoutNewRole role.id.val), ?_,
        sameRecords_withoutNewRole a.store role.id.val⟩
      rw [List.mapM_cons, bind_of_error (bind_of_error put)]
    | false =>
      -- a role that would take another number stands in its own way
      have number : a.store.roleNumber role.id.val = role.id.val := by
        by_contra differ
        have own := (roleName?_of_role found).trans (congrArg some named)
        rw [(roleElsewhere_iff _ _ _).mpr ⟨role.id.val, Ne.symm differ, own⟩] at taken
        contradiction
      have told : a.store.canTell (a.store.roleNumber role.id.val) = true := by
        rw [store]
        rfl
      rw [putRole_told role taken told, number] at put
      rw [number] at taken
      have heldAfter : ∀ other ∈ rest, 0 < other.id.val ∧ ∃ current,
          (a.store.withRole role.id.val role).role other.id = .ok current ∧
            current.name = other.name := by
        intro other among
        have above := later other among
        obtain ⟨before, known, same⟩ := held other (List.mem_cons_of_mem _ among)
        refine ⟨Nat.zero_lt_of_lt above, before, ?_, same⟩
        rw [role_withRole, if_neg (Nat.ne_of_gt above), known]
      obtain ⟨b, run, -, servedLast, -⟩ := mapM_putRole_run
        (a := (a.called .putRole (a.store.withRole role.id.val role)).forgettingRoles role.keys)
        served (distinct.withRole taken) heldAfter
      refine .inl ⟨role.id :: rest.map Role.id, b, ?_, servedLast⟩
      have first : step role a = .ok role.id
          ((a.called .putRole (a.store.withRole role.id.val role)).forgettingRoles role.keys) := by
        change (putRole role >>= _) a = _
        rw [bind_of_ok put]
        rfl
      rw [List.mapM_cons, bind_of_ok first, bind_of_ok run]
      rfl

/-- In a store of records all scopes follow, or nothing does. -/
theorem moveScopes_records (served : a.refused = []) (distinct : a.store.Distinct)
    {t : RecordStore} (store : a.store = records t) (old new : Path) :
    (∃ ids b, moveScopes old new a = .ok ids b ∧ b.refused = []) ∨
      ∃ e b, moveScopes old new a = .error e b ∧ a.store.SameRecords b.store := by
  have all : a.store.allRoles = .ok t.allRoles := by rw [store]; rfl
  have own : t.Distinct := by rwa [store] at distinct
  have listed : t.allRoles.Pairwise fun r s => r.id.val < s.id.val :=
    Roster.pairwise_values (fun r : Role => r.id.val) fun _ _ found =>
      congrArg RoleId.val (own.role_id found)
  have held : ∀ role ∈ scopeMoves t.allRoles old new, ∃ current,
      a.store.role role.id = .ok current ∧ current.name = role.name := by
    intro role present
    obtain ⟨before, among, rfl, -⟩ := mem_scopeMoves.mp present
    exact ⟨before, (mem_allRoles distinct all before).mp among, rfl⟩
  have inOrder : (scopeMoves t.allRoles old new).Pairwise fun r s => r.id.val < s.id.val := by
    refine List.Pairwise.filterMap _ (fun r s before r' follows s' goes => ?_) listed
    rw [Role.id_of_follow? follows, Role.id_of_follow? goes]
    exact before
  have asked := ask_run served .roleList (·.allRoles)
  rw [all] at asked
  rw [moveScopes, allRoles, bind_of_ok asked]
  exact mapM_putRole_records (a := a.called .roleList a.store) served distinct store inOrder held

theorem failsCleanly_moveScopes (served : a.refused = []) (reached : a.store.Reached)
    (old new : Path) : FailsCleanly (moveScopes old new) a := by
  rcases reached.inRange_or_records with inRange | ⟨t, store⟩
  · have run := moveScopes_run served inRange.sound old new
    cases all : a.store.allRoles with
    | error e =>
      rw [all] at run
      exact (FailsCleanly.of_error_iff run).mpr (.refl _)
    | ok roles =>
      rw [all] at run
      obtain ⟨b, run, -⟩ := run
      exact .of_ok run
  · rcases moveScopes_records served reached.distinct store old new with
      ⟨ids, b, run, -⟩ | ⟨e, b, run, same⟩
    · exact .of_ok run
    · exact (FailsCleanly.of_error_iff run).mpr same

/-- In a store of records base paths follow once scopes have. -/
theorem failsCleanly_movePath_records (served : a.refused = []) (distinct : a.store.Distinct)
    {t : RecordStore} (store : a.store = records t) (old new : Path) :
    FailsCleanly (movePath old new) a := by
  rcases moveScopes_records served distinct store old new with
    ⟨ids, b, run, servedAfter⟩ | ⟨e, b, run, same⟩
  · have kept : b.store.Distinct ∧ ∃ u, b.store = records u :=
      ((stable_distinct.and stable_records).keeps_moveScopes old new).of_ok
        ⟨distinct, t, store⟩ run
    obtain ⟨distinctAfter, u, storeAfter⟩ := kept
    have follows := followMove_run servedAfter distinctAfter old new
    rw [storeAfter] at follows
    intro e c failed
    rw [movePath, bind_of_ok run, bind_of_ok follows] at failed
    contradiction
  · exact (FailsCleanly.of_error_iff (bind_of_error run)).mpr same

/-- Scopes have followed when it turns out that a user cannot be read. -/
theorem failsCleanly_movePath_iff (served : a.refused = []) (reached : a.store.Reached)
    (old new : Path) :
    FailsCleanly (movePath old new) a ↔ ¬ (AccountChange.movePath old new).LeavesTrace a.store := by
  rcases reached.inRange_or_records with inRange | ⟨t, store⟩
  · have run := movePath_run served inRange.sound old new
    cases allRoles : a.store.allRoles with
    | error e =>
      rw [allRoles] at run
      refine (FailsCleanly.of_error_iff run).trans (iff_of_true (.refl _) ?_)
      rintro ⟨⟨roles, known, -⟩, -⟩
      exact nomatch known.symm.trans allRoles
    | ok roles =>
      simp only [allRoles] at run
      cases allUsers : a.store.allUsers with
      | error e =>
        rw [allUsers] at run
        obtain ⟨b, run, store⟩ := run
        refine (FailsCleanly.of_error_iff run).trans ?_
        rw [store, sameRecords_followRoles_iff reached.distinct allRoles]
        simp [AccountChange.LeavesTrace, MovesScopes, allRoles, allUsers]
      | ok users =>
        rw [allUsers] at run
        obtain ⟨b, run, -⟩ := run
        refine iff_of_true (.of_ok run) ?_
        rintro ⟨-, e, failed⟩
        exact nomatch failed.symm.trans allUsers
  · refine iff_of_true (failsCleanly_movePath_records served reached.distinct store old new) ?_
    rintro ⟨-, e, failed⟩
    rw [store] at failed
    contradiction

/-- A user who is added is stored in spite of the failure if their number cannot be told. -/
theorem failsCleanly_addUser_iff (served : a.refused = []) (reached : a.store.Reached) (user : User)
    (fits : user.id.val < idLimit) :
    FailsCleanly (addUser user) a ↔ ¬ (AccountChange.addUser user fits).LeavesTrace a.store := by
  have run := addUser_run served user
  cases taken : a.store.userElsewhere (a.store.userNumber user.id.val) user.username with
  | true =>
    have put := putUser_taken user.normalize taken
    simp only [put] at run
    refine (FailsCleanly.of_error_iff run).trans
      (iff_of_true (sameRecords_withoutNewUser a.store _) fun trace => ?_)
    exact Bool.false_ne_true (trace.1.symm.trans taken)
  | false =>
    cases told : a.store.canTell (a.store.userNumber user.id.val) with
    | true =>
      have put := putUser_told user.normalize taken told
      simp only [put] at run
      refine iff_of_true (.of_ok run) fun trace => ?_
      exact Bool.false_ne_true (trace.2.symm.trans told)
    | false =>
      have put := putUser_untold user.normalize taken told
      simp only [put] at run
      refine (FailsCleanly.of_error_iff run).trans
        (iff_of_false ?_ (not_not.mpr ⟨taken, told⟩))
      -- A number that was asked for has 32 bits, so this one is new.
      have new : user.id.val = 0 := by
        by_contra asked
        rw [a.store.userNumber_of_pos (Nat.pos_of_ne_zero asked), a.store.canTell_of_lt fits] at told
        contradiction
      rw [new] at told
      have added := not_sameRecords_withUser reached told user.normalize
      rw [← new] at added
      exact added

theorem failsCleanly_changeUser (served : a.refused = []) (reached : a.store.Reached)
    (requested : User) : FailsCleanly (changeUser requested) a := by
  rcases changeUser_run served requested with ⟨e, b, run, consults⟩ |
      ⟨current, b, found, consults, -, run⟩
  · refine (FailsCleanly.of_error_iff run).mpr ?_
    rw [consults.store]
    exact .refl _
  · have told := reached.canTell_userNumber found
    cases taken : a.store.userElsewhere (a.store.userNumber requested.id.val)
        requested.username with
    | true =>
      have put := putUser_taken requested.normalize taken
      simp only [put] at run
      exact (FailsCleanly.of_error_iff run).mpr (sameRecords_withoutNewUser a.store _)
    | false =>
      have put := putUser_told requested.normalize taken told
      simp only [put] at run
      exact .of_ok run

/-- A change that fails leaves every record as it was, exactly if it is none of those that leave a
trace. -/
theorem failure_keeps_records_iff (reached : a.store.Reached) (served : a.refused = [])
    (change : AccountChange) :
    (∀ e b, change.run a = .error e b → a.store.SameRecords b.store) ↔
      ¬ change.LeavesTrace a.store := by
  cases change with
  | addRole role =>
    exact FailsCleanly.discard_iff.trans (failsCleanly_addRole_iff served reached role)
  | changeRole requested =>
    exact FailsCleanly.discard_iff.trans (failsCleanly_changeRole_iff served reached requested)
  | removeRole id => exact iff_of_true (failsCleanly_removeRole served id) not_false
  | moveScopes old new =>
    exact iff_of_true (FailsCleanly.discard_iff.mpr (failsCleanly_moveScopes served reached old new))
      not_false
  | movePath old new =>
    exact FailsCleanly.discard_iff.trans (failsCleanly_movePath_iff served reached old new)
  | addUser user fits =>
    exact FailsCleanly.discard_iff.trans (failsCleanly_addUser_iff served reached user fits)
  | changeUser requested =>
    exact iff_of_true
      (FailsCleanly.discard_iff.mpr (failsCleanly_changeUser served reached requested)) not_false

/-- A store with a user at home in the scope of one role, and with another role beside it. -/
def sharedHome : AccountStore :=
  after (AccountStore.putUser ⟨⟨0⟩, "bob", "/old", [⟨3⟩], false, 0⟩)
    (after (AccountStore.putRole ⟨⟨0⟩, "other", "", [⟨"/other", .none⟩]⟩)
      (after (AccountStore.putRole ⟨⟨0⟩, "team", "", [⟨"/old", .none⟩]⟩) (records .empty)))

theorem reached_sharedHome : sharedHome.Reached :=
  .putUser _ (.putRole _ (.putRole _ .noRecords))

/-- The first role gets another place, and the name of the second. -/
def takeName : AccountChange := .changeRole ⟨⟨3⟩, "other", "", [⟨"/new", .none⟩]⟩

theorem failure_keeps_records_sharedHome :
    sharedHome.Reached ∧ (Accounts.new sharedHome 0 0).refused = [] ∧
      ((∀ e b, takeName.run (.new sharedHome 0 0) = .error e b → sharedHome.SameRecords b.store) ↔
        ¬ takeName.LeavesTrace sharedHome) :=
  ⟨reached_sharedHome, rfl, failure_keeps_records_iff reached_sharedHome rfl takeName⟩

/-- The name is refused, but the user has moved. -/
theorem refused_name_moves_base_path :
    sharedHome.Reached ∧ ∃ b,
      takeName.run (.new sharedHome 0 0) = .error (.alreadyExists "other") b ∧
      (sharedHome.user ⟨1⟩).map User.basePath = .ok "/old" ∧
      (b.store.user ⟨1⟩).map User.basePath = .ok "/new" ∧ ¬ sharedHome.SameRecords b.store := by
  refine ⟨reached_sharedHome, _, rfl, rfl, rfl, fun same => ?_⟩
  have kept := congrArg (fun users => (users.find? 1).map User.basePath) same.2
  exact absurd kept (by decide)

end Accounting

end StorageGateway
