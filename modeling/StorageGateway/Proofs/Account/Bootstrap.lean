import StorageGateway.Proofs.Account.BuiltIn

/-!
# Built-in roles and the roles before them

Whoever ensures the built-in roles gives each of them an id that is fixed beforehand. A store of
records never gives out these ids, whereas a store of rows gives them to the first roles that are
added, unless the built-in ones are already there. Such a role is overwritten by the built-in one.
Main statement: `bootstrapsSafely_iff`.
-/

namespace StorageGateway

/-- A role that may be added: its name is not protected and its scopes are sound. -/
structure Role.Admissible (role : Role) : Prop where
  ordinary : role.isBuiltIn = false
  allowed : role.checkScopes = .ok ()

/-- No admissible role is added before the built-in roles are ensured for the first time. -/
def BootstrapsFirst (requests : List AccountRequest) : Prop :=
  ∀ done role more, done ++ .change (.addRole role) :: more ++ [.ensureBuiltIns] <+: requests →
    role.Admissible → .ensureBuiltIns ∈ done

/-- Throughout a course of requests, whoever ensures the built-in roles leaves every other role as it
is and finds the built-in ones under their ids afterwards, and an id that was given to a new role is
never that of a built-in one. -/
structure BootstrapsSafely (a : Accounts) (requests : List AccountRequest) : Prop where
  unharmed : ∀ done, done ++ [.ensureBuiltIns] <+: requests →
    ∀ id role, (a.serve done).store.role id = .ok role → role.isBuiltIn = false →
      (a.serve (done ++ [.ensureBuiltIns])).store.role id = .ok role
  seated : ∀ done, done ++ [.ensureBuiltIns] <+: requests →
    ∀ builtIn : Role, builtIn.Preset →
      (a.serve (done ++ [.ensureBuiltIns])).store.Holds builtIn
  apart : ∀ done role more created, done ++ .change (.addRole role) :: more <+: requests →
    outcome (Accounting.addRole role) (a.serve done) = .ok created →
      ∀ found, (a.serve (done ++ .change (.addRole role) :: more)).store.role created.id = .ok found →
        found.isBuiltIn = false

/-- As long as the built-in roles are not ensured, no admissible role was added, if they are to be
ensured first. -/
theorem BootstrapsFirst.not_admissible {requests done : List AccountRequest}
    (first : BootstrapsFirst requests) (sub : done ++ [.ensureBuiltIns] <+: requests)
    (unensured : .ensureBuiltIns ∉ done) (role : Role)
    (present : .change (.addRole role) ∈ done) : ¬ role.Admissible := by
  intro admissible
  obtain ⟨before, between, rfl⟩ := List.append_of_mem present
  exact unensured (List.mem_append_left _ (first before role between sub admissible))

theorem Role.exists_preset {role : Role} (guarded : role.isBuiltIn = true) :
    ∃ builtIn : Role, builtIn.Preset ∧ role.name = builtIn.name := by
  rw [Role.isBuiltIn, isBuiltInName, Bool.or_eq_true, beq_iff_eq, beq_iff_eq] at guarded
  rcases guarded with named | named
  · exact ⟨.admin, .inr rfl, named⟩
  · exact ⟨.guest, .inl rfl, named⟩

namespace AccountStore

variable {s : AccountStore} {builtIn : Role}

/-- The id of a built-in role is not given out any more, and no other role has it. -/
structure SetsAside (s : AccountStore) (builtIn : Role) : Prop where
  past : builtIn.id.val < s.roleNumber 0
  own : ∀ name, s.roleName? builtIn.id.val = some name → name = builtIn.name

/-- An empty store of records sets the ids of the built-in roles aside. -/
theorem setsAside_noRecords (preset : builtIn.Preset) : (records .empty).SetsAside builtIn where
  past := by rcases preset with rfl | rfl <;> decide
  own _ named := by contradiction

/-- A built-in role that is stored has its id for itself. -/
theorem Holds.setsAside (holds : s.Holds builtIn) (sound : s.Sound) : s.SetsAside builtIn := by
  obtain ⟨role, found, named⟩ := holds
  refine ⟨sound.role_below found, fun name also => ?_⟩
  rw [roleName?_of_role found] at also
  exact (Option.some.inj also).symm.trans named

/-- An ordinary role does not have an id that is set aside. -/
theorem SetsAside.id_ne (aside : s.SetsAside builtIn) (preset : builtIn.Preset) {id : RoleId}
    {role : Role} (found : s.role id = .ok role) (ordinary : role.isBuiltIn = false) :
    id ≠ builtIn.id := by
  rintro rfl
  exact preset.name_ne ordinary (aside.own _ (roleName?_of_role found))

/-- The tables hold no role, and none has been added yet. -/
abbrev Blank (s : AccountStore) : Prop := s.SameRoles (.rows .empty)

namespace Blank

theorem role_ne (blank : s.Blank) (id : RoleId) (role : Role) : s.role id ≠ .ok role := by
  rw [blank.role]
  exact fun found => by contradiction

theorem roleElsewhere (blank : s.Blank) (n : Nat) (name : String) :
    s.roleElsewhere n name = false := by
  rw [← Bool.not_eq_true, roleElsewhere_iff]
  rintro ⟨m, -, named⟩
  rw [blank.roleName?] at named
  contradiction

theorem followRoles (blank : s.Blank) (old new : Path) : (s.followRoles old new).Blank := by
  cases blank
  exact .rows

theorem withoutNewRole (blank : s.Blank) (wanted : Nat) : (s.withoutNewRole wanted).Blank := by
  cases blank
  exact .rows

end Blank

end AccountStore

namespace Accounts.RolesGo

open AccountStore

variable {a b : Accounts} {request : AccountRequest} {builtIn : Role}

/-- Numbers are given out in order. -/
theorem roleNumber_le (go : a.RolesGo b request) (sound : a.store.Sound) :
    a.store.roleNumber 0 ≤ b.store.roleNumber 0 := by
  cases go with
  | stay same _ => exact Nat.le_of_eq (same.roleNumber 0).symm
  | refuse room stored _ => exact stored ▸ le_roleNumber_withoutNewRole room
  | add _ room _ _ stored _ => exact stored ▸ le_roleNumber_withRole _ room
  | change found planned stored _ =>
    have room := sound.numbered.hasRoleRoom found
    rw [← (sound.distinct.of_role found).1, ← Role.id_of_planUpdate planned] at room
    exact stored ▸ le_roleNumber_withRole _ room
  | ensure preset _ stored _ =>
    exact stored ▸ le_roleNumber_withRole _ (a.store.hasRoleRoom_of_pos preset.positive preset.small)
  | erase _ _ stored _ => rw [stored, roleNumber_withoutRole]
  | follow _ _ stored _ => rw [stored, roleNumber_followRoles]

/-- An id that is set aside stays so. -/
theorem setsAside (go : a.RolesGo b request) (sound : a.store.Sound) (preset : builtIn.Preset)
    (aside : a.store.SetsAside builtIn) : b.store.SetsAside builtIn := by
  refine ⟨Nat.lt_of_lt_of_le aside.past (go.roleNumber_le sound), fun name named => ?_⟩
  cases go with
  | stay same _ => exact aside.own name (same.roleName? _ ▸ named)
  | refuse _ stored _ =>
    rw [stored, roleName?_withoutNewRole] at named
    exact aside.own name named
  | add _ _ _ _ stored _ =>
    rw [stored, roleName?_withRole, if_neg (Nat.ne_of_lt aside.past)] at named
    exact aside.own name named
  | @change requested current plan found planned stored _ =>
    rw [stored, roleName?_withRole] at named
    split at named
    · next here =>
      cases named
      -- the role that is changed is the built-in one, so it keeps its name
      have was := aside.own current.name (here ▸ roleName?_of_role found)
      rcases Role.name_of_planUpdate planned with still | ⟨-, ordinary⟩
      · exact still.trans was
      · exact absurd was (preset.name_ne ordinary)
    · exact aside.own name named
  | ensure also _ stored _ =>
    rw [stored, roleName?_withRole] at named
    split at named
    · next here =>
      cases named
      rw [preset.eq_of_id also (congrArg RoleId.mk here)]
    · exact aside.own name named
  | erase _ _ stored _ =>
    rw [stored, roleName?_withoutRole] at named
    split at named
    · contradiction
    · exact aside.own name named
  | follow _ _ stored _ =>
    rw [stored, roleName?_followRoles] at named
    exact aside.own name named

/-- To ensure the built-in roles leaves those that have other ids. -/
theorem role_of_ensure (go : a.RolesGo b .ensureBuiltIns) {id : RoleId}
    (differs : ∀ builtIn : Role, builtIn.Preset → id ≠ builtIn.id) :
    b.store.role id = a.store.role id := by
  cases go with
  | stay same _ => exact same.role id
  | refuse _ stored _ => rw [stored, role_withoutNewRole]
  | @ensure builtIn preset _ stored _ =>
    rw [stored, role_withRole, if_neg]
    exact fun same => differs builtIn preset (congrArg RoleId.mk same)
  | follow moves _ _ _ => rcases moves with same | same <;> contradiction

/-- Blank tables stay blank until a role is added or the built-in ones are ensured. -/
theorem blank (go : a.RolesGo b request) (blank : a.store.Blank)
    (others : request ≠ .ensureBuiltIns)
    (none : ∀ role, request = .change (.addRole role) → ¬ role.Admissible) : b.store.Blank := by
  cases go with
  | stay same _ => exact same.trans blank
  | refuse _ stored _ => exact stored ▸ blank.withoutNewRole _
  | add _ _ ordinary allowed _ _ => exact absurd ⟨ordinary, allowed⟩ (none _ rfl)
  | change found _ _ _ => exact absurd found (blank.role_ne _ _)
  | ensure _ _ _ _ => contradiction
  | erase found _ _ _ => exact absurd found (blank.role_ne _ _)
  | follow _ _ stored _ => exact stored ▸ blank.followRoles _ _

end Accounts.RolesGo

namespace Accounting

open Accounts AccountStore

variable {a : Accounts} {role : Role}

/-! ## New roles -/

/-- An admissible role gets the next number, unless its name is taken or the number cannot be told. -/
theorem outcome_addRole (served : a.refused = []) (admissible : role.Admissible) :
    outcome (addRole role) a =
      if a.store.roleElsewhere (a.store.roleNumber 0) role.name then
        .error (.alreadyExists role.name)
      else if a.store.canTell (a.store.roleNumber 0) then
        .ok { role.normalize with id := ⟨a.store.roleNumber 0⟩ }
      else .error .store := by
  let fresh : Role := { role.normalize with id := ⟨0⟩ }
  rw [outcome, addRole_run served, admissible.ordinary, admissible.allowed]
  dsimp only
  cases taken : a.store.roleElsewhere (a.store.roleNumber 0) role.name with
  | true =>
    rw [putRole_taken fresh taken]
    rfl
  | false =>
    cases told : a.store.canTell (a.store.roleNumber 0) with
    | true =>
      rw [putRole_told fresh taken told]
      rfl
    | false =>
      rw [putRole_untold fresh taken told]
      rfl

theorem admissible_of_addRole (served : a.refused = []) {created : Role}
    (run : outcome (addRole role) a = .ok created) : role.Admissible := by
  rw [outcome, addRole_run served] at run
  cases ordinary : role.isBuiltIn with
  | true =>
    rw [ordinary] at run
    contradiction
  | false =>
    cases allowed : role.checkScopes with
    | error e =>
      rw [ordinary, allowed] at run
      contradiction
    | ok _ => exact ⟨ordinary, allowed⟩

theorem id_of_addRole (served : a.refused = []) {created : Role}
    (run : outcome (addRole role) a = .ok created) : created.id.val = a.store.roleNumber 0 := by
  rw [outcome_addRole served (admissible_of_addRole served run)] at run
  split at run
  · contradiction
  · split at run
    · rw [← Except.ok.inj run]
    · contradiction

/-- In blank tables an admissible role gets the id of the guest role. -/
theorem addRole_of_blank (served : a.refused = []) (blank : a.store.Blank)
    (admissible : role.Admissible) :
    ∃ created, outcome (addRole role) a = .ok created ∧ created.id = .guest := by
  have next : a.store.roleNumber 0 = 1 := blank.roleNumber 0
  refine ⟨{ role.normalize with id := .guest }, ?_, rfl⟩
  rw [outcome_addRole served admissible, blank.roleElsewhere, next,
    a.store.canTell_of_lt (by decide)]
  rfl

/-! ## Courses of requests -/

theorem orderly_serve (start : a.refused = [] ∧ a.store.Sound ∧ a.store.Orderly)
    {requests : List AccountRequest} (inRange : a.InRange requests) :
    (a.serve requests).refused = [] ∧ (a.serve requests).store.Sound ∧
      (a.serve requests).store.Orderly :=
  serve_of_rolesGo (P := fun a => a.store.Orderly) inRange (fun _ _ _ go => go.orderly) start

/-- Once the built-in roles are ensured, they are in their places. -/
theorem holds_of_ensured (start : a.refused = [] ∧ a.store.Sound ∧ a.store.Orderly)
    {done : List AccountRequest} (inRange : a.InRange done) {builtIn : Role}
    (preset : builtIn.Preset) : (a.serve (done ++ [.ensureBuiltIns])).store.Holds builtIn := by
  obtain ⟨served, sound, orderly⟩ := orderly_serve start inRange
  obtain ⟨b, run, holds⟩ := ensureBuiltIns_ok served sound orderly
  rw [serve_append]
  change (after ensureBuiltIns (a.serve done)).store.Holds builtIn
  rw [after_of_ok run]
  exact holds builtIn preset

/-- From then on their ids are set aside. -/
theorem setsAside_of_ensured (start : a.refused = [] ∧ a.store.Sound ∧ a.store.Orderly)
    {requests : List AccountRequest} (inRange : a.InRange requests)
    (ensured : .ensureBuiltIns ∈ requests) {builtIn : Role} (preset : builtIn.Preset) :
    (a.serve requests).store.SetsAside builtIn := by
  obtain ⟨before, later, rfl⟩ := List.append_of_mem ensured
  rw [List.append_cons] at inRange ⊢
  obtain ⟨first, next⟩ := throughout_append.mp inRange
  obtain ⟨served, sound, -⟩ := orderly_serve start first
  have holds := holds_of_ensured start (throughout_append.mp first).1 preset
  rw [serve_append]
  exact (serve_of_rolesGo (P := fun a => a.store.SetsAside builtIn) next
    (fun _ sound _ go => go.setsAside sound preset) ⟨served, sound, holds.setsAside sound⟩).2.2

/-- While the ids are set aside, to ensure the built-in roles leaves every other role. -/
theorem role_of_setsAside (served : a.refused = []) (sound : a.store.Sound)
    (aside : ∀ builtIn : Role, builtIn.Preset → a.store.SetsAside builtIn) {id : RoleId}
    (found : a.store.role id = .ok role) (ordinary : role.isBuiltIn = false) :
    (after ensureBuiltIns a).store.role id = .ok role := by
  have course := keeps_stepsTo_ensureBuiltIns a ⟨served, sound, .refl⟩
  refine course.induction (P := fun b => b.store.role id = .ok role) sound found ?_
  intro b c _ next known
  exact (next.roles.role_of_ensure fun builtIn preset =>
    (aside builtIn preset).id_ne preset found ordinary).trans known

/-- A role that is added while the ids are set aside leaves its id to no built-in role. -/
theorem ordinary_of_setsAside (start : a.refused = [] ∧ a.store.Sound ∧ a.store.Orderly)
    {done more : List AccountRequest} (inRange : a.InRange (done ++ .change (.addRole role) :: more))
    {created found : Role}
    (aside : ∀ builtIn : Role, builtIn.Preset → (a.serve done).store.SetsAside builtIn)
    (run : outcome (addRole role) (a.serve done) = .ok created)
    (known : (a.serve (done ++ .change (.addRole role) :: more)).store.role created.id = .ok found) :
    found.isBuiltIn = false := by
  by_contra guarded
  obtain ⟨builtIn, preset, named⟩ := Role.exists_preset (eq_true_of_ne_false guarded)
  obtain ⟨-, -, orderly⟩ := orderly_serve start inRange
  have own : created.id.val = builtIn.id.val :=
    orderly.reserves preset ((roleName?_of_role known).trans (congrArg some named))
  have next := id_of_addRole (orderly_serve start (throughout_append.mp inRange).1).1 run
  exact Nat.ne_of_lt (aside builtIn preset).past (own.symm.trans next)

/-- Tables stay blank as long as no admissible role is added and no built-in one ensured. -/
theorem blank_serve (start : a.refused = [] ∧ a.store.Sound ∧ a.store.Blank)
    {requests : List AccountRequest} (inRange : a.InRange requests)
    (unensured : .ensureBuiltIns ∉ requests)
    (none : ∀ role, .change (.addRole role) ∈ requests → ¬ role.Admissible) :
    (a.serve requests).store.Blank :=
  (serve_of_rolesGo (P := fun a => a.store.Blank) inRange
    (fun present _ _ go blank => go.blank blank (fun same => unensured (same ▸ present))
      fun role same => none role (same ▸ present)) start).2.2

/-- Until the built-in roles are ensured, all roles are ordinary. -/
theorem ordinary_of_unensured (start : a.refused = [] ∧ a.store.Sound ∧ a.store.Blank)
    {requests : List AccountRequest} (inRange : a.InRange requests)
    (unensured : .ensureBuiltIns ∉ requests) {id : RoleId}
    (known : (a.serve requests).store.role id = .ok role) : role.isBuiltIn = false := by
  by_contra guarded
  obtain ⟨builtIn, preset, named⟩ := Role.exists_preset (eq_true_of_ne_false guarded)
  obtain ⟨served, sound, blank⟩ := start
  have none : ∀ n, (a.serve requests).store.roleName? n ≠ some builtIn.name := by
    refine (serve_of_rolesGo (P := fun a => ∀ n, a.store.roleName? n ≠ some builtIn.name) inRange
      (fun present _ _ go none n named => ?_) ⟨served, sound, fun n named => ?_⟩).2.2
    · rcases go.named_before preset named with before | ⟨ensures, -⟩
      · exact none n before
      · exact unensured (ensures ▸ present)
    · rw [blank.roleName?] at named
      contradiction
  exact none id.val ((roleName?_of_role known).trans (congrArg some named))

/-! ## Both kinds of stores -/

/-- In a new store of records the order of the requests does not matter. -/
theorem bootstrapsSafely_records (roleLifetime userLifetime : Nat) {requests : List AccountRequest}
    (inRange : (Accounts.new (records .empty) roleLifetime userLifetime).InRange requests) :
    BootstrapsSafely (.new (records .empty) roleLifetime userLifetime) requests := by
  let a := Accounts.new (records .empty) roleLifetime userLifetime
  have start : a.refused = [] ∧ a.store.Sound ∧ a.store.Orderly :=
    ⟨rfl, sound_noRecords, orderly_noRecords⟩
  have aside : ∀ done, a.InRange done → ∀ builtIn : Role, builtIn.Preset →
      (a.serve done).store.SetsAside builtIn :=
    fun done inRange builtIn preset =>
      (serve_of_rolesGo (P := fun a => a.store.SetsAside builtIn) inRange
        (fun _ sound _ go => go.setsAside sound preset)
        ⟨rfl, sound_noRecords, setsAside_noRecords preset⟩).2.2
  refine ⟨fun done sub id role found ordinary => ?_,
    fun done sub _ => holds_of_ensured start (throughout_append.mp (inRange.of_prefix sub)).1,
    fun done _ _ _ sub run _ => ?_⟩
  · have before := (throughout_append.mp (inRange.of_prefix sub)).1
    obtain ⟨served, sound, -⟩ := orderly_serve start before
    rw [serve_append]
    exact role_of_setsAside served sound (aside done before) found ordinary
  · have all := inRange.of_prefix sub
    exact ordinary_of_setsAside start all (aside done (throughout_append.mp all).1) run

/-- In a new store of rows the built-in roles have to be ensured first. Rows are numbered without
end. -/
theorem bootstrapsSafely_rows_iff (roleLifetime userLifetime : Nat) {requests : List AccountRequest}
    (inRange : (Accounts.new (rows .empty) roleLifetime userLifetime).InRange requests) :
    BootstrapsSafely (.new (rows .empty) roleLifetime userLifetime) requests ↔
      BootstrapsFirst requests := by
  let a := Accounts.new (rows .empty) roleLifetime userLifetime
  have blank : a.refused = [] ∧ a.store.Sound ∧ a.store.Blank := ⟨rfl, sound_noRows, .rows⟩
  have start : a.refused = [] ∧ a.store.Sound ∧ a.store.Orderly := ⟨rfl, sound_noRows, orderly_noRows⟩
  constructor
  · intro safe done
    -- the first admissible role of the course gets the id that the guest role takes later
    induction length : done.length using Nat.strong_induction_on generalizing done with
    | _ n ih =>
      intro role more sub admissible
      by_contra unensured
      by_cases earlier : ∃ other, .change (.addRole other) ∈ done ∧ other.Admissible
      · obtain ⟨other, present, fits⟩ := earlier
        obtain ⟨before, between, rfl⟩ := List.append_of_mem present
        refine unensured (List.mem_append_left _ (ih before.length ?_ before rfl other
          (between ++ .change (.addRole role) :: more) ?_ fits))
        · rw [← length]
          simp
        · simpa using sub
      · have none : ∀ other, .change (.addRole other) ∈ done → ¬ other.Admissible :=
          fun other present fits => earlier ⟨other, present, fits⟩
        have all := (throughout_append.mp (inRange.of_prefix sub)).1
        have early := (throughout_append.mp all).1
        obtain ⟨created, run, own⟩ := addRole_of_blank (orderly_serve start early).1
          (blank_serve blank early unensured none) admissible
        obtain ⟨guest, found, named⟩ := holds_of_ensured start all (.inl rfl)
        have guarded : guest.isBuiltIn = true := by
          rw [Role.isBuiltIn, named]
          rfl
        rw [List.append_assoc, List.cons_append] at sub found
        have ordinary := safe.apart done role _ created sub run guest (own ▸ found)
        exact Bool.false_ne_true (ordinary.symm.trans guarded)
  · intro first
    refine ⟨fun done sub id role found ordinary => ?_,
      fun done sub _ => holds_of_ensured start (throughout_append.mp (inRange.of_prefix sub)).1,
      fun done role more created sub run found known => ?_⟩
    · have early := (throughout_append.mp (inRange.of_prefix sub)).1
      by_cases ensured : .ensureBuiltIns ∈ done
      · obtain ⟨served, sound, -⟩ := orderly_serve start early
        rw [serve_append]
        exact role_of_setsAside served sound (fun _ => setsAside_of_ensured start early ensured)
          found ordinary
      · have blank := blank_serve blank early ensured (first.not_admissible sub ensured)
        exact absurd found (blank.role_ne id role)
    · have all := inRange.of_prefix sub
      have early := (throughout_append.mp all).1
      by_cases ensured : .ensureBuiltIns ∈ done
      · exact ordinary_of_setsAside start all (fun _ => setsAside_of_ensured start early ensured) run
          known
      · refine ordinary_of_unensured blank all (fun later => ?_) known
        rcases List.mem_append.mp later with before | after
        · exact ensured before
        · rcases List.mem_cons.mp after with same | after
          · contradiction
          · obtain ⟨between, rest, rfl⟩ := List.append_of_mem after
            refine ensured (first done role between (List.IsPrefix.trans ⟨rest, ?_⟩ sub)
              (admissible_of_addRole (orderly_serve start early).1 run))
            simp

/-- In a new store the built-in roles do not harm the others, whatever requests follow one another
before a count of numbers comes round, exactly if it is a store of records, or no admissible role is
added before they are ensured for the first time. -/
theorem bootstrapsSafely_iff {store : AccountStore}
    (fresh : store = .records .empty ∨ store = .rows .empty) (roleLifetime userLifetime : Nat)
    {requests : List AccountRequest}
    (inRange : (Accounts.new store roleLifetime userLifetime).InRange requests) :
    BootstrapsSafely (.new store roleLifetime userLifetime) requests ↔
      store = .records .empty ∨ BootstrapsFirst requests := by
  rcases fresh with rfl | rfl
  · exact iff_of_true (bootstrapsSafely_records _ _ inRange) (.inl rfl)
  · rw [bootstrapsSafely_rows_iff _ _ inRange, or_iff_right]
    exact AccountStore.noConfusion

/-- A role of its own that asks for no id. -/
def team : Role := ⟨⟨0⟩, "team", "", [⟨"/t", .none⟩]⟩

/-- The team is there before the built-in roles are. -/
def teamFirst : List AccountRequest := [.change (.addRole team), .ensureBuiltIns]

theorem bootstrapsSafely_iff_teamFirst :
    (rows .empty = records .empty ∨ rows .empty = rows .empty) ∧
      (Accounts.new (rows .empty) 60 60).InRange teamFirst ∧
      (BootstrapsSafely (.new (rows .empty) 60 60) teamFirst ↔
        rows .empty = records .empty ∨ BootstrapsFirst teamFirst) :=
  ⟨.inr rfl, by decide, bootstrapsSafely_iff (.inr rfl) 60 60 (by decide)⟩

/-- The guest role takes the place of the team. -/
theorem guest_overwrites_team :
    let start := Accounts.new (rows .empty) 60 60
    outcome (addRole team) start = .ok { team with id := .guest } ∧
      (start.serve [.change (.addRole team)]).store.role .guest = .ok { team with id := .guest } ∧
      (start.serve teamFirst).store.role .guest = .ok .guest ∧
      (start.serve teamFirst).store.roleNamed "team" = .error (.roleNotFound "team") ∧
      ¬ BootstrapsSafely start teamFirst := by
  intro start
  have added : (start.serve [.change (.addRole team)]).store = (rows .empty).withRole 1 team := rfl
  have ensured : (start.serve teamFirst).store =
      (((rows .empty).withRole 1 team).withRole 1 .guest).withRole 2 .admin := rfl
  have before : (start.serve [.change (.addRole team)]).store.role .guest =
      .ok { team with id := .guest } := by
    rw [added, role_withRole]
    rfl
  have later : (start.serve teamFirst).store.role .guest = .ok .guest := by
    rw [ensured, role_withRole, if_neg (by decide), role_withRole]
    rfl
  refine ⟨rfl, before, later, rfl, fun safe => ?_⟩
  have kept := safe.unharmed [.change (.addRole team)] List.prefix_rfl .guest _ before (by decide)
  have same := kept.symm.trans later
  exact absurd (Except.ok.inj same) (by decide)

end Accounting

end StorageGateway
