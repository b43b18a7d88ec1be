import StorageGateway.Account.Cascade

/-!
# Records that follow a path

When `old` becomes `new`, the text of a path at `old` or beneath it becomes `followedText` of it,
and every other text stays. Base paths and scopes both follow in this way, so that each kind of
move is a change of records by one function. Main statements: `basePathMove?_eq` and `follow?_eq`.
-/

namespace StorageGateway

/-- The text of a base path after `old` has become `new`. A text that names the same path as before
stays as it was entered. -/
def followedText (text : String) (old new : Path) : String :=
  match (Path.ofText text).follow? old new with
  | some target => if target = Path.ofText text then text else target.text
  | none => text

/-- The path of a text that follows is the path that follows. -/
theorem ofText_followedText (text : String) (old new : Path) :
    Path.ofText (followedText text old new) =
      ((Path.ofText text).follow? old new).getD (Path.ofText text) := by
  rw [followedText]
  split
  · next target moved =>
    rw [moved, Option.getD_some]
    split
    · next stays => exact stays.symm
    · rw [Path.ofText_text]
  · next stays => rw [stays, Option.getD_none]

/-- A text is changed exactly if it names another path afterwards. -/
theorem followedText_eq_self_iff (text : String) (old new : Path) :
    followedText text old new = text ↔
      Path.ofText (followedText text old new) = Path.ofText text := by
  refine ⟨fun same => by rw [same], fun same => ?_⟩
  rw [ofText_followedText] at same
  rw [followedText]
  split
  · next target moved =>
    rw [moved, Option.getD_some] at same
    rw [if_pos same]
  · rfl

namespace User

/-- The user after `old` has become `new`. -/
def follow (u : User) (old new : Path) : User :=
  { u with basePath := followedText u.basePath old new }

/-- The base path of a user moves exactly if its text changes. -/
theorem basePathMove?_eq (u : User) (old new : Path) :
    u.basePathMove? old new =
      if followedText u.basePath old new = u.basePath then none
      else some {
        userId := u.id, username := u.username, source := .ofText u.basePath
        target := .ofText (followedText u.basePath old new) } := by
  simp only [followedText_eq_self_iff, ofText_followedText, basePathMove?]
  cases (Path.ofText u.basePath).follow? old new with
  | none => simp
  | some target => simp

theorem follow_eq_self_iff (u : User) (old new : Path) :
    u.follow old new = u ↔ u.basePathMove? old new = none := by
  rw [basePathMove?_eq, follow]
  cases u
  simp

/-- A move sets the base path to the text that follows. -/
theorem target_of_basePathMove? {u : User} {old new : Path} {move : BasePathMove}
    (moves : u.basePathMove? old new = some move) :
    move.userId = u.id ∧ move.username = u.username ∧
      move.target.text = followedText u.basePath old new := by
  rw [basePathMove?_eq] at moves
  split at moves
  · contradiction
  · next changed =>
    cases moves
    refine ⟨rfl, rfl, ?_⟩
    rw [followedText] at changed ⊢
    split at changed
    · next target moved =>
      split at changed
      · exact absurd rfl changed
      · next leaves => simp only [if_neg leaves, Path.ofText_text]
    · exact absurd rfl changed

end User

namespace Role

/-- The role after `old` has become `new`. -/
def follow (r : Role) (old new : Path) : Role :=
  { r with scopes := r.scopes.map fun s => s.follow old new }

/-- A role is to be changed exactly if one of its scopes changes. -/
theorem follow?_eq (r : Role) (old new : Path) :
    r.follow? old new = if r.follow old new = r then none else some (r.follow old new) := by
  have same : (r.scopes.map fun s => s.follow old new) = r.scopes ↔ r.follow old new = r := by
    rw [follow]
    cases r
    simp
  simp only [follow?, ← same]
  rfl

theorem id_of_follow? {r s : Role} {old new : Path} (follows : r.follow? old new = some s) :
    s.id = r.id := by
  rw [follow?_eq] at follows
  split at follows
  · contradiction
  · cases follows
    rfl

theorem planUpdate_of_checkRename {current requested : Role} {e : AccountError}
    (refused : current.checkRename requested = .error e) :
    current.planUpdate requested = .error e := by
  rw [planUpdate, refused]
  rfl

/-- An update is worked out from the two states of the role alone. -/
theorem eq_of_planUpdate {current requested : Role} {plan : RoleUpdate}
    (planned : current.planUpdate requested = .ok plan) :
    let role := { requested with id := current.id }.normalize
    plan = {
      role
      move := current.primaryMove? role
      stale := [.id role.id, .name current.name] ++
        if role.name = current.name then [] else [.name role.name] } := by
  rw [planUpdate] at planned
  cases allowed : current.checkRename requested with
  | error e =>
    rw [allowed] at planned
    contradiction
  | ok _ =>
    cases checked : requested.checkScopes with
    | error e =>
      rw [allowed, checked] at planned
      contradiction
    | ok _ =>
      rw [allowed, checked] at planned
      cases planned
      rfl

/-- What an update stores is what was requested, with clean scopes and the id of the role. -/
theorem role_of_planUpdate {current requested : Role} {plan : RoleUpdate}
    (planned : current.planUpdate requested = .ok plan) :
    plan.role = { requested with id := current.id }.normalize := by
  rw [eq_of_planUpdate planned]

/-- An update stores a role under the id that it had. -/
theorem id_of_planUpdate {current requested : Role} {plan : RoleUpdate}
    (planned : current.planUpdate requested = .ok plan) : plan.role.id = current.id := by
  rw [role_of_planUpdate planned]
  rfl

/-- The role is looked up anew under its id. -/
theorem id_mem_stale {current requested : Role} {plan : RoleUpdate}
    (planned : current.planUpdate requested = .ok plan) : .id plan.role.id ∈ plan.stale := by
  rw [eq_of_planUpdate planned]
  exact List.mem_cons_self

/-- The role is looked up anew under both of its former keys. -/
theorem mem_stale_of_mem_keys {current requested : Role} {plan : RoleUpdate}
    (planned : current.planUpdate requested = .ok plan) :
    ∀ key ∈ current.keys, key ∈ plan.stale := by
  intro key own
  rw [eq_of_planUpdate planned]
  exact List.mem_append_left _ own

/-- An update renames a role only if neither name is that of a built-in role. -/
theorem name_of_planUpdate {current requested : Role} {plan : RoleUpdate}
    (planned : current.planUpdate requested = .ok plan) :
    plan.role.name = current.name ∨
      plan.role.isBuiltIn = false ∧ current.isBuiltIn = false := by
  rw [role_of_planUpdate planned]
  rw [planUpdate] at planned
  cases allowed : current.checkRename requested with
  | error e =>
    rw [allowed] at planned
    contradiction
  | ok _ =>
    rw [checkRename] at allowed
    split at allowed
    · next visitor =>
      split at allowed
      · next still => exact .inl (still.trans visitor.symm)
      · contradiction
    · split at allowed
      · contradiction
      · next ordinary =>
        split at allowed
        · contradiction
        · next free =>
          exact .inr ⟨eq_false_of_ne_true free, eq_false_of_ne_true ordinary⟩

end Role

theorem mem_scopeMoves {roles : List Role} {old new : Path} {role : Role} :
    role ∈ scopeMoves roles old new ↔
      ∃ before ∈ roles, before.follow old new = role ∧ role ≠ before := by
  rw [scopeMoves, List.mem_filterMap]
  refine exists_congr fun before => and_congr_right fun _ => ?_
  rw [Role.follow?_eq]
  split
  · next still =>
    rw [still]
    simp [eq_comm]
  · next moves =>
    rw [Option.some.injEq]
    exact ⟨fun same => ⟨same, same ▸ moves⟩, And.left⟩

theorem scopeMoves_eq_nil_iff {roles : List Role} {old new : Path} :
    scopeMoves roles old new = [] ↔ ∀ role ∈ roles, role.follow old new = role := by
  rw [scopeMoves, List.filterMap_eq_nil_iff]
  refine forall₂_congr fun role _ => ?_
  rw [Role.follow?_eq]
  split <;> simp_all

end StorageGateway
