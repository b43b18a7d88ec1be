import StorageGateway.Proofs.Account.SameAnswers

/-!
# What was stored is told again

A role or a user who was accepted is told as they were stored, under the id that the store answered
with and by their name, until a later request writes them. Whatever else is stored, deleted, moved or
refused in the meantime, and whatever texts others have put into other rows, has no say in it. Main
statements: `role_after`, `user_after` and `reads_back`.
-/

namespace StorageGateway

/-- The text of no scopes is empty, and no other is. -/
theorem scopesText_eq_empty_iff {scopes : List Scope} : scopesText scopes = "" ↔ scopes = [] := by
  rw [scopesText]
  split
  · next none => exact iff_of_true rfl none
  · next some =>
    refine iff_of_false (fun empty => ?_) some
    have letters := congrArg String.toList empty
    rw [String.toList_ofList] at letters
    contradiction

namespace StoreRequest

/-- The request stores a role under the id or deletes it. -/
def WritesRole (id : RoleId) : StoreRequest → AccountStore → Prop
  | .putRole r, s => (outcome (AccountStore.putRole r) s).toOption.map Role.id = some id
  | .eraseRole other, _ => other = id
  | _, _ => False

/-- The request stores a user under the id of `user`, or the base path of `user` moves. -/
def WritesUser (user : User) : StoreRequest → AccountStore → Prop
  | .putUser other, s =>
    (outcome (AccountStore.putUser other) s).toOption.map User.id = some user.id
  | .moveBasePaths old new, s =>
    user.username ∈ (outcome (AccountStore.moveBasePaths old new) s).toOption.getD []
  | _, _ => False

instance (id : RoleId) :
    (request : StoreRequest) → (s : AccountStore) → Decidable (request.WritesRole id s)
  | .putRole _, _ => inferInstanceAs (Decidable (_ = _))
  | .eraseRole _, _ => inferInstanceAs (Decidable (_ = _))
  | .role _, _ | .roleNamed _, _ | .allRoles, _ | .user _, _ | .userNamed _, _ | .allUsers, _
  | .putUser _, _ | .moveBasePaths _ _, _ | .rolesOf _, _ => .isFalse not_false

instance (user : User) :
    (request : StoreRequest) → (s : AccountStore) → Decidable (request.WritesUser user s)
  | .putUser _, _ => inferInstanceAs (Decidable (_ = _))
  | .moveBasePaths _ _, _ => inferInstanceAs (Decidable (_ ∈ _))
  | .role _, _ | .roleNamed _, _ | .allRoles, _ | .putRole _, _ | .eraseRole _, _ | .user _, _
  | .userNamed _, _ | .allUsers, _ | .rolesOf _, _ => .isFalse not_false

end StoreRequest

namespace AccountStore

variable {s t : AccountStore} {request : StoreRequest} {role stored : Role} {user : User}

/-! ## One request -/

/-- A request that does not write a role leaves it. -/
theorem role_after (distinct : s.Distinct) (found : s.role role.id = .ok role)
    (unwritten : ¬ request.WritesRole role.id s) :
    (after request.run s).role role.id = .ok role := by
  have step := StoreStep.of_request distinct request
  generalize after request.run s = t at step ⊢
  cases step with
  | stay => exact found
  | refuseRole _ => rwa [role_withoutNewRole]
  | @storeRole other free =>
    rwa [role_withRole, if_neg]
    -- under the id of the role it would have been accepted, as this id can be told
    intro same
    obtain ⟨-, told, -⟩ := distinct.of_role found
    rw [same] at told
    apply unwritten
    rw [StoreRequest.WritesRole, outcome_of_ok (putRole_told other free told)]
    exact congrArg some (congrArg RoleId.mk same.symm)
  | eraseRole id =>
    rwa [role_withoutRole]
    exact fun same => unwritten (congrArg RoleId.mk same.symm)
  | refuseUser _ => rwa [role_withoutNewUser]
  | storeUser _ => rwa [role_withUser]
  | followUsers old new => rwa [role_followUsers]

/-- A user whose base path is not among those that move stays. -/
theorem user_after_moveBasePaths (distinct : s.Distinct) (found : s.user user.id = .ok user)
    {old new : Path} (unwritten : ¬ (StoreRequest.moveBasePaths old new).WritesUser user s) :
    (after (moveBasePaths old new) s).user user.id = .ok user := by
  rw [StoreRequest.WritesUser, outcome, moveBasePaths_run distinct] at unwritten
  rw [after, moveBasePaths_run distinct]
  cases all : s.allUsers with
  | error e => exact found
  | ok users =>
    rw [all] at unwritten
    have still : user.follow old new = user := by
      rw [User.follow_eq_self_iff]
      by_contra moves
      obtain ⟨move, moves⟩ := Option.ne_none_iff_exists'.mp moves
      have known := (mem_allUsers distinct all user).mpr found
      refine unwritten (List.mem_map.mpr ⟨move, List.mem_filterMap.mpr ⟨user, known, moves⟩, ?_⟩)
      exact (User.target_of_basePathMove? moves).2.1
    dsimp only
    rw [user_followUsers, found, Except.map, still]

/-- A request that does not write a user leaves them. -/
theorem user_after (distinct : s.Distinct) (found : s.user user.id = .ok user)
    (unwritten : ¬ request.WritesUser user s) :
    (after request.run s).user user.id = .ok user := by
  have step := StoreStep.of_request distinct request
  generalize left : after request.run s = t at step ⊢
  cases step with
  | stay => exact found
  | refuseRole _ => rwa [user_withoutNewRole]
  | storeRole _ => rwa [user_withRole]
  | eraseRole id => rwa [user_withoutRole]
  | refuseUser _ => rwa [user_withoutNewUser]
  | @storeUser other free =>
    rwa [user_withUser, if_neg]
    intro same
    obtain ⟨-, told, -⟩ := distinct.of_user found
    rw [same] at told
    apply unwritten
    rw [StoreRequest.WritesUser, outcome_of_ok (putUser_told other free told)]
    exact congrArg some (congrArg UserId.mk same.symm)
  | followUsers old new =>
    rw [← left, StoreRequest.run, after_map]
    exact user_after_moveBasePaths distinct found unwritten

/-! ## Requests one after another -/

theorem role_serve (distinct : s.Distinct) (found : s.role role.id = .ok role)
    {later : List StoreRequest}
    (unwritten : Throughout (fun request s => ¬ request.WritesRole role.id s) s later) :
    (s.serve later).role role.id = .ok role ∧ (s.serve later).roleNamed role.name = .ok role := by
  obtain ⟨ends, told⟩ := serve_of_throughout (P := fun s => s.role role.id = .ok role)
    (fun distinct unwritten found => role_after distinct found unwritten) distinct found unwritten
  exact ⟨told, (roleNamed_eq_ok_iff ends).mpr ⟨told, rfl⟩⟩

theorem user_serve (distinct : s.Distinct) (found : s.user user.id = .ok user)
    {later : List StoreRequest}
    (unwritten : Throughout (fun request s => ¬ request.WritesUser user s) s later) :
    (s.serve later).user user.id = .ok user ∧
      (s.serve later).userNamed user.username = .ok user := by
  obtain ⟨ends, told⟩ := serve_of_throughout (P := fun s => s.user user.id = .ok user)
    (fun distinct unwritten found => user_after distinct found unwritten) distinct found unwritten
  exact ⟨told, (userNamed_eq_ok_iff ends).mpr ⟨told, rfl⟩⟩

/-! ## Accepted records -/

/-- The store tells again what it accepts. -/
structure ReadsBack (s : AccountStore) : Prop where
  /-- Scopes are read back from their text, which is empty exactly if there are none. -/
  scopes : ∀ scopes, scopesOfText? (scopesText scopes) = some scopes ∧
    (scopesText scopes = "" ↔ scopes = [])
  /-- A role that is accepted is answered with its id, the one that it asked for if it did; and it is
  told as it was answered until it is written. -/
  role : ∀ role stored t, putRole role s = .ok stored t →
    stored = { role with id := stored.id } ∧ (role.id.val ≠ 0 → stored.id = role.id) ∧
      ∀ later, Throughout (fun request s => ¬ request.WritesRole stored.id s) t later →
        (t.serve later).role stored.id = .ok stored ∧
          (t.serve later).roleNamed stored.name = .ok stored
  /-- So is a user who is accepted, if their role ids have 32 bits. -/
  user : ∀ user stored t, (∀ id ∈ user.roleIds, id.val < idLimit) → putUser user s = .ok stored t →
    stored = { user with id := stored.id } ∧ (user.id.val ≠ 0 → stored.id = user.id) ∧
      ∀ later, Throughout (fun request s => ¬ request.WritesUser stored s) t later →
        (t.serve later).user stored.id = .ok stored ∧
          (t.serve later).userNamed stored.username = .ok stored

/-- Every store that is reached tells again what it accepts. -/
theorem reads_back (reached : s.Reached) : s.ReadsBack where
  scopes scopes := ⟨scopesOfText?_scopesText scopes, scopesText_eq_empty_iff⟩
  role role stored t run := by
    have left := after_of_ok run ▸ reached.putRole role
    obtain ⟨-, told, rfl, rfl⟩ := putRole_eq_ok_iff.mp run
    refine ⟨rfl, fun own => ?_, fun later unwritten => role_serve left.distinct ?_ unwritten⟩
    · exact congrArg RoleId.mk (s.roleNumber_of_pos (Nat.pos_of_ne_zero own))
    · rw [role_withRole, if_pos rfl, if_pos told]
  user user stored t fit run := by
    have left := after_of_ok run ▸ reached.putUser user
    obtain ⟨-, told, rfl, rfl⟩ := putUser_eq_ok_iff.mp run
    refine ⟨rfl, fun own => ?_, fun later unwritten => user_serve left.distinct ?_ unwritten⟩
    · exact congrArg UserId.mk (s.userNumber_of_pos (Nat.pos_of_ne_zero own))
    · have each : ∀ id ∈ user.roleIds, s.canTell id.val = true := fun id held =>
        s.canTell_of_lt (fit id held)
      rw [user_withUser, if_pos rfl, if_pos ⟨told, each⟩]

/-- A role whose scopes have letters that are written with escapes, and bits that stand for nothing. -/
def oddRole : Role :=
  ⟨⟨0⟩, "odd", "", [⟨"/a\"\\\n\x00é/\x01😀", .ofNat 0xFFFFFFFF⟩, ⟨"", .none⟩]⟩

/-- A user who asks for an id of their own. -/
def carol : User := ⟨⟨7⟩, "carol", "/c", [⟨1⟩, ⟨0xFFFFFFFF⟩], true, -5⟩

/-- Requests that write others: a role of a taken name is refused, and a base path moves. -/
def othersWritten : List StoreRequest :=
  [.putRole { oddRole with scopes := [] }, .putRole ⟨⟨9⟩, "late", "", []⟩, .eraseRole ⟨9⟩,
    .putUser ⟨⟨0⟩, "bob", "/a/b", [⟨1⟩], false, 0⟩, .moveBasePaths (.ofText "/a") (.ofText "/z"),
    .putUser { carol with id := ⟨0⟩ }, .rolesOf ⟨8⟩]

theorem reads_back_othersWritten :
    let start := rows .empty
    let role := { oddRole with id := ⟨1⟩ }
    let roleStored := start.withRole 1 oddRole
    let bothStored := roleStored.withUser 7 carol
    start.Reached ∧ putRole oddRole start = .ok role roleStored ∧
      putUser carol roleStored = .ok carol bothStored ∧
      (bothStored.serve othersWritten).allUsers =
        .ok [carol, ⟨⟨8⟩, "bob", "/z/b", [⟨1⟩], false, 0⟩] ∧
      (bothStored.serve othersWritten).roleNamed "odd" = .ok role ∧
      (bothStored.serve othersWritten).userNamed "carol" = .ok carol := by
  intro start role roleStored bothStored
  have putOdd : putRole oddRole start = .ok role roleStored :=
    putRole_told oddRole (by decide) (by decide)
  have putCarol : putUser carol roleStored = .ok carol bothStored :=
    putUser_told carol (by decide) (by decide)
  have reached : roleStored.Reached := after_of_ok putOdd ▸ Reached.noRows.putRole oddRole
  have roleKept : Throughout (fun request s => ¬ request.WritesRole role.id s) roleStored
      (.putUser carol :: othersWritten) := by
    decide +kernel
  have userKept : Throughout (fun request s => ¬ request.WritesUser carol s) bothStored
      othersWritten := by
    decide +kernel
  have same : roleStored.serve (.putUser carol :: othersWritten) = bothStored.serve othersWritten := by
    decide +kernel
  refine ⟨.noRows, putOdd, putCarol, by decide +kernel, ?_, ?_⟩
  · rw [← same]
    exact (((reads_back .noRows).role _ _ _ putOdd).2.2 _ roleKept).2
  · exact (((reads_back reached).user _ _ _ (by decide) putCarol).2.2 _ userKept).2

end AccountStore

end StorageGateway
