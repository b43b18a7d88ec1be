import StorageGateway.Proofs.Account.Steps

/-!
# Users are told as they are stored

A user is kept under their username, and whatever changes a stored user forgets them, with one
exception: whoever adds a user under an id that is in use displaces the user who had it, and only the
new username is forgotten. Main statement: `user_told_as_stored_iff`.
-/

namespace StorageGateway

/-- A request adds a user who displaces one that is kept: the id that they ask for belongs to a user
of another name, who is kept under it, and their own name is free. -/
def AccountRequest.Displaces : AccountRequest → Accounts → Prop
  | .change (.addUser u _), a =>
    ∃ old, a.store.user u.id = .ok old ∧ old.username ≠ u.username ∧
      (a.users.get? old.username).isSome ∧ a.store.userElsewhere u.id.val u.username = false
  | _, _ => False

namespace Accounts

open AccountStore

variable {a b : Accounts}

/-- Every user who is kept is the one that the store would tell. -/
def UsersCurrent (a : Accounts) : Prop :=
  ∀ ⦃name user⦄, a.users.get? name = some user → a.store.userNamed name = .ok user

/-- A user who stays is told under the same name as before. -/
theorem userNamed_of_still (distinct : a.store.Distinct) (distinctAfter : b.store.Distinct)
    {name : String} {user : User} (told : a.store.userNamed name = .ok user)
    (still : b.store.user user.id = a.store.user user.id) : b.store.userNamed name = .ok user := by
  obtain ⟨found, named⟩ := (userNamed_eq_ok_iff distinct).mp told
  exact (userNamed_eq_ok_iff distinctAfter).mpr ⟨still.trans found, named⟩

/-- A user who is told under a name has another id than a user of another name. -/
theorem id_ne_of_userNamed (distinct : a.store.Distinct) {name : String} {user lost : User}
    {id : UserId} (told : a.store.userNamed name = .ok user) (known : a.store.user id = .ok lost)
    (differ : lost.username ≠ name) : user.id.val ≠ id.val := by
  intro same
  have place : user.id = id := congrArg UserId.mk same
  obtain ⟨found, named⟩ := (userNamed_eq_ok_iff distinct).mp told
  rw [place, known] at found
  cases found
  exact differ named

/-- Whatever a step changes of the users, it forgets. -/
theorem UsersGo.current (go : a.UsersGo b) (distinct : a.store.Distinct)
    (distinctAfter : b.store.Distinct) (current : a.UsersCurrent) : b.UsersCurrent := by
  intro name user present
  cases go with
  | stay stored kept =>
    have told : a.store.userNamed name = .ok user := (kept present).elim (current ·) id
    exact userNamed_of_still distinct distinctAfter told (stored user.id)
  | @add n _ _ vacant stored kept =>
    have told := current (Cache.of_get?_foldl_forget (kept ▸ present)).2
    have found := ((userNamed_eq_ok_iff distinct).mp told).1
    have apart : user.id.val ≠ n := fun same => vacant user (same ▸ found)
    exact userNamed_of_still distinct distinctAfter told (by rw [stored, user_withUser, if_neg apart])
  | change known _ stale stored kept =>
    obtain ⟨remembered, before⟩ := Cache.of_get?_foldl_forget (kept ▸ present)
    have told := current before
    have apart := id_ne_of_userNamed distinct told known fun same => remembered (same ▸ stale)
    exact userNamed_of_still distinct distinctAfter told (by rw [stored, user_withUser, if_neg apart])
  | @follow users old new all stored kept =>
    obtain ⟨remembered, before⟩ := Cache.of_get?_foldl_forget (kept ▸ present)
    have told := current before
    obtain ⟨found, named⟩ := (userNamed_eq_ok_iff distinct).mp told
    -- a user who moves is forgotten, so this one stays
    have still : user.follow old new = user := by
      refine User.follow_eq_self_iff .. |>.mpr ?_
      cases moves : user.basePathMove? old new with
      | none => rfl
      | some move =>
        have listed := (mem_allUsers distinct all user).mpr found
        have told := (User.target_of_basePathMove? moves).2.1
        refine absurd ?_ remembered
        rw [← named, ← told]
        exact List.mem_map_of_mem (List.mem_filterMap.mpr ⟨user, listed, moves⟩)
    refine userNamed_of_still distinct distinctAfter told ?_
    rw [stored, user_followUsers, found]
    exact congrArg Except.ok still

end Accounts

namespace Accounting

open Accounts AccountStore

variable {a : Accounts}

/-- A registry that keeps current users tells a user as the store would. -/
theorem outcome_user (served : a.refused = []) (current : a.UsersCurrent) (name : String) :
    outcome (user name) a = a.store.userNamed name := by
  rw [outcome, user_eq]
  cases kept : a.users.get? name with
  | some known => exact (current kept).symm
  | none =>
    rw [storedUserNamed, ask_run served]
    dsimp only
    cases a.store.userNamed name <;> rfl

theorem outcome_of_kept {name : String} {u : User} (kept : a.users.get? name = some u) :
    outcome (user name) a = .ok u := by
  rw [outcome, user_eq, kept]

/-- A user who takes an id and displaces no one who is kept leaves all that is kept current. -/
theorem usersCurrent_after_addUser {u : User} (fits : u.id.val < idLimit) (served : a.refused = [])
    (distinct : a.store.Distinct) (asks : u.id.val ≠ 0)
    (fine : ¬ (AccountRequest.change (.addUser u fits)).Displaces a) (current : a.UsersCurrent) :
    (after (addUser u) a).UsersCurrent := by
  have distinctAfter := stable_distinct.keeps_run (.addUser u fits) a distinct
  rw [AccountChange.run, after_discard] at distinctAfter
  rw [after_addUser_of_id served asks fits] at distinctAfter ⊢
  intro name user present
  cases taken : a.store.userElsewhere u.id.val u.username with
  | true =>
    rw [taken] at distinctAfter present
    exact userNamed_of_still distinct distinctAfter (current present) (user_withoutNewUser _ _ _)
  | false =>
    rw [taken] at distinctAfter present
    change ([u.username].foldl Cache.forget a.users).get? name = some user at present
    obtain ⟨remembered, before⟩ := Cache.of_get?_foldl_forget present
    have told := current before
    obtain ⟨found, rfl⟩ := (userNamed_eq_ok_iff distinct).mp told
    -- whoever has the id would be displaced while they are kept
    have apart : user.id.val ≠ u.id.val := by
      intro same
      have place : user.id = u.id := congrArg UserId.mk same
      refine fine ⟨user, place ▸ found, ?_, Option.isSome_of_eq_some before, taken⟩
      exact fun named => remembered (List.mem_singleton.mpr named)
    refine userNamed_of_still distinct distinctAfter told ?_
    exact (user_withUser _ _ _ _).trans (if_neg apart)

/-- The user who was displaced is still told, although the store has no user of the name. -/
theorem not_told_after_displacement (served : a.refused = []) (sound : a.store.Sound)
    (current : a.UsersCurrent) {request : AccountRequest} (displaces : request.Displaces a) :
    ∃ name, outcome (user name) (after request.run a) ≠
      (after request.run a).store.userNamed name := by
  cases request with
  | change c =>
    cases c with
    | addUser u fits =>
      obtain ⟨old, found, differ, kept, free⟩ := displaces
      have own := (sound.distinct.of_user found).1
      have asks : u.id.val ≠ 0 := Nat.ne_of_gt (sound.numbered.user_positive found)
      have distinctAfter := stable_distinct.keeps_run (.addUser u fits) a sound.distinct
      rw [AccountChange.run, after_discard] at distinctAfter
      have left := after_addUser_of_id served asks fits
      rw [free, if_neg Bool.false_ne_true] at left
      have users : (after (addUser u) a).users = [u.username].foldl Cache.forget a.users := by
        rw [left]
        rfl
      have stored : (after (addUser u) a).store = a.store.withUser u.id.val u.normalize := by
        rw [left]
        rfl
      obtain ⟨known, kept⟩ := Option.isSome_iff_exists.mp kept
      obtain rfl : old = known :=
        Except.ok.inj ((sound.distinct.userNamed found).symm.trans (current kept))
      refine ⟨old.username, fun agrees => ?_⟩
      rw [AccountRequest.run, AccountChange.run, after_discard, outcome_of_kept ?_] at agrees
      -- the store would tell the old user only if they still had the id
      · obtain ⟨now, -⟩ := (userNamed_eq_ok_iff distinctAfter).mp agrees.symm
        rw [stored, user_withUser, if_pos (congrArg UserId.val own)] at now
        split at now
        · exact differ (congrArg User.username (Except.ok.inj now)).symm
        · contradiction
      · rw [users, Cache.get?_foldl_forget, if_neg, kept]
        exact fun same => differ (List.mem_singleton.mp same)
    | _ => exact displaces.elim
  | _ => exact displaces.elim

/-- A registry tells every user as the store would throughout a course of requests, successful or
not, exactly if none of the requests displaces a user who is kept, as long as no count of numbers
comes round. -/
theorem user_told_as_stored_iff {store : AccountStore} (reached : store.ReachedInRange)
    (roleLifetime userLifetime : Nat) {requests : List AccountRequest}
    (inRange : (Accounts.new store roleLifetime userLifetime).InRange requests) :
    let start := Accounts.new store roleLifetime userLifetime
    (∀ done, done <+: requests → ∀ name,
        outcome (user name) (start.serve done) = (start.serve done).store.userNamed name) ↔
      ∀ done request, done ++ [request] <+: requests → ¬ request.Displaces (start.serve done) := by
  intro start
  have first : start.refused = [] ∧ start.store.Sound ∧ start.UsersCurrent :=
    ⟨rfl, reached.sound, fun _ _ present => by contradiction⟩
  refine forall_moments_iff (f := fun a (request : AccountRequest) => after request.run a)
    (C := fun request a => request.HasRoom a.store)
    (Q := fun a => ∀ name, outcome (user name) a = a.store.userNamed name)
    (fun kept => outcome_user kept.1 kept.2.2)
    (kept_of_usersGo (fun sound soundAfter go => go.current sound.distinct soundAfter.distinct)
      fun fits served sound => usersCurrent_after_addUser fits served sound.distinct)
    ?_ first inRange
  rintro a request - ⟨served, sound, current⟩ displaces always
  obtain ⟨name, differs⟩ := not_told_after_displacement served sound current displaces
  exact differs (always name)

/-- A user without a number of his own. -/
def bob : User := ⟨⟨0⟩, "bob", "/", [], false, 0⟩

/-- Eve takes the id of bob, who is kept. -/
def eveTakesId : List AccountRequest :=
  [.change (.addUser bob (by decide)), .user "bob",
    .change (.addUser ⟨⟨1⟩, "eve", "/", [], false, 0⟩ (by decide))]

theorem user_told_as_stored_iff_eve :
    (records .empty).ReachedInRange ∧
      let start := Accounts.new (records .empty) 60 60
      start.InRange eveTakesId ∧
      ((∀ done, done <+: eveTakesId → ∀ name,
          outcome (user name) (start.serve done) = (start.serve done).store.userNamed name) ↔
        ∀ done request, done ++ [request] <+: eveTakesId →
          ¬ request.Displaces (start.serve done)) :=
  ⟨.noRecords, by decide, user_told_as_stored_iff .noRecords 60 60 (by decide)⟩

/-- The store has no bob any more, but the registry tells him. -/
theorem displaced_user_still_told :
    (records .empty).ReachedInRange ∧
      let a := (Accounts.new (records .empty) 60 60).serve eveTakesId
      outcome (user "bob") a = .ok { bob with id := ⟨1⟩ } ∧
        a.store.userNamed "bob" = .error (.userNotFound "bob") :=
  ⟨.noRecords, rfl, rfl⟩

end Accounting

end StorageGateway
