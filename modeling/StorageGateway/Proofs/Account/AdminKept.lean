import StorageGateway.Proofs.Account.Steps

/-!
# The administrator account stays

Updates and moves leave the user called `admin` under their id, with their roles. Whoever adds a user
under that id is not held back, and takes the place of the account. Main statement:
`admin_kept_iff`.
-/

namespace StorageGateway

/-- The store has a user called `admin`, of the id and the role ids of `admin`. -/
def AccountStore.KeepsAdmin (s : AccountStore) (admin : User) : Prop :=
  ∃ u, s.userNamed User.adminName = .ok u ∧ u.id = admin.id ∧ u.roleIds = admin.roleIds

/-- A request adds a user under the id of `admin`, with a free name, and the user has not both the
name and the roles of the administrator account. -/
def AccountRequest.Deposes (admin : User) : AccountRequest → Accounts → Prop
  | .change (.addUser u _), a =>
    u.id = admin.id ∧ a.store.userElsewhere u.id.val u.username = false ∧
      (u.username ≠ User.adminName ∨ u.roleIds ≠ admin.roleIds)
  | _, _ => False

namespace AccountStore

variable {s : AccountStore} {admin : User}

theorem keepsAdmin_iff (distinct : s.Distinct) :
    s.KeepsAdmin admin ↔
      ∃ u, s.user admin.id = .ok u ∧ u.username = User.adminName ∧ u.roleIds = admin.roleIds := by
  constructor
  · rintro ⟨u, told, own, roles⟩
    obtain ⟨found, named⟩ := (userNamed_eq_ok_iff distinct).mp told
    exact ⟨u, own ▸ found, named, roles⟩
  · rintro ⟨u, found, named, roles⟩
    have own := (distinct.of_user found).1
    exact ⟨u, (userNamed_eq_ok_iff distinct).mpr ⟨own.symm ▸ found, named⟩, own, roles⟩

/-- A user who is stored under the id keeps the account, exactly if they have its name and its
roles. -/
theorem keepsAdmin_withUser_iff (distinct : s.Distinct) {u : User}
    (distinctAfter : (s.withUser admin.id.val u).Distinct) (holds : s.KeepsAdmin admin) :
    (s.withUser admin.id.val u).KeepsAdmin admin ↔
      u.username = User.adminName ∧ u.roleIds = admin.roleIds := by
  rw [keepsAdmin_iff distinctAfter, user_withUser, if_pos rfl]
  obtain ⟨old, found, -, roles⟩ := (keepsAdmin_iff distinct).mp holds
  have told := (distinct.of_user found).2.1
  constructor
  · rintro ⟨now, stored, named, given⟩
    split at stored
    · cases stored
      exact ⟨named, given⟩
    · contradiction
  · rintro ⟨named, given⟩
    have fit : ∀ i ∈ u.roleIds, s.canTell i.val = true := by
      rw [given, ← roles]
      exact canTell_roleIds found
    exact ⟨_, if_pos ⟨told, fit⟩, named, given⟩

/-- As long as no one else is stored under the id, the account stays. -/
theorem KeepsAdmin.of_still {t : AccountStore} (holds : s.KeepsAdmin admin) (distinct : s.Distinct)
    (distinctAfter : t.Distinct) (still : t.user admin.id = s.user admin.id) :
    t.KeepsAdmin admin := by
  obtain ⟨old, found, rest⟩ := (keepsAdmin_iff distinct).mp holds
  exact (keepsAdmin_iff distinctAfter).mpr ⟨old, still.trans found, rest⟩

end AccountStore

namespace Accounts

open AccountStore

variable {a b : Accounts} {admin : User}

/-- No step takes the administrator account away. -/
theorem UsersGo.keepsAdmin (go : a.UsersGo b) (distinct : a.store.Distinct)
    (distinctAfter : b.store.Distinct) (holds : a.store.KeepsAdmin admin) : b.store.KeepsAdmin admin := by
  cases go with
  | stay stored _ => exact holds.of_still distinct distinctAfter (stored admin.id)
  | @add n _ _ vacant stored _ =>
    have apart : admin.id.val ≠ n := by
      intro same
      obtain ⟨u, found, -⟩ := (keepsAdmin_iff distinct).mp holds
      exact vacant u (same ▸ found)
    rw [stored] at distinctAfter ⊢
    exact holds.of_still distinct distinctAfter ((user_withUser _ _ _ _).trans (if_neg apart))
  | @change current next _ known guarded _ stored _ =>
    rw [stored] at distinctAfter ⊢
    by_cases same : admin.id = next.id
    · obtain ⟨u, found, named, roles⟩ := (keepsAdmin_iff distinct).mp holds
      rw [same, known] at found
      cases found
      obtain ⟨still, given⟩ := guarded named
      rw [← same] at distinctAfter ⊢
      exact (keepsAdmin_withUser_iff distinct distinctAfter holds).mpr
        ⟨still.trans named, given.trans roles⟩
    · refine holds.of_still distinct distinctAfter ((user_withUser _ _ _ _).trans (if_neg ?_))
      exact fun number => same (congrArg UserId.mk number)
  | @follow _ old new _ stored _ =>
    obtain ⟨u, found, named, roles⟩ := (keepsAdmin_iff distinct).mp holds
    refine (keepsAdmin_iff distinctAfter).mpr ⟨u.follow old new, ?_, named, roles⟩
    rw [stored, user_followUsers, found]
    rfl

end Accounts

namespace Accounting

open Accounts AccountStore

variable {a : Accounts} {admin : User}

/-- A user who takes an id leaves the account there, exactly if they do not depose it. -/
theorem keepsAdmin_after_addUser_iff {u : User} (fits : u.id.val < idLimit) (served : a.refused = [])
    (distinct : a.store.Distinct) (asks : u.id.val ≠ 0) (holds : a.store.KeepsAdmin admin) :
    (after (addUser u) a).store.KeepsAdmin admin ↔
      ¬ (AccountRequest.change (.addUser u fits)).Deposes admin a := by
  have distinctAfter := stable_distinct.keeps_run (.addUser u fits) a distinct
  rw [AccountChange.run, after_discard] at distinctAfter
  rw [after_addUser_of_id served asks fits] at distinctAfter ⊢
  cases taken : a.store.userElsewhere u.id.val u.username with
  | true =>
    rw [taken] at distinctAfter
    refine iff_of_true (holds.of_still distinct distinctAfter (user_withoutNewUser _ _ _)) ?_
    exact fun deposes => Bool.false_ne_true (deposes.2.1.symm.trans taken)
  | false =>
    rw [taken] at distinctAfter
    change (a.store.withUser u.id.val u.normalize).Distinct at distinctAfter
    change (a.store.withUser u.id.val u.normalize).KeepsAdmin admin ↔ _
    by_cases same : u.id = admin.id
    · rw [same] at distinctAfter ⊢
      refine (keepsAdmin_withUser_iff distinct distinctAfter holds).trans ⟨?_, fun fine => ?_⟩
      · rintro ⟨named, given⟩ ⟨-, -, differs⟩
        exact differs.elim (· named) (· given)
      · by_contra differs
        exact fine ⟨same, taken, not_and_or.mp differs⟩
    · refine iff_of_true (holds.of_still distinct distinctAfter ?_) fun deposes => same deposes.1
      exact (user_withUser _ _ _ _).trans
        (if_neg fun number => same (congrArg UserId.mk number.symm))

/-- The store keeps its administrator account throughout a course of requests, successful or not,
exactly if none of the requests deposes it, as long as no count of numbers comes round. -/
theorem admin_kept_iff (served : a.refused = []) (reached : a.store.ReachedInRange)
    (held : a.store.userNamed User.adminName = .ok admin) {requests : List AccountRequest}
    (inRange : a.InRange requests) :
    (∀ done, done <+: requests → (a.serve done).store.KeepsAdmin admin) ↔
      ∀ done request, done ++ [request] <+: requests →
        ¬ request.Deposes admin (a.serve done) := by
  have first : a.refused = [] ∧ a.store.Sound ∧ a.store.KeepsAdmin admin :=
    ⟨served, reached.sound, admin, held, rfl, rfl⟩
  refine forall_moments_iff (f := fun a (request : AccountRequest) => after request.run a)
    (C := fun request a => request.HasRoom a.store) (Q := fun a => a.store.KeepsAdmin admin)
    (fun kept => kept.2.2)
    (kept_of_usersGo (fun sound soundAfter go => go.keepsAdmin sound.distinct soundAfter.distinct)
      fun fits served sound asks fine holds =>
        (keepsAdmin_after_addUser_iff fits served sound.distinct asks holds).mpr fine)
    ?_ first inRange
  rintro a request - ⟨served, sound, holds⟩ deposes
  cases request with
  | change c =>
    cases c with
    | addUser u fits =>
      obtain ⟨old, found, -⟩ := (keepsAdmin_iff sound.distinct).mp holds
      have asks : u.id.val ≠ 0 := by
        rw [deposes.1]
        exact Nat.ne_of_gt (sound.numbered.user_positive found)
      rw [AccountRequest.run, AccountChange.run, after_discard,
        keepsAdmin_after_addUser_iff fits served sound.distinct asks holds]
      exact not_not_intro deposes
    | _ => exact deposes.elim
  | _ => exact deposes.elim

/-- A store with the administrator account alone. -/
def adminAlone : AccountStore :=
  after (AccountStore.putUser ⟨⟨0⟩, "admin", "/", [⟨2⟩], false, 0⟩) (records .empty)

theorem reached_adminAlone : adminAlone.ReachedInRange := .putUser _ .noRecords (by decide)

/-- Mallory takes the id of the administrator account. -/
def malloryTakesId : AccountRequest :=
  .change (.addUser ⟨⟨1⟩, "mallory", "/", [], false, 0⟩ (by decide))

theorem admin_kept_iff_mallory :
    let a := Accounts.new adminAlone 0 0
    let admin : User := ⟨⟨1⟩, "admin", "/", [⟨2⟩], false, 0⟩
    a.refused = [] ∧ a.store.ReachedInRange ∧ a.store.userNamed User.adminName = .ok admin ∧
      a.InRange [malloryTakesId] ∧
      ((∀ done, done <+: [malloryTakesId] → (a.serve done).store.KeepsAdmin admin) ↔
        ∀ done request, done ++ [request] <+: [malloryTakesId] →
          ¬ request.Deposes admin (a.serve done)) :=
  ⟨rfl, reached_adminAlone, rfl, by decide, admin_kept_iff rfl reached_adminAlone rfl (by decide)⟩

/-- Then there is no user called `admin` any more. -/
theorem admin_gone_after_mallory :
    adminAlone.ReachedInRange ∧
      adminAlone.userNamed User.adminName = .ok ⟨⟨1⟩, "admin", "/", [⟨2⟩], false, 0⟩ ∧
      ((Accounts.new adminAlone 0 0).serve [malloryTakesId]).store.userNamed User.adminName =
        .error (.userNotFound "admin") :=
  ⟨reached_adminAlone, rfl, rfl⟩

end Accounting

end StorageGateway
