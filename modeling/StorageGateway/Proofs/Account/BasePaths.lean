import StorageGateway.Proofs.Account.Sound
import StorageGateway.Proofs.Path.Following

/-!
# Base paths that are moved

When `old` becomes `new`, a store moves the base paths at `old` and beneath it, tells whose they are,
and leaves everything else. Unless one of `old` and `new` lies above the other, nothing is left to be
moved by a second call. Main statement: `base_paths_moved`.
-/

namespace StorageGateway

variable {old new : Path}

/-- Where neither path covers the other, a text that has followed does not follow again. -/
theorem followedText_followedText (outside : old.covers new = false) (apart : new.covers old = false)
    (text : String) :
    followedText (followedText text old new) old new = followedText text old new := by
  rw [followedText_eq_self_iff, ofText_followedText, ofText_followedText]
  cases moved : (Path.ofText text).follow? old new with
  | none => rw [Option.getD_none, moved, Option.getD_none]
  | some target =>
    have below := (Path.follow?_eq_some_iff.mp moved).new_covers
    -- Of two paths above the place one is above the other, so `old` cannot be there beside `new`.
    have gone : old.covers target = false := by
      by_contra covers
      rcases Path.covers_total (Bool.eq_true_of_not_eq_false covers) below with above | above
      · rw [outside] at above
        contradiction
      · rw [apart] at above
        contradiction
    rw [Option.getD_some, Path.follow?_eq_none_iff.mpr gone, Option.getD_none]

namespace User

/-- A base path at `old` or beneath it follows. -/
theorem basePath_follows {u : User} (home : old.covers (.ofText u.basePath) = true) (new : Path) :
    Path.Follows old new (.ofText u.basePath) (.ofText (u.follow old new).basePath) := by
  rw [follow, ofText_followedText]
  cases moved : (Path.ofText u.basePath).follow? old new with
  | none =>
    rw [Path.follow?_eq_none_iff, home] at moved
    contradiction
  | some target => exact Path.follow?_eq_some_iff.mp moved

/-- A base path elsewhere stays. -/
theorem follow_of_apart {u : User} (apart : old.covers (.ofText u.basePath) = false) :
    u.follow old new = u := by
  rw [follow_eq_self_iff, basePathMove?, Path.follow?_eq_none_iff.mpr apart]
  rfl

/-- Just those users move whose base paths are at `old` or beneath it. -/
theorem basePathMove?_eq_none_iff (differ : old ≠ new) (u : User) :
    u.basePathMove? old new = none ↔ old.covers (.ofText u.basePath) = false := by
  rw [← follow_eq_self_iff]
  refine ⟨fun stays => ?_, follow_of_apart⟩
  by_contra home
  have follows := basePath_follows (Bool.eq_true_of_not_eq_false home) new
  rw [stays] at follows
  exact differ (follows.eq_iff.mp rfl)

/-- The base path becomes the place to which it follows, if it follows. -/
theorem follow_eq (differ : old ≠ new) (u : User) :
    u.follow old new =
      match (Path.ofText u.basePath).follow? old new with
      | some target => { u with basePath := target.text }
      | none => u := by
  rw [follow, followedText]
  cases moved : (Path.ofText u.basePath).follow? old new with
  | none => rfl
  | some target =>
    have leaves : target ≠ .ofText u.basePath := fun stays =>
      differ ((Path.follow?_eq_some_iff.mp moved).eq_iff.mp stays)
    dsimp only
    rw [if_neg leaves]

end User

/-- Told are the users whose base paths are at `old` or beneath it, in the order of the users. -/
theorem usernames_basePathMoves (differ : old ≠ new) (users : List User) :
    (basePathMoves users old new).map BasePathMove.username =
      (users.filter fun u => old.covers (.ofText u.basePath)).map User.username := by
  induction users with
  | nil => rfl
  | cons u rest ih =>
    have still := u.basePathMove?_eq_none_iff differ
    rw [basePathMoves] at ih ⊢
    rw [List.filterMap_cons, List.filter_cons]
    cases moves : u.basePathMove? old new with
    | none =>
      rw [still.mp moves]
      exact ih
    | some move =>
      have home : old.covers (.ofText u.basePath) = true := by
        by_contra apart
        rw [still.mpr (eq_false_of_ne_true apart)] at moves
        contradiction
      rw [if_pos home, List.map_cons, List.map_cons, ih, (User.target_of_basePathMove? moves).2.1]

/-- Users who have followed stay if neither path covers the other. -/
theorem basePathMoves_follow (outside : old.covers new = false) (apart : new.covers old = false)
    (users : List User) : basePathMoves (users.map fun u => u.follow old new) old new = [] := by
  rw [basePathMoves, List.filterMap_eq_nil_iff]
  intro u listed
  obtain ⟨before, -, rfl⟩ := List.mem_map.mp listed
  rw [← User.follow_eq_self_iff, User.follow, User.follow, followedText_followedText outside apart]

/-! ## The users of a store -/

/-- What all records become at once, they become once and for all. -/
theorem Roster.mapRecords_mapRecords {ρ : Type} (r : Roster ρ) {f : ρ → ρ}
    (settled : ∀ record, f (f record) = f record) :
    (r.mapRecords f).mapRecords f = r.mapRecords f := by
  refine ext_get? (fun n => ?_) rfl
  rw [get?_mapRecords, get?_mapRecords, Option.map_map]
  exact congrArg (Option.map · _) (funext settled)

/-- What is told of answers is told of the questions. -/
theorem RowStore.map_of_mapM_ok {ε α β γ : Type} {f : α → Except ε β} {g : β → γ} {h : α → γ}
    (each : ∀ x y, f x = .ok y → g y = h x) {xs : List α} {ys : List β} (all : xs.mapM f = .ok ys) :
    ys.map g = xs.map h := by
  rw [mapM_eq_ok_iff] at all
  induction xs generalizing ys with
  | nil =>
    cases ys with
    | nil => rfl
    | cons y others => contradiction
  | cons x rest ih =>
    cases ys with
    | nil => contradiction
    | cons y others =>
      obtain ⟨first, later⟩ := List.cons.inj all
      rw [List.map_cons, List.map_cons, each x y first, ih later]

namespace AccountStore

variable {s : AccountStore} {users : List User}

/-- Users are listed by their ids. -/
theorem inOrder_allUsers (distinct : s.Distinct) (all : s.allUsers = .ok users) :
    users.Pairwise fun u v => u.id.val < v.id.val := by
  cases s with
  | records s =>
    cases all
    exact Roster.pairwise_values (fun u : User => u.id.val) fun _ _ found =>
      congrArg UserId.val (distinct.user_id found)
  | rows s =>
    have keys : users.map (fun u => u.id.val) = s.users.records.keys :=
      RowStore.map_of_mapM_ok
        (fun e u reads => congrArg UserId.val (UserColumns.user_eq_ok reads).2.1) all
    rw [← List.pairwise_map (f := fun u : User => u.id.val) (R := (· < ·)), keys]
    exact s.users.increasing_keys

/-- All users follow, under the same ids. -/
theorem allUsers_followUsers (all : s.allUsers = .ok users) (old new : Path) :
    (s.followUsers old new).allUsers = .ok (users.map fun u => u.follow old new) := by
  cases s with
  | records s =>
    cases all
    rw [followUsers, allUsers, RecordStore.allUsers, RecordStore.allUsers, Dict.values, Dict.values,
      List.map_map]
    exact congrArg Except.ok (List.map_map ..)
  | rows s =>
    let follow (u : User) : User := u.follow old new
    let read (e : Nat × UserColumns) : Except AccountError User := e.2.user e.1
    have reads : s.users.records.entries.map read = users.map .ok := RowStore.mapM_eq_ok_iff.mp all
    have follows (e : Nat × UserColumns) :
        read (e.1, e.2.follow old new) = (read e).map follow := e.2.user_follow e.1 old new
    refine RowStore.mapM_eq_ok_iff.mpr ?_
    calc (s.users.mapRecords fun row => row.follow old new).records.entries.map read
        = (s.users.records.entries.map fun e => (e.1, e.2.follow old new)).map read := rfl
      _ = (s.users.records.entries.map read).map (Except.map follow) := by
          rw [List.map_map, List.map_map]
          exact List.map_congr_left fun e _ => follows e
      _ = (users.map follow).map .ok := by
          rw [reads, List.map_map, List.map_map]
          rfl

theorem followUsers_followUsers (outside : old.covers new = false) (apart : new.covers old = false)
    (s : AccountStore) : (s.followUsers old new).followUsers old new = s.followUsers old new := by
  have settled := followedText_followedText outside apart
  cases s with
  | records s =>
    rw [followUsers, followUsers, RecordStore.followUsers, RecordStore.followUsers,
      Roster.mapRecords_mapRecords]
    intro user
    rw [User.follow, User.follow, settled]
  | rows s =>
    rw [followUsers, followUsers, RowStore.followUsers, RowStore.followUsers,
      Roster.mapRecords_mapRecords]
    intro row
    rw [UserColumns.follow, UserColumns.follow, settled]

/-- What becomes of a store with certain users when base paths follow `old` to `new`: who is told,
and what is stored. -/
structure BasePathsMoved (old new : Path) (users : List User) (names : List String)
    (s t : AccountStore) : Prop where
  /-- The users are listed by their ids. -/
  inOrder : users.Pairwise fun u v => u.id.val < v.id.val
  /-- Told are those with a base path at `old` or beneath it. -/
  told : names = (users.filter fun u => old.covers (.ofText u.basePath)).map User.username
  /-- Their base paths have followed, and nothing else of any user is another. -/
  users : t.allUsers = .ok (users.map fun u =>
    match (Path.ofText u.basePath).follow? old new with
    | some target => { u with basePath := target.text }
    | none => u)
  /-- No role is another. -/
  roles : t.SameRoles s
  /-- If neither path is above the other, no base path is left to follow. -/
  settled : old.covers new = false → new.covers old = false →
    moveBasePaths old new t = .ok [] t

/-- Base paths are moved unless a user cannot be read: those at `old` and beneath it, and these once
and for all. -/
theorem base_paths_moved (reached : s.Reached) (differ : old ≠ new) :
    match s.allUsers with
    | .error e => moveBasePaths old new s = .error e s
    | .ok users => ∃ names t,
        moveBasePaths old new s = .ok names t ∧ BasePathsMoved old new users names s t := by
  have distinct := reached.distinct
  have run := moveBasePaths_run distinct old new
  cases all : s.allUsers with
  | error e =>
    rw [all] at run
    exact run
  | ok users =>
    rw [all] at run
    have followed := allUsers_followUsers all old new
    refine ⟨_, _, run, ?_⟩
    exact
      { inOrder := inOrder_allUsers distinct all
        told := usernames_basePathMoves differ users
        users := by
          rw [followed]
          exact congrArg Except.ok (List.map_congr_left fun u _ => u.follow_eq differ)
        roles := sameRoles_followUsers old new s
        settled := fun outside apart => by
          rw [moveBasePaths_run (distinct.followUsers old new), followed]
          dsimp only
          rw [basePathMoves_follow outside apart, followUsers_followUsers outside apart, List.map_nil] }

/-- Rows of users at home in a place, beneath it and beside it. -/
def neighbours : AccountStore :=
  after (AccountStore.putUser ⟨⟨0⟩, "cid", "/older", [], false, 0⟩)
    (after (AccountStore.putUser ⟨⟨0⟩, "bob", "/old", [⟨2⟩], false, 0⟩)
      (after (AccountStore.putUser ⟨⟨7⟩, "ann", "/old/a", [], true, 5⟩) (rows .empty)))

theorem reached_neighbours : neighbours.Reached :=
  .putUser _ (.putUser _ (.putUser _ .noRows))

theorem base_paths_moved_neighbours :
    neighbours.Reached ∧ Path.ofText "/old" ≠ .ofText "/new" ∧ ∃ t,
      moveBasePaths (.ofText "/old") (.ofText "/new") neighbours = .ok ["ann", "bob"] t ∧
      t.allUsers.map (List.map User.basePath) = .ok ["/new/a", "/new", "/older"] ∧
      moveBasePaths (.ofText "/old") (.ofText "/new") t = .ok [] t := by
  have differ : Path.ofText "/old" ≠ .ofText "/new" := by decide +kernel
  obtain ⟨names, t, run, moved⟩ := base_paths_moved reached_neighbours differ
  refine ⟨reached_neighbours, differ, t, ?_, ?_, moved.settled (by decide +kernel) (by decide +kernel)⟩
  · rw [run, moved.told]
    rfl
  · rw [moved.users]
    rfl

end AccountStore

end StorageGateway
