import StorageGateway.Proofs.Account.BasePaths
import StorageGateway.Proofs.Account.Coherence
import StorageGateway.Proofs.Gateway.Standing
import StorageGateway.Proofs.Mount.Routes

/-!
# Moving a mount

A mount that moves takes scopes and base paths along. A user whose base path is moved is looked up
anew and found at home in the new place. What their home holds is another matter: of the mounts at
`old` and beneath it only one moves, so that a home on a mount further down is cut off from its data.
Main statements: `moved_of_moveMount` and `home_kept_iff`.
-/

namespace StorageGateway

/-- `g'` is the gateway `g` after a mount was moved from `old` to `new`. -/
structure Gateway.Moved (old new : Path) (now : Time) (g g' : Gateway) : Prop where
  routes : g.routes.rename old new now = .ok g'.routes
  metas : g'.metas = g.metas
  accounts : g'.accounts.Reached
  served : g'.accounts.refused = []
  users : ∀ id, g'.accounts.store.user id = (g.accounts.store.user id).map fun u => u.follow old new
  forgotten : ∀ {u}, g.accounts.store.user u.id = .ok u → old.covers (.ofText u.basePath) = true →
    g'.accounts.users.get? u.username = none

variable {g g' : Gateway} {old new : Path} {now : Time} {u : User}

/-- Stored users follow. -/
theorem Gateway.Moved.user (moved : g.Moved old new now g') {id : UserId}
    (stored : g.accounts.store.user id = .ok u) :
    g'.accounts.store.user id = .ok (u.follow old new) := by
  rw [moved.users, stored]
  rfl

namespace Serving

variable {moved : PathMove}

theorem moveMount_eq (old new : Path) (now : Time) (g : Gateway) :
    moveMount old new now g =
      match g.routes.rename old new now with
      | .error e => .error (.storage e) g
      | .ok routes => account (.movePath old new) { g with routes } := by
  have got : (get : Serving Gateway) g = .ok g g := rfl
  rw [moveMount, bind_of_ok got]
  cases g.routes.rename old new now <;> rfl

/-- A mount is moved if the accounts follow. -/
theorem of_moveMount_ok (run : moveMount old new now g = .ok moved g') :
    g.routes.rename old new now = .ok g'.routes ∧ g'.metas = g.metas ∧
      Accounting.movePath old new g.accounts = .ok moved g'.accounts := by
  rw [moveMount_eq] at run
  cases renamed : g.routes.rename old new now with
  | error e =>
    rw [renamed] at run
    contradiction
  | ok routes =>
    simp only [renamed, account] at run
    cases follows : Accounting.movePath old new g.accounts with
    | error e b =>
      rw [follows] at run
      contradiction
    | ok move b =>
      rw [follows] at run
      cases run
      exact ⟨rfl, rfl, rfl⟩

/-- A mount is moved for good, if at all, and the users follow completely. -/
theorem moved_of_moveMount (reached : g.accounts.Reached) (served : g.accounts.refused = [])
    (run : moveMount old new now g = .ok moved g') : g.Moved old new now g' := by
  obtain ⟨renamed, metas, follows⟩ := of_moveMount_ok run
  have distinct := reached.store_reached.distinct
  obtain ⟨users, all, moves, servedAfter, kept⟩ :=
    Accounting.users_of_movePath served distinct follows
  refine ⟨renamed, metas, ?_, servedAfter, moves, fun {u} stored home => ?_⟩
  · have step := reached.run (.change (.movePath old new))
    rwa [AccountRequest.run, AccountChange.run, after_discard, after_of_ok follows] at step
  · have present := (AccountStore.mem_allUsers distinct all u).mpr stored
    have told : u.username ∈ (basePathMoves users old new).map BasePathMove.username := by
      rw [usernames_basePathMoves (Routes.ne_of_rename renamed)]
      exact List.mem_map_of_mem (List.mem_filter.mpr ⟨present, home⟩)
    rw [kept, Cache.get?_foldl_forget, if_pos told]

/-- Before a count of numbers comes round, the roles follow completely as well. -/
theorem store_of_moveMount (reached : g.accounts.ReachedInRange) (served : g.accounts.refused = [])
    (run : moveMount old new now g = .ok moved g') :
    g'.accounts.ReachedInRange ∧
      g'.accounts.store = (g.accounts.store.followRoles old new).followUsers old new := by
  obtain ⟨-, -, follows⟩ := of_moveMount_ok run
  constructor
  · have step := reached.run (.change (.movePath old new)) trivial
    rwa [AccountRequest.run, AccountChange.run, after_discard, after_of_ok follows] at step
  · have path := Accounting.movePath_run served reached.coherent.sound old new
    cases allRoles : g.accounts.store.allRoles with
    | error e =>
      simp only [allRoles] at path
      rw [path] at follows
      contradiction
    | ok roles =>
      simp only [allRoles] at path
      cases allUsers : g.accounts.store.allUsers with
      | error e =>
        rw [allUsers] at path
        obtain ⟨b, failed, -⟩ := path
        rw [failed] at follows
        contradiction
      | ok users =>
        rw [allUsers] at path
        obtain ⟨b, done, store, -⟩ := path
        rw [done] at follows
        cases follows
        exact store

/-- A home stays on its data when a mount is moved, exactly if it is on no mount beneath that one. -/
theorem home_kept_iff (reached : g.accounts.Reached) (served : g.accounts.refused = [])
    (built : g.routes.Built) (run : moveMount old new now g = .ok moved g')
    (free : Path.NoneBelow g.routes.get? new)
    (stored : g.accounts.store.user u.id = .ok u) (apart : new.covers (.ofText u.basePath) = false)
    {d : Destination} (home : g.routes.resolve? (.ofText u.basePath) = some d) :
    (∃ u' d', g'.accounts.store.user u.id = .ok u' ∧
        g'.routes.resolve? (.ofText u'.basePath) = some d' ∧
        d'.mount.backend = d.mount.backend ∧ d'.place = d.place) ↔
      old.strictlyCovers d.mount.path = false := by
  have move := moved_of_moveMount reached served run
  have storedAfter := move.user stored
  obtain ⟨above, mounted, between, place⟩ := (Routes.resolve?_eq_some_iff built).mp home
  cases inside : old.covers (.ofText u.basePath) with
  | false =>
    -- A home apart from the mount stays, and so does what is mounted there.
    rw [User.follow_of_apart inside] at storedAfter
    have leads := (Routes.resolve?_of_apart move.routes inside apart).trans home
    refine iff_of_true ⟨u, d, storedAfter, leads, rfl, rfl⟩ ?_
    rw [← Bool.not_eq_true, Path.strictlyCovers_iff]
    rintro ⟨-, covers⟩
    rw [Path.covers_trans covers above] at inside
    contradiction
  | true =>
    obtain ⟨m, found, leads⟩ :=
      Routes.resolve?_of_follows built move.routes free (User.basePath_follows inside new)
    cases strictly : old.strictlyCovers d.mount.path with
    | true =>
      refine iff_of_false ?_ Bool.noConfusion
      rintro ⟨u', d', same, leads', -, kept⟩
      cases storedAfter.symm.trans same
      cases leads.symm.trans leads'
      exact Path.within_ne_of_strictlyCovers strictly above (kept.trans place)
    | false =>
      refine iff_of_true ⟨_, _, storedAfter, leads, ?_⟩ rfl
      have covers := built.covers_of_resolve? home found inside
      have same : old = d.mount.path := by
        by_contra differ
        rw [Path.strictlyCovers_iff.mpr ⟨differ, covers⟩] at strictly
        contradiction
      rw [same, mounted] at found
      cases found
      exact ⟨rfl, by rw [place, same]⟩

/-- A user at home on a mount beneath another. -/
def lodger : User := ⟨⟨1⟩, "bob", "/old/sub", [], false, 0⟩

/-- A gateway with the home of the lodger, and with a mount above it. -/
def nestedMounts : Gateway :=
  ((Gateway.new .default (after (AccountStore.putUser { lodger with id := ⟨0⟩ }) (.records .empty))
    default).mount (.ofText "/old") (.memory (.new 0)) 0).mount
      (.ofText "/old/sub") (.memory (.new 0)) 0

/-- Where the home of the lodger leads. -/
def lodging : Destination := ⟨⟨.ofText "/old/sub", ⟨1⟩, 0, 0⟩, .root⟩

theorem reached_nestedMounts : nestedMounts.accounts.Reached := .new _ _ (.putUser _ .noRecords)

theorem built_nestedMounts : nestedMounts.routes.Built := .mount _ _ _ (.mount _ _ _ .empty)

theorem free_nestedMounts : Path.NoneBelow nestedMounts.routes.get? (.ofText "/new") :=
  ((Path.NoneBelow.empty _).insert (by decide) _).insert (by decide) _

theorem home_kept_nestedMounts :
    ∃ moved g', moveMount (.ofText "/old") (.ofText "/new") 0 nestedMounts = .ok moved g' ∧
      nestedMounts.routes.resolve? (.ofText lodger.basePath) = some lodging ∧
      ((∃ u' d', g'.accounts.store.user lodger.id = .ok u' ∧
          g'.routes.resolve? (.ofText u'.basePath) = some d' ∧
          d'.mount.backend = lodging.mount.backend ∧ d'.place = lodging.place) ↔
        (Path.ofText "/old").strictlyCovers lodging.mount.path = false) :=
  ⟨_, _, rfl, rfl, home_kept_iff reached_nestedMounts rfl built_nestedMounts rfl free_nestedMounts
    rfl rfl rfl⟩

/-- The mount above has moved and the home with it, but not the mount that the home was on. -/
theorem home_moves_off_its_mount :
    nestedMounts.accounts.Reached ∧ nestedMounts.routes.Built ∧
      Path.NoneBelow nestedMounts.routes.get? (.ofText "/new") ∧
      ∃ moved g', moveMount (.ofText "/old") (.ofText "/new") 0 nestedMounts = .ok moved g' ∧
        nestedMounts.accounts.store.user lodger.id = .ok lodger ∧
        nestedMounts.routes.resolve? (.ofText lodger.basePath) = some lodging ∧
        g'.accounts.store.user lodger.id = .ok { lodger with basePath := "/new/sub" } ∧
        g'.routes.resolve? (.ofText "/new/sub") =
          some ⟨⟨.ofText "/new", ⟨0⟩, 0, 0⟩, .ofText "/sub"⟩ :=
  ⟨reached_nestedMounts, built_nestedMounts, free_nestedMounts, _, _, rfl, rfl, rfl, rfl, rfl⟩

end Serving

end StorageGateway
