import StorageGateway.Proofs.Access.Following
import StorageGateway.Proofs.Gateway.MoveMount
import StorageGateway.Proofs.Meta.Index

/-!
# Access after a mount has moved

Scopes and base paths follow a mount that moves, but metas stay where they are, and hide patterns go
by names. So whoever had their home at the mount or beneath it is let in and kept out as before,
except where a meta at the old place was left behind, or where the mount itself was hidden, or will
be, for its name. Main statement: `decisions_kept`.
-/

namespace StorageGateway

namespace AccountStore

/-- What followed roles grant to users who followed. -/
theorem granted_follow (s : AccountStore) (u : User) (old new : Path) :
    ((s.followRoles old new).followUsers old new).granted (u.follow old new) =
      (s.granted u).follow old new := by
  have followed : ∀ id, (((s.followRoles old new).followUsers old new).role id).toOption =
      (s.role id).toOption.map fun role => role.follow old new := by
    intro id
    rw [role_followUsers, role_followRoles]
    cases s.role id <;> rfl
  rw [granted, granted, Clearance.follow, List.map_filterMap]
  exact congrArg _ (List.filterMap_congr fun id _ => followed id)

/-- No stored role has a scope at a path or beneath it. -/
def NoScopeBelow (s : AccountStore) (p : Path) : Prop :=
  ∀ id role, s.role id = .ok role → ∀ scope ∈ role.scopes, p.covers (.ofText scope.path) = false

theorem noScopeBelow_iff {s : AccountStore} (distinct : s.Distinct) {roles : List Role}
    (all : s.allRoles = .ok roles) (p : Path) :
    s.NoScopeBelow p ↔
      ∀ role ∈ roles, ∀ scope ∈ role.scopes, p.covers (.ofText scope.path) = false := by
  constructor
  · intro none role listed
    exact none role.id role ((mem_allRoles distinct all role).mp listed)
  · intro none id role known
    refine none role ((mem_allRoles distinct all role).mpr ?_)
    rw [(distinct.of_role known).1, known]

theorem NoScopeBelow.granted {s : AccountStore} {p : Path} (none : s.NoScopeBelow p) (u : User) :
    ∀ scope ∈ (s.granted u).scopes, p.covers (.ofText scope.path) = false := by
  intro scope present
  obtain ⟨role, among, of⟩ := List.mem_flatMap.mp present
  obtain ⟨id, -, known⟩ := List.mem_filterMap.mp among
  cases told : s.role id with
  | error e =>
    rw [told] at known
    contradiction
  | ok found =>
    rw [told] at known
    cases known
    exact none id role told scope of

end AccountStore

namespace Serving

variable {g g' : Gateway} {old new path : Path} {now : Time} {moved : PathMove} {u u' : User}
  {request : String}

/-- While the store can be reached, a user stands to a request as their stored roles say. -/
theorem standing_of_coherent (coherent : g.accounts.Coherent) (served : g.accounts.refused = [])
    (leads : u.resolve request = .ok path) :
    ∃ g₁, standing u request g =
      .ok ⟨path, g.accounts.store.granted u, g.metas.nearest? path⟩ g₁ := by
  have stands := standing_run g u request
  rw [leads] at stands
  obtain ⟨c, accounts, run, told⟩ := stands
  obtain ⟨b, granted, -⟩ := Accounting.clearance_of_coherent coherent served u
  cases run.symm.trans granted
  exact ⟨_, told⟩

/-- A user who has moved is looked up anew. -/
theorem user_of_moved (move : g.Moved old new now g') (stored : g.accounts.store.user u.id = .ok u)
    (home : old.covers (.ofText u.basePath) = true) :
    ∃ accounts, user u.username g' = .ok (u.follow old new) { g' with accounts } ∧
      g'.accounts.Consults accounts := by
  have run := Accounting.user_eq u.username g'.accounts
  have named := move.accounts.store_reached.distinct.userNamed (move.user stored)
  have asked := Accounting.ask_run move.served .userOfName (·.userNamed u.username)
  change g'.accounts.store.userNamed u.username = _ at named
  change Accounting.storedUserNamed u.username g'.accounts = _ at asked
  rw [move.forgotten stored home, asked, named] at run
  exact ⟨_, by rw [user, account, run], (Accounting.onlyLooksUp_user _).of_ok run⟩

/-- A request is decided in two gateways alike. -/
def DecidedAlike (u u' : User) (request : String) (g g' : Gateway) : Prop :=
  (∀ options, Denied (list u' request options g') ↔ Denied (list u request options g)) ∧
    ∀ password, Denied (link u' request password g') ↔ Denied (link u request password g)

theorem decidedAlike_of_refused {e e' : PathError} (leads : u.resolve request = .error e)
    (leads' : u'.resolve request = .error e') : DecidedAlike u u' request g g' :=
  ⟨fun options => iff_of_false ((decidedAt_list options).not_denied_of_error leads' g')
      ((decidedAt_list options).not_denied_of_error leads g),
    fun password => iff_of_false ((decidedAt_link password).not_denied_of_error leads' g')
      ((decidedAt_link password).not_denied_of_error leads g)⟩

theorem decidedAlike_of_standing {s s' : Standing} {g₁ g₁' : Gateway}
    (stands : standing u request g = .ok s g₁) (stands' : standing u' request g' = .ok s' g₁')
    (enters : ∀ password, s'.mayEnter password = s.mayEnter password)
    (refreshes : s'.allows .http .refresh = s.allows .http .refresh) :
    DecidedAlike u u' request g g' := by
  refine ⟨fun options => ?_, fun password => ?_⟩
  · rw [list_denied_iff stands', list_denied_iff stands, enters, refreshes]
  · rw [link_denied_iff stands', link_denied_iff stands, enters]

/-- Where roles have followed and metas have stayed, a request that leads to a path that follows is
decided as before. -/
theorem decidedAlike_of_follows [PatternEngine] {target : Path} (coherent : g.accounts.Coherent)
    (served : g.accounts.refused = []) (coherent' : g'.accounts.Coherent)
    (served' : g'.accounts.refused = []) (built : g.metas.Built) (metas : g'.metas = g.metas)
    (grants : g'.accounts.store.granted u' = (g.accounts.store.granted u).follow old new)
    (leads : u.resolve request = .ok path) (leads' : u'.resolve request = .ok target)
    (follows : Path.Follows old new path target) (siblings : old.parent = new.parent)
    (noMeta : Path.NoneBelow g.metas.get? new) (noScope : g.accounts.store.NoScopeBelow new)
    (ignores : ∀ r ∈ g.metas.nearest? path, r.IgnoresMove old new path) :
    DecidedAlike u u' request g g' := by
  obtain ⟨g₁, stands⟩ := standing_of_coherent coherent served leads
  obtain ⟨g₂, stands'⟩ := standing_of_coherent coherent' served' leads'
  have rules : g'.metas.nearest? target = g.metas.nearest? path := by
    rw [metas]
    exact built.nearest?_follow follows siblings noMeta fun r governs => (ignores r governs).outside
  have elsewhere : ∀ r ∈ g.metas.nearest? path, new.covers (.ofText r.source.path) = false := by
    intro r governs
    rw [← Bool.not_eq_true]
    intro below
    have found := (built.of_nearest? governs).1
    rw [noMeta _ below] at found
    contradiction
  have scopes := noScope.granted u
  rw [grants, rules] at stands'
  refine decidedAlike_of_standing stands stands' (fun password => ?_) ?_
  · exact Clearance.mayEnter_follow follows siblings scopes ignores elsewhere password
  · exact Clearance.allows_follow follows siblings scopes ignores elsewhere .http .refresh

/-- Requests of users who move with a mount are decided as before, unless a meta is left behind, as
long as no count of numbers has come round. -/
theorem decisions_kept [PatternEngine] (reached : g.accounts.ReachedInRange)
    (served : g.accounts.refused = []) (built : g.metas.Built)
    (run : moveMount old new now g = .ok moved g')
    (siblings : old.parent = new.parent) (noMeta : Path.NoneBelow g.metas.get? new)
    (noScope : g.accounts.store.NoScopeBelow new) (stored : g.accounts.store.user u.id = .ok u)
    (home : old.covers (.ofText u.basePath) = true) :
    ∃ u' g'', user u.username g' = .ok u' g'' ∧ g'.accounts.store.user u.id = .ok u' ∧
      ∀ request, (∀ path, u.resolve request = .ok path →
          ∀ r ∈ g.metas.nearest? path, r.IgnoresMove old new path) →
        DecidedAlike u u' request g g'' := by
  have move := moved_of_moveMount reached.reached served run
  obtain ⟨reachedAfter, store⟩ := store_of_moveMount reached served run
  obtain ⟨accounts, again, consults⟩ := user_of_moved move stored home
  refine ⟨u.follow old new, _, again, move.user stored, fun request ignores => ?_⟩
  have base := User.basePath_follows home new
  have leads' := base.joinBelow request
  cases leads : u.resolve request with
  | error e =>
    rw [User.resolve] at leads
    rw [leads] at leads'
    exact decidedAlike_of_refused leads leads'
  | ok path =>
    have unmoved := ignores path leads
    rw [User.resolve] at leads
    rw [leads] at leads'
    obtain ⟨target, leads', follows⟩ := leads'
    have grants : accounts.store.granted (u.follow old new) =
        (g.accounts.store.granted u).follow old new := by
      rw [consults.store, store, AccountStore.granted_follow]
    exact decidedAlike_of_follows reached.coherent served
      (consults.coherent reachedAfter.coherent) (consults.refused.trans move.served) built
      move.metas grants leads leads' follows siblings noMeta noScope unmoved

/-- A user at home on the mount that moves. -/
def dweller : User := ⟨⟨1⟩, "bob", "/old", [⟨3⟩], false, 0⟩

/-- A gateway with the home of the dweller, where one meta hides the home for its name, and another
locks a directory in it. -/
def lockedHome : Gateway :=
  { (Gateway.new .default (after (AccountStore.putUser { dweller with id := ⟨0⟩ })
        (after (AccountStore.putRole ⟨⟨0⟩, "readers", "", [⟨"/old", .none⟩]⟩) (.records .empty)))
      default).mount (.ofText "/old")
        ((Backend.memory (.new 0)).makeDirectory .root "sub" 0).backend 0 with
    metas := (MetaIndex.empty.set ((Meta.plain "/").hidingMatches "^old$" false)).set
      ((Meta.plain "/old/sub").guardedBy "pw" false) }

theorem reached_lockedHome : lockedHome.accounts.ReachedInRange :=
  .new _ _ (.putUser _ (.putRole _ .noRecords (by decide)) (by decide))

theorem built_lockedHome : lockedHome.metas.Built := .set _ (.set _ .empty)

theorem noMeta_lockedHome : Path.NoneBelow lockedHome.metas.get? (.ofText "/new") :=
  ((Path.NoneBelow.empty _).insert (by decide) _).insert (by decide) _

theorem noScope_lockedHome : lockedHome.accounts.store.NoScopeBelow (.ofText "/new") := by
  have all : lockedHome.accounts.store.allRoles =
    .ok [⟨⟨3⟩, "readers", "", [⟨"/old", .none⟩]⟩] := rfl
  rw [AccountStore.noScopeBelow_iff reached_lockedHome.coherent.sound.distinct all]
  decide

theorem decisions_kept_lockedHome :
    ∃ moved g' u' g'', moveMount (.ofText "/old") (.ofText "/new") 0 lockedHome = .ok moved g' ∧
      user dweller.username g' = .ok u' g'' ∧
      DecidedAlike dweller u' "other" lockedHome g'' := by
  obtain ⟨moved, g', run⟩ :
    ∃ moved g', moveMount (.ofText "/old") (.ofText "/new") 0 lockedHome = .ok moved g' :=
    ⟨_, _, rfl⟩
  obtain ⟨u', g'', again, -, alike⟩ := decisions_kept (u := dweller) reached_lockedHome rfl
    built_lockedHome run (by decide) noMeta_lockedHome noScope_lockedHome rfl (by decide)
  refine ⟨moved, g', u', g'', run, again, alike "other" fun path leads r governs => ?_⟩
  have place : dweller.resolve "other" = .ok (.ofText "/old/other") := rfl
  have above : lockedHome.metas.nearest? (.ofText "/old/other") =
    some (.ofMeta ((Meta.plain "/").hidingMatches "^old$" false)) := rfl
  cases leads.symm.trans place
  cases above.symm.trans governs
  exact ⟨rfl, fun same => absurd same (by decide)⟩

/-- The home was hidden for its name and is not at the new place, where the directory in it is not
locked either. -/
theorem move_opens_home :
    lockedHome.accounts.ReachedInRange ∧ lockedHome.accounts.refused = [] ∧ lockedHome.metas.Built ∧
      (Path.ofText "/old").parent = (Path.ofText "/new").parent ∧
      Path.NoneBelow lockedHome.routes.get? (.ofText "/new") ∧
      Path.NoneBelow lockedHome.metas.get? (.ofText "/new") ∧
      lockedHome.accounts.store.NoScopeBelow (.ofText "/new") ∧
      lockedHome.accounts.store.allUsers = .ok [dweller] ∧
      ∃ moved g' u' g'', moveMount (.ofText "/old") (.ofText "/new") 0 lockedHome = .ok moved g' ∧
        user dweller.username g' = .ok u' g'' ∧
        Denied (list dweller "" .default lockedHome) ∧ ¬ Denied (list u' "" .default g'') ∧
        Denied (list dweller "sub" .default lockedHome) ∧ ¬ Denied (list u' "sub" .default g'') := by
  have noMount : Path.NoneBelow lockedHome.routes.get? (.ofText "/new") :=
    (Path.NoneBelow.empty _).insert (by decide) _
  refine ⟨reached_lockedHome, rfl, built_lockedHome, by decide, noMount, noMeta_lockedHome,
    noScope_lockedHome, rfl, _, _, _, _, rfl, rfl, ?_⟩
  decide +kernel

end Serving

end StorageGateway
