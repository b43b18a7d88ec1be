import StorageGateway.Gateway.Request
import StorageGateway.Proofs.Account.LookUps
import StorageGateway.Proofs.Path.Covering

/-!
# When a request is denied

Listing a directory and following a link are decided by how the user stands to the request, before
any mount is looked at; whatever fails after that is no denial. Main statements: `list_denied_iff`
and `link_denied_iff`.
-/

namespace StorageGateway

namespace Accounting

/-- What the roles of a user grant can always be told: a role that cannot be loaded is left out. -/
theorem clearance_run (u : User) (a : Accounts) :
    ∃ c b, clearance u a = .ok c b ∧ a.Consults b := by
  have total : ∀ (ids : List RoleId) (a : Accounts),
      ∃ roles b, (ids.mapM fun id => attempt (role (.id id))) a = .ok roles b := by
    intro ids
    induction ids with
    | nil => exact fun a => ⟨[], a, rfl⟩
    | cons id rest ih =>
      intro a
      have step : ∃ v b, attempt (role (.id id)) a = .ok v b := by
        rw [attempt_run]
        cases role (.id id) a with
        | error e b => exact ⟨none, b, rfl⟩
        | ok v b => exact ⟨some v, b, rfl⟩
      obtain ⟨v, b, first⟩ := step
      obtain ⟨roles, c, others⟩ := ih b
      refine ⟨v :: roles, c, ?_⟩
      rw [List.mapM_cons, bind_of_ok first, bind_of_ok others]
      rfl
  obtain ⟨roles, b, run⟩ := total u.roleIds a
  have told : clearance u a = .ok ⟨roles.filterMap id⟩ b := by
    rw [clearance, bind_of_ok run]
    rfl
  exact ⟨_, b, told, (onlyLooksUp_clearance u).of_ok told⟩

end Accounting

/-- A request to the gateway was denied. -/
def Denied {α : Type} (result : EStateM.Result GatewayError Gateway α) : Prop :=
  ∃ p g, result = .error (.permissionDenied p) g

instance {α : Type} :
    (result : EStateM.Result GatewayError Gateway α) → Decidable (Denied result)
  | .error (.permissionDenied p) g => isTrue ⟨p, g, rfl⟩
  | .error (.storage _) _ => isFalse fun ⟨_, _, same⟩ => nomatch same
  | .error (.account _) _ => isFalse fun ⟨_, _, same⟩ => nomatch same
  | .error (.path _) _ => isFalse fun ⟨_, _, same⟩ => nomatch same
  | .ok _ _ => isFalse fun ⟨_, _, same⟩ => nomatch same

namespace Serving

variable {g g₁ : Gateway} {u : User} {request : String} {s : Standing}

/-- How a user stands to a request can be told unless the request tries to leave the base path. -/
theorem standing_run (g : Gateway) (u : User) (request : String) :
    match u.resolve request with
    | .error e => standing u request g = .error (.path e) g
    | .ok path => ∃ c accounts, Accounting.clearance u g.accounts = .ok c accounts ∧
        standing u request g =
          .ok { path, clearance := c, rules := g.metas.nearest? path } { g with accounts } := by
  cases leads : u.resolve request with
  | error e =>
    change standing u request g = _
    rw [standing, leads]
    rfl
  | ok path =>
    obtain ⟨c, b, run, -⟩ := Accounting.clearance_run u g.accounts
    have told : account (.clearance u) g = .ok c { g with accounts := b } := by
      rw [account, run]
    refine ⟨c, b, run, ?_⟩
    rw [standing, leads]
    dsimp only
    rw [bind_of_ok told]
    rfl

/-- Where a request leads, by which rules it is decided, and whose roles count. -/
theorem of_standing (stands : standing u request g = .ok s g₁) :
    u.resolve request = .ok s.path ∧ s.rules = g.metas.nearest? s.path ∧
      ∃ accounts, Accounting.clearance u g.accounts = .ok s.clearance accounts ∧
        g₁ = { g with accounts } := by
  have told := standing_run g u request
  cases leads : u.resolve request with
  | error e =>
    rw [leads] at told
    rw [told] at stands
    contradiction
  | ok path =>
    rw [leads] at told
    obtain ⟨c, accounts, granted, run⟩ := told
    rw [run] at stands
    cases stands
    exact ⟨rfl, rfl, accounts, granted, rfl⟩

theorem standing_of_error {cause : PathError} (leads : u.resolve request = .error cause)
    (g : Gateway) : standing u request g = .error (.path cause) g := by
  have told := standing_run g u request
  rwa [leads] at told

/-- If the request fails, it fails in a storage. -/
def FailsInStorage {α : Type} (x : Serving α) : Prop :=
  ∀ g e h, x g = .error e h → ∃ cause, e = .storage cause

namespace FailsInStorage

variable {α β : Type}

theorem pure (v : α) : FailsInStorage (Pure.pure v : Serving α) := by
  intro g e h failed
  contradiction

theorem throw (cause : StorageError) :
    FailsInStorage (MonadExcept.throw (.storage cause) : Serving α) := by
  intro g e h failed
  cases failed
  exact ⟨cause, rfl⟩

/-- Whatever comes after a failure is not reached. -/
theorem throw_bind (cause : StorageError) (f : α → Serving β) :
    FailsInStorage (MonadExcept.throw (.storage cause) >>= f) := by
  intro g e h failed
  cases failed
  exact ⟨cause, rfl⟩

theorem bind {x : Serving α} {f : α → Serving β} (first : FailsInStorage x)
    (next : ∀ v, FailsInStorage (f v)) : FailsInStorage (x >>= f) := by
  intro g e h failed
  cases run : x g with
  | ok v h =>
    rw [bind_of_ok run] at failed
    exact next v h _ _ failed
  | error e h =>
    rw [bind_of_error run] at failed
    cases failed
    exact first g _ _ run

theorem get : FailsInStorage (MonadState.get : Serving Gateway) := by
  intro g e h failed
  contradiction

theorem storage (x : Pool.Request α) : FailsInStorage (storage x) := by
  intro g e h failed
  rw [Serving.storage] at failed
  cases run : x g.pool with
  | ok v pool =>
    rw [run] at failed
    contradiction
  | error cause pool =>
    rw [run] at failed
    cases failed
    exact ⟨cause, rfl⟩

theorem rescue {x : Serving α} {handle : GatewayError → Serving α} (first : FailsInStorage x)
    (next : ∀ cause, FailsInStorage (handle (.storage cause))) :
    FailsInStorage (tryCatch x handle) := by
  intro g e h failed
  rw [tryCatch_run] at failed
  cases run : x g with
  | ok v h =>
    rw [run] at failed
    contradiction
  | error e h =>
    rw [run] at failed
    obtain ⟨cause, rfl⟩ := first g e h run
    exact next cause h _ _ failed

end FailsInStorage

theorem failsInStorage_backendEntries (path : Path) (below refresh : Bool) (patience : Patience) :
    FailsInStorage (backendEntries path below refresh patience) := by
  refine FailsInStorage.get.bind fun g => ?_
  split
  · refine (FailsInStorage.storage _).rescue fun cause => ?_
    split
    · exact .pure []
    · exact .throw cause
  · split
    · exact .pure []
    · exact .throw _

theorem require_run (s : Standing) (condition : Bool) (g : Gateway) :
    require s condition g =
      if condition then .ok () g else .error (.permissionDenied s.path) g := by
  cases condition <;> rfl

/-- Two conditions that are required one after the other are required together. -/
theorem require_bind_require {α : Type} (s : Standing) (first second : Bool) (x : Serving α) :
    (require s first >>= fun _ => require s second >>= fun _ => x) =
      require s (first && second) >>= fun _ => x := by
  cases first <;> rfl

/-- A kind of request is decided at a gate: once it is told how the user stands to the request, it is
denied if the gate is shut to them, and after that it can fail only in a storage. -/
def DecidedAt {α : Type} (gate : Standing → Bool) (x : User → String → Serving α) : Prop :=
  ∃ rest : Standing → Serving α, (∀ s, FailsInStorage (rest s)) ∧
    ∀ u request, x u request = standing u request >>= fun s => require s (gate s) >>= fun _ => rest s

/-- A listing is decided by the way in and, if it is to be fetched anew, by the leave to do so. -/
theorem decidedAt_list (options : ListingOptions) :
    DecidedAt (fun s => s.mayEnter options.password && (!options.refresh || s.allows .http .refresh))
      (list · · options) := by
  refine ⟨_, ?fails, fun u request => bind_congr fun s => require_bind_require s _ _ _⟩
  exact fun s => FailsInStorage.get.bind fun g =>
    (failsInStorage_backendEntries _ _ _ _).bind fun own => .pure _

/-- A link is decided by the way in. -/
theorem decidedAt_link (password : String) : DecidedAt (·.mayEnter password) (link · · password) := by
  refine ⟨_, ?fails, fun u request => rfl⟩
  refine fun s => FailsInStorage.get.bind fun g => ?_
  split
  · exact .throw _
  · split
    · exact .throw_bind _ _
    · refine (FailsInStorage.storage _).bind fun entries => ?_
      split
      · exact .throw _
      · exact .storage _

namespace DecidedAt

variable {α : Type} {gate : Standing → Bool} {x : User → String → Serving α}

theorem of_error (decided : DecidedAt gate x) {cause : PathError}
    (leads : u.resolve request = .error cause) (g : Gateway) :
    x u request g = .error (.path cause) g := by
  obtain ⟨rest, -, steps⟩ := decided
  rw [steps, bind_of_error (standing_of_error leads g)]

theorem denied_of_shut (decided : DecidedAt gate x) (stands : standing u request g = .ok s g₁)
    (shut : gate s = false) : x u request g = .error (.permissionDenied s.path) g₁ := by
  obtain ⟨rest, -, steps⟩ := decided
  rw [steps, bind_of_ok stands, shut]
  rfl

theorem fails_of_open (decided : DecidedAt gate x) (stands : standing u request g = .ok s g₁)
    (opened : gate s = true) {e : GatewayError} {h : Gateway} (failed : x u request g = .error e h) :
    ∃ cause, e = .storage cause := by
  obtain ⟨rest, fails, steps⟩ := decided
  rw [steps, bind_of_ok stands, opened] at failed
  exact fails s g₁ e h failed

/-- A request that leads nowhere is not denied but refused for its path. -/
theorem not_denied_of_error (decided : DecidedAt gate x) {cause : PathError}
    (leads : u.resolve request = .error cause) (g : Gateway) : ¬ Denied (x u request g) := by
  rw [decided.of_error leads g]
  rintro ⟨p, h, same⟩
  cases same

theorem denied_iff (decided : DecidedAt gate x) (stands : standing u request g = .ok s g₁) :
    Denied (x u request g) ↔ gate s = false := by
  constructor
  · rintro ⟨p, h, denied⟩
    by_contra opened
    obtain ⟨cause, same⟩ :=
      decided.fails_of_open stands (Bool.eq_true_of_not_eq_false opened) denied
    contradiction
  · exact fun shut => ⟨s.path, g₁, decided.denied_of_shut stands shut⟩

end DecidedAt

/-- A listing is denied for want of a way in or, if it is to be fetched anew, of the leave to do
so. -/
theorem list_denied_iff (stands : standing u request g = .ok s g₁) (options : ListingOptions) :
    Denied (list u request options g) ↔
      s.mayEnter options.password = false ∨
        options.refresh = true ∧ s.allows .http .refresh = false := by
  rw [(decidedAt_list options).denied_iff stands, Bool.and_eq_false_iff, Bool.or_eq_false_iff,
    Bool.not_eq_false_eq_eq_true]

/-- A link is denied for want of a way in. -/
theorem link_denied_iff (stands : standing u request g = .ok s g₁) (password : String) :
    Denied (link u request password g) ↔ s.mayEnter password = false :=
  (decidedAt_link password).denied_iff stands

end Serving

end StorageGateway
