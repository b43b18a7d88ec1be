import StorageGateway.Proofs.Gateway.Confined
import StorageGateway.Proofs.Gateway.Hidden

/-!
# Refused requests

A listing or a link is refused where the request tries to leave the base path, or at its gate. The
path, the roles and the meta decide that, and no mount is looked at before. So a refusal is the same
whatever is mounted, and it leaves everything but the accounts as it was: no source is called, no
backend changes, and nothing that is kept of a source is fetched anew. Main statement:
`refusals_reveal_nothing`.
-/

namespace StorageGateway

/-- The request is refused: it is denied, or it tries to leave the base path. -/
def GatewayError.isRefusal : GatewayError → Bool
  | permissionDenied _ => true
  | path _ => true
  | storage _ => false
  | account _ => false

namespace Serving

variable {α : Type} {g g₁ h : Gateway} {u : User} {request : String} {s : Standing}
  {gate : Standing → Bool} {x : User → String → Serving α} {e : GatewayError}

/-- Where a request is turned away: it tries to leave the base path, or its gate is shut. -/
inductive TurnedAway (u : User) (request : String) (gate : Standing → Bool) (g : Gateway) :
    GatewayError → Gateway → Prop
  | atPath {cause : PathError} (leads : u.resolve request = .error cause) :
    TurnedAway u request gate g (.path cause) g
  | atGate {s : Standing} {g₁ : Gateway} (stands : standing u request g = .ok s g₁)
    (shut : gate s = false) : TurnedAway u request gate g (.permissionDenied s.path) g₁

/-- A user stands to a request as on every gateway that has the same accounts and metas. -/
theorem standing_elsewhere (metas : g.metas = h.metas) (accounts : g.accounts = h.accounts)
    (stands : standing u request g = .ok s g₁) :
    ∃ accounts, g.accounts.Consults accounts ∧ g₁ = { g with accounts } ∧
      standing u request h = .ok s { h with accounts } := by
  obtain ⟨leads, rules, consulted, granted, rfl⟩ := of_standing stands
  have told := standing_run h u request
  rw [leads] at told
  obtain ⟨c, again, run, stands'⟩ := told
  rw [← accounts, granted] at run
  cases run
  have same : s = ⟨s.path, s.clearance, h.metas.nearest? s.path⟩ := by
    rw [← metas, ← rules]
  exact ⟨consulted, (Accounting.onlyLooksUp_clearance u).of_ok granted, rfl, same ▸ stands'⟩

namespace TurnedAway

theorem isRefusal (turned : TurnedAway u request gate g e g₁) : e.isRefusal = true := by
  cases turned <;> rfl

/-- Only the accounts are consulted of a request that is turned away, and it is turned away
everywhere where the accounts and the metas are the same. -/
theorem elsewhere (turned : TurnedAway u request gate g e g₁) (metas : g.metas = h.metas)
    (accounts : g.accounts = h.accounts) :
    ∃ accounts, g.accounts.Consults accounts ∧ g₁ = { g with accounts } ∧
      TurnedAway u request gate h e { h with accounts } := by
  cases turned with
  | atPath leads =>
    refine ⟨g.accounts, .refl _, rfl, ?_⟩
    rw [accounts]
    exact .atPath leads
  | atGate stands shut =>
    obtain ⟨consulted, consults, left, stands'⟩ := standing_elsewhere metas accounts stands
    exact ⟨consulted, consults, left, .atGate stands' shut⟩

end TurnedAway

namespace DecidedAt

theorem of_turnedAway (decided : DecidedAt gate x) (turned : TurnedAway u request gate g e g₁) :
    x u request g = .error e g₁ := by
  cases turned with
  | atPath leads => exact decided.of_error leads g
  | atGate stands shut => exact decided.denied_of_shut stands shut

/-- A refusal is a request that was turned away: once the gate is passed, what fails is a storage. -/
theorem turnedAway_of_refused (decided : DecidedAt gate x) (failed : x u request g = .error e h)
    (refusal : e.isRefusal = true) : TurnedAway u request gate g e h := by
  have told := standing_run g u request
  cases leads : u.resolve request with
  | error cause =>
    have refused := decided.of_turnedAway (.atPath (g := g) leads)
    rw [failed] at refused
    cases refused
    exact .atPath leads
  | ok path =>
    rw [leads] at told
    obtain ⟨c, accounts, -, stands⟩ := told
    cases shut : gate ⟨path, c, g.metas.nearest? path⟩ with
    | false =>
      have refused := decided.denied_of_shut stands shut
      rw [failed] at refused
      cases refused
      exact .atGate stands shut
    | true =>
      obtain ⟨cause, rfl⟩ := decided.fails_of_open stands shut failed
      contradiction

end DecidedAt

/-- Where a request is refused on the one gateway, it is refused on the other in the same words; both
are as before but for the accounts, which were consulted. -/
def RefusedAlike (request : Serving α) (g h : Gateway) : Prop :=
  ∀ e g₁, request g = .error e g₁ → e.isRefusal = true →
    ∃ accounts, g.accounts.Consults accounts ∧ g₁ = { g with accounts } ∧
      request h = .error e { h with accounts }

theorem DecidedAt.refusedAlike (decided : DecidedAt gate x) (metas : g.metas = h.metas)
    (accounts : g.accounts = h.accounts) : RefusedAlike (x u request) g h := by
  intro e g₁ failed refusal
  obtain ⟨consulted, consults, left, turned⟩ :=
    (decided.turnedAway_of_refused failed refusal).elsewhere metas accounts
  exact ⟨consulted, consults, left, decided.of_turnedAway turned⟩

/-- Whoever may not write may not have a listing fetched anew. -/
theorem not_allows_refresh (unwritable : s.clearance.has s.path .write = false)
    (noLeave : s.rules.any (·.letsWrite s.path) = false) : s.allows .http .refresh = false := by
  rw [Standing.allows, Clearance.allows, if_pos rfl, Clearance.mayWrite, unwritable, noLeave]
  exact Bool.and_false _

/-- What two gateways with the same accounts and metas refuse does not depend on what is mounted, nor
does it change anything that is mounted; and a request to fetch anew is refused to everybody who may
not write, by their roles or by the meta of the path. -/
theorem refusals_reveal_nothing {g h : Gateway} (metas : g.metas = h.metas)
    (accounts : g.accounts = h.accounts) (u : User) (request : String) :
    (∀ options, RefusedAlike (list u request options) g h) ∧
      (∀ password, RefusedAlike (link u request password) g h) ∧
      ∀ options : ListingOptions, options.refresh = true →
        (∀ s g₁, standing u request g = .ok s g₁ → s.clearance.has s.path .write = false ∧
          s.rules.any (·.letsWrite s.path) = false) →
        ∃ e accounts, e.isRefusal = true ∧ g.accounts.Consults accounts ∧
          list u request options g = .error e { g with accounts } := by
  refine ⟨fun options => (decidedAt_list options).refusedAlike metas accounts,
    fun password => (decidedAt_link password).refusedAlike metas accounts,
    fun options fresh mayNot => ?_⟩
  have turned : ∃ e g₁, TurnedAway u request (fun s => s.mayEnter options.password &&
      (!options.refresh || s.allows .http .refresh)) g e g₁ := by
    have told := standing_run g u request
    cases leads : u.resolve request with
    | error cause => exact ⟨_, _, .atPath leads⟩
    | ok path =>
      rw [leads] at told
      obtain ⟨c, consulted, -, stands⟩ := told
      obtain ⟨unwritable, noLeave⟩ := mayNot _ _ stands
      refine ⟨_, _, .atGate stands ?_⟩
      rw [fresh, not_allows_refresh unwritable noLeave]
      exact Bool.and_false _
  obtain ⟨e, g₁, turned⟩ := turned
  obtain ⟨consulted, consults, rfl, -⟩ := turned.elsewhere rfl rfl
  exact ⟨e, consulted, turned.isRefusal, consults, (decidedAt_list options).of_turnedAway turned⟩

/-- The gateway of `twoMetas` without its mount. -/
def twoMetasUnmounted : Gateway := { twoMetas with routes := .empty, pool := .new default }

/-- The reader, who may not write, cannot have `/d` fetched anew, nor can they tell by asking for it
whether something is mounted there. -/
theorem refusals_reveal_nothing_twoMetas :
    Denied (list reader "/d" { ListingOptions.default with refresh := true } twoMetas) ∧
      RefusedAlike (list reader "/d" { ListingOptions.default with refresh := true })
        twoMetas twoMetasUnmounted :=
  ⟨by decide +kernel,
    (refusals_reveal_nothing (g := twoMetas) (h := twoMetasUnmounted) rfl rfl reader "/d").1 _⟩

end Serving

end StorageGateway
