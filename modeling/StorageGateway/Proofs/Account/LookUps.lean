import StorageGateway.Proofs.Account.Calls

/-!
# Look-ups leave accounts as they are

A look-up counts calls and keeps answers, but the store and what it refuses stay as they are, and
whatever a cache holds afterwards it held before or is what the store answers. Main statements:
`onlyLooksUp_role`, `onlyLooksUp_user` and `onlyLooksUp_clearance`.
-/

namespace StorageGateway

/-- What the store answers for a key. -/
def AccountStore.find (s : AccountStore) : RoleRef → Except AccountError Role
  | .id id => s.role id
  | .name name => s.roleNamed name

/-- The call by which the store is asked for a key. -/
def RoleRef.call : RoleRef → StoreCall
  | .id _ => .roleOfId
  | .name _ => .roleOfName

namespace Cache

variable {κ α : Type} [KeyOrder κ] [DecidableEq κ]

/-- What is found after an answer was kept is that answer or was found before. -/
theorem get?_keep {c : Cache κ α} {k j : κ} {answer found : α}
    (present : (c.keep k answer).get? j = some found) :
    j = k ∧ answer = found ∨ c.get? j = some found := by
  rw [keep] at present
  split at present
  · exact .inr present
  · rw [get?, Dict.find?_insert] at present
    split at present
    · next same => exact .inl ⟨same, Option.some.inj present⟩
    · exact .inr present

theorem get?_forget (c : Cache κ α) (k j : κ) :
    (c.forget k).get? j = if j = k then none else c.get? j :=
  Dict.find?_erase c.kept k j

/-- Under a key that was forgotten nothing is kept; all other answers stay. -/
theorem get?_foldl_forget (keys : List κ) (c : Cache κ α) (j : κ) :
    (keys.foldl forget c).get? j = if j ∈ keys then none else c.get? j := by
  induction keys generalizing c with
  | nil => simp
  | cons k rest ih =>
    rw [List.foldl_cons, ih, get?_forget]
    by_cases later : j ∈ rest
    · simp [later]
    · by_cases first : j = k <;> simp [later, first]

/-- What is still kept was kept before, under a key that was not forgotten. -/
theorem of_get?_foldl_forget {keys : List κ} {c : Cache κ α} {j : κ} {found : α}
    (present : (keys.foldl forget c).get? j = some found) : j ∉ keys ∧ c.get? j = some found := by
  rw [get?_foldl_forget] at present
  split at present
  · contradiction
  · next remembered => exact ⟨remembered, present⟩

end Cache

namespace Accounts

/-- `b` comes from `a` by look-ups: the store and what it refuses are the same, and no answer is
kept that was not kept before or is not what the store answers. -/
structure Consults (a b : Accounts) : Prop where
  store : b.store = a.store
  refused : b.refused = a.refused
  roles : ∀ {key role}, b.roles.get? key = some role →
    a.roles.get? key = some role ∨ a.store.find key = .ok role
  users : ∀ {name user}, b.users.get? name = some user →
    a.users.get? name = some user ∨ a.store.userNamed name = .ok user

namespace Consults

theorem refl (a : Accounts) : a.Consults a := ⟨rfl, rfl, .inl, .inl⟩

theorem trans {a b c : Accounts} (first : a.Consults b) (second : b.Consults c) :
    a.Consults c where
  store := second.store.trans first.store
  refused := second.refused.trans first.refused
  roles found := by
    rcases second.roles found with kept | told
    · exact first.roles kept
    · exact .inr (first.store ▸ told)
  users found := by
    rcases second.users found with kept | told
    · exact first.users kept
    · exact .inr (first.store ▸ told)

theorem called (a : Accounts) (call : StoreCall) : a.Consults (a.called call a.store) :=
  ⟨rfl, rfl, .inl, .inl⟩

end Consults

end Accounts

namespace Accounting

open Accounts

/-- A request that only looks up, whether it answers or fails. -/
def OnlyLooksUp {α : Type} (x : Accounting α) : Prop :=
  ∀ a, match x a with
    | .ok _ b => a.Consults b
    | .error _ b => a.Consults b

namespace OnlyLooksUp

variable {α β : Type} {x : Accounting α}

theorem of_ok (h : OnlyLooksUp x) {a b : Accounts} {v : α} (run : x a = .ok v b) :
    a.Consults b := by
  have consults := h a
  rwa [run] at consults

theorem of_error (h : OnlyLooksUp x) {a b : Accounts} {e : AccountError}
    (run : x a = .error e b) : a.Consults b := by
  have consults := h a
  rwa [run] at consults

theorem pure (v : α) : OnlyLooksUp (Pure.pure v : Accounting α) := fun a => .refl a

theorem bind {f : α → Accounting β} (h : OnlyLooksUp x) (next : ∀ v, OnlyLooksUp (f v)) :
    OnlyLooksUp (x >>= f) := by
  intro a
  cases run : x a with
  | error e b =>
    rw [bind_of_error run]
    exact h.of_error run
  | ok v b =>
    rw [bind_of_ok run]
    have first := h.of_ok run
    cases more : f v b with
    | error e c => exact first.trans ((next v).of_error more)
    | ok w c => exact first.trans ((next v).of_ok more)

theorem throw (e : AccountError) : OnlyLooksUp (MonadExcept.throw e : Accounting α) :=
  fun a => .refl a

theorem mapM {f : β → Accounting α} (each : ∀ y, OnlyLooksUp (f y)) (ys : List β) :
    OnlyLooksUp (ys.mapM f) := by
  induction ys with
  | nil => exact .pure []
  | cons y rest ih =>
    rw [List.mapM_cons]
    exact (each y).bind fun _ => ih.bind fun _ => .pure _

end OnlyLooksUp

/-! ## Requests that look up -/

theorem attempt_run {α : Type} (x : Accounting α) (a : Accounts) :
    attempt x a =
      match x a with
      | .ok v b => .ok (some v) b
      | .error _ b => .ok none b := by
  have mapped : (some <$> x) a =
      match x a with
      | .ok v b => .ok (some v) b
      | .error e b => .error e b := by
    change EStateM.map some x a = _
    rw [EStateM.map]
    cases x a <;> rfl
  rw [attempt, tryCatch_run, mapped]
  cases x a <;> rfl

theorem onlyLooksUp_attempt {α : Type} {x : Accounting α} (h : OnlyLooksUp x) :
    OnlyLooksUp (attempt x) := by
  intro a
  rw [attempt_run]
  cases run : x a with
  | error e b => exact h.of_error run
  | ok v b => exact h.of_ok run

theorem onlyLooksUp_ask {α : Type} (call : StoreCall)
    (question : AccountStore → Except AccountError α) : OnlyLooksUp (ask call question) := by
  intro a
  rw [ask_eq]
  split
  · next run =>
    split at run
    · contradiction
    · split at run <;> cases run
      exact .called a call
  · next run =>
    split at run
    · cases run
      exact .called a call
    · split at run <;> cases run
      exact .called a call

theorem stored_eq (key : RoleRef) : stored key = ask key.call (·.find key) := by
  cases key <;> rfl

/-- The answer of the store is kept if the cache has none. -/
theorem role_eq (key : RoleRef) (a : Accounts) :
    role key a =
      match a.roles.get? key with
      | some r => .ok r a
      | none => match stored key a with
        | .ok r b => .ok r { b with roles := b.roles.keep key r }
        | .error e b => .error e b := by
  rw [role]
  have got : (get : Accounting Accounts) a = .ok a a := rfl
  rw [bind_of_ok got]
  cases a.roles.get? key with
  | some r => rfl
  | none =>
    dsimp only
    cases asked : stored key a with
    | error e b => rw [bind_of_error asked]
    | ok r b =>
      rw [bind_of_ok asked]
      rfl

theorem user_eq (name : String) (a : Accounts) :
    user name a =
      match a.users.get? name with
      | some u => .ok u a
      | none => match storedUserNamed name a with
        | .ok u b => .ok u { b with users := b.users.keep name u }
        | .error e b => .error e b := by
  rw [user]
  have got : (get : Accounting Accounts) a = .ok a a := rfl
  rw [bind_of_ok got]
  cases a.users.get? name with
  | some u => rfl
  | none =>
    dsimp only
    cases asked : storedUserNamed name a with
    | error e b => rw [bind_of_error asked]
    | ok u b =>
      rw [bind_of_ok asked]
      rfl

/-- A store that was asked with success answers the same from then on. -/
theorem of_ask_ok {α : Type} {call : StoreCall} {question : AccountStore → Except AccountError α}
    {a b : Accounts} {v : α} (run : ask call question a = .ok v b) :
    question a.store = .ok v ∧ b = a.called call a.store := by
  rw [ask_eq] at run
  split at run
  · contradiction
  · split at run <;> cases run
    next answer => exact ⟨answer, rfl⟩

theorem onlyLooksUp_role (key : RoleRef) : OnlyLooksUp (role key) := by
  intro a
  rw [role_eq]
  cases a.roles.get? key with
  | some r => exact .refl a
  | none =>
    rw [stored_eq]
    cases asked : ask key.call (·.find key) a with
    | error e b => exact (onlyLooksUp_ask _ _).of_error asked
    | ok r b =>
      obtain ⟨told, rfl⟩ := of_ask_ok asked
      refine ⟨rfl, rfl, fun {other found} present => ?_, .inl⟩
      rcases Cache.get?_keep present with ⟨rfl, rfl⟩ | kept
      · exact .inr told
      · exact .inl kept

theorem onlyLooksUp_user (name : String) : OnlyLooksUp (user name) := by
  intro a
  rw [user_eq]
  cases a.users.get? name with
  | some u => exact .refl a
  | none =>
    rw [storedUserNamed]
    cases asked : ask .userOfName (·.userNamed name) a with
    | error e b => exact (onlyLooksUp_ask _ _).of_error asked
    | ok u b =>
      obtain ⟨told, rfl⟩ := of_ask_ok asked
      refine ⟨rfl, rfl, .inl, fun {other found} present => ?_⟩
      rcases Cache.get?_keep present with ⟨rfl, rfl⟩ | kept
      · exact .inr told
      · exact .inl kept

theorem onlyLooksUp_refuseIf (condition : Bool) (e : AccountError) :
    OnlyLooksUp (refuseIf condition e) := by
  cases condition
  · exact .pure ()
  · exact .throw e

theorem onlyLooksUp_checkAdmin (current requested : User) :
    OnlyLooksUp (checkAdmin current requested) :=
  (onlyLooksUp_refuseIf _ _).bind fun _ => onlyLooksUp_refuseIf _ _

/-- To try look-ups one after another never fails. -/
theorem forM_attempt_run {α β : Type} {f : β → Accounting α} (each : ∀ y, OnlyLooksUp (f y))
    (ys : List β) (a : Accounts) :
    ∃ b, (ys.forM fun y => discard (attempt (f y))) a = .ok () b ∧ a.Consults b := by
  induction ys generalizing a with
  | nil => exact ⟨a, rfl, .refl a⟩
  | cons y rest ih =>
    have step : ∃ v b, attempt (f y) a = .ok v b ∧ a.Consults b := by
      rw [attempt_run]
      cases run : f y a with
      | error e b => exact ⟨none, b, rfl, (each y).of_error run⟩
      | ok v b => exact ⟨some v, b, rfl, (each y).of_ok run⟩
    obtain ⟨v, b, first, consults⟩ := step
    obtain ⟨c, others, more⟩ := ih b
    have dropped : (discard (attempt (f y)) : Accounting Unit) a = .ok () b := by
      rw [discard_run, first]
    refine ⟨c, ?_, consults.trans more⟩
    change (discard (attempt (f y)) >>= fun _ => rest.forM fun y => discard (attempt (f y))) a = _
    rw [bind_of_ok dropped]
    exact others

theorem onlyLooksUp_clearance (u : User) : OnlyLooksUp (clearance u) :=
  (OnlyLooksUp.mapM (fun id => onlyLooksUp_attempt (onlyLooksUp_role (.id id))) u.roleIds).bind
    fun _ => .pure _

end Accounting

end StorageGateway
