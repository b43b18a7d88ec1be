import StorageGateway.Account.Change
import StorageGateway.Proofs.Account.Sound

/-!
# Calls of a store by its registry

A call that is not refused runs as the store does, and no call touches the caches. Main statements:
`change_eq` and `ask_eq`.
-/

namespace StorageGateway

namespace Accounts

/-- The registry after a call that left a store behind. -/
def called (a : Accounts) (call : StoreCall) (store : AccountStore) : Accounts :=
  { a.count call with store }

variable (a : Accounts) (call : StoreCall) (store : AccountStore)

@[simp] theorem store_called : (a.called call store).store = store := rfl

/-- The registry with some roles forgotten. -/
def forgettingRoles (keys : List RoleRef) : Accounts :=
  { a with roles := keys.foldl Cache.forget a.roles }

/-- The registry with some users forgotten. -/
def forgettingUsers (names : List String) : Accounts :=
  { a with users := names.foldl Cache.forget a.users }

variable (keys : List RoleRef) (names : List String)

@[simp] theorem store_forgettingUsers : (a.forgettingUsers names).store = a.store := rfl

end Accounts

namespace Accounting

variable {a : Accounts}

/-! ## Calls of the store -/

/-- A call that is refused fails; any other runs as the store does. -/
theorem change_eq {α : Type} (call : StoreCall) (c : AccountStore.Change α) :
    change call c a =
      if a.refused.contains call then .error .store (a.called call a.store)
      else match c a.store with
        | .ok answer store => .ok answer (a.called call store)
        | .error e store => .error e (a.called call store) := by
  have same : (a.count call).refused = a.refused := rfl
  change (change call c).run a = _
  by_cases refused : a.refused.contains call = true
  · rw [if_pos refused]
    simp only [change, EStateM.run_bind, EStateM.run_modify, EStateM.run_get, same, refused]
    rfl
  · rw [if_neg refused]
    simp only [Bool.not_eq_true] at refused
    simp only [change, EStateM.run_bind, EStateM.run_modify, EStateM.run_get, same, refused]
    rfl

theorem ask_eq {α : Type} (call : StoreCall) (question : AccountStore → Except AccountError α) :
    ask call question a =
      if a.refused.contains call then .error .store (a.called call a.store)
      else match question a.store with
        | .ok answer => .ok answer (a.called call a.store)
        | .error e => .error e (a.called call a.store) := by
  have got : (get : AccountStore.Change AccountStore) a.store = .ok a.store a.store := rfl
  rw [ask, change_eq, bind_of_ok got]
  cases question a.store <;> rfl

theorem change_run {α : Type} (served : a.refused = []) (call : StoreCall)
    (c : AccountStore.Change α) :
    change call c a =
      match c a.store with
      | .ok answer store => .ok answer (a.called call store)
      | .error e store => .error e (a.called call store) := by
  rw [change_eq, served]
  rfl

theorem ask_run {α : Type} (served : a.refused = []) (call : StoreCall)
    (question : AccountStore → Except AccountError α) :
    ask call question a =
      match question a.store with
      | .ok answer => .ok answer (a.called call a.store)
      | .error e => .error e (a.called call a.store) := by
  rw [ask_eq, served]
  rfl

theorem refuseIf_run (condition : Bool) (e : AccountError) :
    refuseIf condition e a = if condition then .error e a else .ok () a := by
  cases condition <;> rfl

theorem ofExcept_run {α : Type} (answer : Except AccountError α) :
    (MonadExcept.ofExcept answer : Accounting α) a =
      match answer with
      | .ok v => .ok v a
      | .error e => .error e a := by
  cases answer <;> rfl

end Accounting

end StorageGateway
