import StorageGateway.Access.Clearance

/-!
# The path limit

The path limit is meant to keep a user to the paths that a scope of their roles covers. Its bit is
looked up like that of any other permission, in the scopes that cover the path; so where it could
deny anything, it is not found, and a user who has it is allowed elsewhere what everybody is allowed
there. Main statement: `denied_off_scopes_iff`.
-/

namespace StorageGateway

namespace Clearance

variable {c : Clearance} {rules : Option DirectoryRules} {p : Path} {protocol : Protocol}
  {op : Operation}

/-- One of the scopes carries the path limit. -/
def Limited (c : Clearance) : Prop := ∃ s ∈ c.scopes, s.permission.contains .pathLimit = true

/-- What is allowed at a path to users of whom nothing is known: to read over HTTP and, where the meta
of the path gives leave to write, to refresh over any protocol and to write over HTTP. -/
inductive OpenToAll (rules : Option DirectoryRules) (p : Path) : Protocol → Operation → Prop
  | read : OpenToAll rules p .http .read
  | refresh (protocol : Protocol) (leave : rules.any (·.letsWrite p) = true) :
    OpenToAll rules p protocol .refresh
  | write (leave : rules.any (·.letsWrite p) = true) : OpenToAll rules p .http .write
  | setProperties (leave : rules.any (·.letsWrite p) = true) : OpenToAll rules p .http .setProperties

/-- Off the scopes nothing is granted. -/
theorem effective_off_scopes (off : c.mayRead p = false) : c.effective p = .none := by
  have uncovered : c.scopes.filter (·.covers p) = [] := by
    rw [List.filter_eq_nil_iff]
    intro s held covers
    have readable : c.mayRead p = true := List.any_eq_true.mpr ⟨s, held, covers⟩
    rw [off] at readable
    contradiction
  rw [effective, uncovered]
  rfl

theorem has_off_scopes (off : c.mayRead p = false) (perm : Permission) : c.has p perm = false := by
  rw [has, effective_off_scopes off, PermissionSet.contains_none]

/-- The limit is kept at every path: it is in force only where a scope covers the path. -/
theorem withinLimit_everywhere (c : Clearance) (p : Path) : c.withinLimit p = true := by
  unfold withinLimit
  cases readable : c.mayRead p with
  | true => rw [Bool.or_true]
  | false => rw [has_off_scopes readable, Bool.not_false, Bool.true_or]

/-- To one who is granted nothing, a protocol allows what asks for no permission. -/
theorem protocolAllows_none_iff {mayWrite : Bool} :
    protocolAllows .none mayWrite protocol op = true ↔
      protocol = .http ∧ (op = .read ∨ mayWrite = true ∧ (op = .write ∨ op = .setProperties)) := by
  cases protocol with
  | http => cases op <;> simp [protocolAllows, operationAllowed]
  | webDav => simp [protocolAllows]
  | ftp => simp [protocolAllows]

/-- Off the scopes of a user just that is allowed which is open to everybody. -/
theorem allows_off_scopes_iff (off : c.mayRead p = false) :
    c.allows rules p protocol op = true ↔ OpenToAll rules p protocol op := by
  have leave : c.mayWrite rules p = rules.any (·.letsWrite p) := by
    rw [mayWrite, has_off_scopes off, Bool.false_or]
  rw [allows, withinLimit_everywhere, Bool.true_and, effective_off_scopes off, leave]
  by_cases fresh : op = .refresh
  · subst fresh
    rw [if_pos rfl]
    constructor
    · exact .refresh protocol
    · rintro ⟨⟩
      assumption
  · rw [if_neg fresh, protocolAllows_none_iff]
    constructor
    · rintro ⟨rfl, rfl | ⟨leave, rfl | rfl⟩⟩
      · exact .read
      · exact .write leave
      · exact .setProperties leave
    · rintro (_ | _ | leave | leave)
      · exact ⟨rfl, .inl rfl⟩
      · contradiction
      · exact ⟨rfl, .inr ⟨leave, .inl rfl⟩⟩
      · exact ⟨rfl, .inr ⟨leave, .inr rfl⟩⟩

/-- Off the scopes of a user, with the path limit or without it, an operation is denied exactly if it is
not open to everybody. -/
theorem denied_off_scopes_iff (off : c.mayRead p = false) (rules : Option DirectoryRules)
    (protocol : Protocol) (op : Operation) :
    c.allows rules p protocol op = false ↔ ¬ OpenToAll rules p protocol op := by
  rw [← allows_off_scopes_iff off, Bool.not_eq_true]

/-- What a user is granted who is to keep to `/team`. -/
def teamOnly : Clearance :=
  ⟨[⟨⟨3⟩, "team", "", [⟨"/team", .ofList [.write, .webdavRead, .pathLimit]⟩]⟩]⟩

/-- Elsewhere such a user can read nothing over WebDAV. -/
theorem denied_off_scopes_iff_teamOnly :
    teamOnly.Limited ∧ teamOnly.mayRead (.ofText "/elsewhere") = false ∧
      (teamOnly.allows none (.ofText "/elsewhere") .webDav .read = false ↔
        ¬ OpenToAll none (.ofText "/elsewhere") .webDav .read) := by
  have off : teamOnly.mayRead (.ofText "/elsewhere") = false := by decide
  exact ⟨⟨_, List.mem_singleton_self _, by decide⟩, off, denied_off_scopes_iff off none .webDav .read⟩

/-- The limit does not keep them from reading elsewhere over HTTP. -/
theorem limited_reads_elsewhere :
    teamOnly.Limited ∧ teamOnly.mayRead (.ofText "/elsewhere") = false ∧
      teamOnly.allows none (.ofText "/elsewhere") .http .read = true :=
  ⟨⟨_, List.mem_singleton_self _, by decide⟩, by decide, by decide⟩

end Clearance

end StorageGateway
