import StorageGateway.Proofs.Access.PathLimit
import StorageGateway.Proofs.Path.Covering

/-!
# More scopes, more permissions

Nothing that a role grants is taken back: further down the tree, and with more roles, a path is
covered by the scopes that covered it before and perhaps by more of them. No check asks that a bit be
missing except that of the path limit, which holds everywhere. Main statement: `permissions_grow`.
-/

namespace StorageGateway

namespace PermissionSet

variable {s t : PermissionSet} {sets more : List PermissionSet} {i : Nat}

/-- Every bit of the one mask is set in the other, whether it stands for a permission or not. -/
instance : HasSubset PermissionSet :=
  ⟨fun s t => ∀ i, s.bits.getLsbD i = true → t.bits.getLsbD i = true⟩

theorem contains_mono (within : s ⊆ t) {perm : Permission} (held : s.contains perm = true) :
    t.contains perm = true :=
  within perm.position held

theorem getLsbD_foldl_union (start : PermissionSet) :
    (sets.foldl union start).bits.getLsbD i = true ↔
      start.bits.getLsbD i = true ∨ ∃ s ∈ sets, s.bits.getLsbD i = true := by
  induction sets generalizing start with
  | nil => simp
  | cons s rest ih =>
    rw [List.foldl_cons, ih (start.union s)]
    simp [union, or_assoc]

/-- A bit is set in a union if it is set in one of the masks. -/
theorem getLsbD_unions :
    (unions sets).bits.getLsbD i = true ↔ ∃ s ∈ sets, s.bits.getLsbD i = true := by
  rw [unions, getLsbD_foldl_union]
  simp [none]

theorem unions_mono (within : sets ⊆ more) : unions sets ⊆ unions more := by
  intro i set
  obtain ⟨s, member, bit⟩ := getLsbD_unions.mp set
  exact getLsbD_unions.mpr ⟨s, within member, bit⟩

end PermissionSet

namespace Clearance

variable {c d : Clearance} {rules : Option DirectoryRules} {p q : Path} {perm : Permission}
  {perms more : PermissionSet} {writes writesMore : Bool} {protocol : Protocol} {op : Operation}

theorem scopes_mono (roles : c.roles ⊆ d.roles) : c.scopes ⊆ d.scopes := by
  intro s held
  obtain ⟨r, role, scope⟩ := List.mem_flatMap.mp held
  exact List.mem_flatMap.mpr ⟨r, roles role, scope⟩

/-- The scopes over a path cover what is beneath it. -/
theorem covering_mono (roles : c.roles ⊆ d.roles) (above : p.covers q = true) :
    c.scopes.filter (·.covers p) ⊆ d.scopes.filter (·.covers q) := by
  intro s held
  obtain ⟨scope, covers⟩ := List.mem_filter.mp held
  exact List.mem_filter.mpr ⟨scopes_mono roles scope, Path.covers_trans covers above⟩

theorem effective_mono (roles : c.roles ⊆ d.roles) (above : p.covers q = true) :
    c.effective p ⊆ d.effective q :=
  PermissionSet.unions_mono (List.map_subset _ (covering_mono roles above))

theorem has_mono (roles : c.roles ⊆ d.roles) (above : p.covers q = true)
    (held : c.has p perm = true) : d.has q perm = true :=
  PermissionSet.contains_mono (effective_mono roles above) held

theorem mayRead_mono (roles : c.roles ⊆ d.roles) (above : p.covers q = true)
    (readable : c.mayRead p = true) : d.mayRead q = true := by
  obtain ⟨s, scope, covers⟩ := List.any_eq_true.mp readable
  have ⟨held, beneath⟩ :=
    List.mem_filter.mp (covering_mono roles above (List.mem_filter.mpr ⟨scope, covers⟩))
  exact List.any_eq_true.mpr ⟨s, held, beneath⟩

theorem sees_mono (roles : c.roles ⊆ d.roles) (visible : c.sees rules p = true) :
    d.sees rules p = true := by
  cases rules with
  | none => rfl
  | some r =>
    rcases Bool.or_eq_true_iff.mp visible with shown | seesHides
    · exact Bool.or_eq_true_iff.mpr (.inl shown)
    · exact Bool.or_eq_true_iff.mpr (.inr (has_mono roles p.covers_refl seesHides))

theorem mayEnter_mono (roles : c.roles ⊆ d.roles) {password : String}
    (entered : c.mayEnter rules p password = true) : d.mayEnter rules p password = true := by
  simp only [mayEnter, Bool.and_eq_true, Bool.or_eq_true] at entered ⊢
  obtain ⟨⟨readable, visible⟩, gate⟩ := entered
  exact ⟨⟨mayRead_mono roles p.covers_refl readable, sees_mono roles visible⟩,
    gate.imp_left (has_mono roles p.covers_refl)⟩

theorem mayWrite_mono (roles : c.roles ⊆ d.roles) (writes : c.mayWrite rules p = true) :
    d.mayWrite rules p = true := by
  simp only [mayWrite, Bool.or_eq_true] at writes ⊢
  exact writes.imp_left (has_mono roles p.covers_refl)

theorem operationAllowed_mono (within : perms ⊆ more) (allowed : operationAllowed perms op = true) :
    operationAllowed more op = true := by
  have held (perm : Permission) : perms.contains perm = true → more.contains perm = true :=
    PermissionSet.contains_mono within
  cases op with
  | read | setProperties => rfl
  | refresh | write | rename | copy | remove => exact held _ allowed
  | move renames =>
    simp only [operationAllowed, Bool.and_eq_true, Bool.or_eq_true] at allowed ⊢
    exact ⟨held _ allowed.1, allowed.2.imp_right (held _)⟩

/-- A protocol asks for bits and for leave to write, and never that one of them be missing. -/
theorem protocolAllows_mono (within : perms ⊆ more) (leave : writes = true → writesMore = true)
    (allowed : protocolAllows perms writes protocol op = true) :
    protocolAllows more writesMore protocol op = true := by
  have held (perm : Permission) : perms.contains perm = true → more.contains perm = true :=
    PermissionSet.contains_mono within
  have own : operationAllowed perms op = true → operationAllowed more op = true :=
    operationAllowed_mono within
  cases protocol with
  | http =>
    cases op with
    | read => rfl
    | write | setProperties => exact leave allowed
    | refresh | rename | move _ | copy | remove => exact own allowed
  | webDav =>
    simp only [protocolAllows, Bool.and_eq_true, Bool.or_eq_true] at allowed ⊢
    exact ⟨held _ allowed.1, allowed.2.imp_right fun other => ⟨held _ other.1, own other.2⟩⟩
  | ftp =>
    simp only [protocolAllows, Bool.and_eq_true, Bool.or_eq_true] at allowed ⊢
    refine ⟨held _ allowed.1, allowed.2.imp_right fun other => ⟨held _ other.1, ?_⟩⟩
    have asked := other.2
    by_cases uploads : op = .write
    · rw [if_pos uploads] at asked ⊢
      exact leave asked
    · rw [if_neg uploads] at asked ⊢
      exact own asked

theorem allows_mono (roles : c.roles ⊆ d.roles) (allowed : c.allows rules p protocol op = true) :
    d.allows rules p protocol op = true := by
  rw [allows, withinLimit_everywhere, Bool.true_and] at allowed ⊢
  by_cases fresh : op = .refresh
  · rw [if_pos fresh] at allowed ⊢
    exact mayWrite_mono roles allowed
  · rw [if_neg fresh] at allowed ⊢
    exact protocolAllows_mono (effective_mono roles p.covers_refl) (mayWrite_mono roles) allowed

/-- What the one clearance allows at a path under some rules, the other allows there too. -/
structure AllowsNoMore (c d : Clearance) (rules : Option DirectoryRules) (p : Path) : Prop where
  mayRead : c.mayRead p = true → d.mayRead p = true
  sees : c.sees rules p = true → d.sees rules p = true
  mayEnter : ∀ password, c.mayEnter rules p password = true → d.mayEnter rules p password = true
  mayWrite : c.mayWrite rules p = true → d.mayWrite rules p = true
  allows : ∀ protocol op, c.allows rules p protocol op = true → d.allows rules p protocol op = true

/-- Whoever has some permissions at a path has them beneath it and can read there what they can read
at the path; and whatever is allowed is still allowed once there are more roles, wherever in the order
they come. -/
theorem permissions_grow (c : Clearance) :
    (∀ p q : Path, p.covers q = true →
      c.effective p ⊆ c.effective q ∧ (c.mayRead p = true → c.mayRead q = true)) ∧
      ∀ d : Clearance, c.roles ⊆ d.roles → ∀ rules p, c.AllowsNoMore d rules p := by
  have same : c.roles ⊆ c.roles := List.Subset.refl _
  constructor
  · intro p q above
    exact ⟨effective_mono same above, mayRead_mono same above⟩
  · intro d roles rules p
    exact {
      mayRead := mayRead_mono roles p.covers_refl
      sees := sees_mono roles
      mayEnter := fun _ => mayEnter_mono roles
      mayWrite := mayWrite_mono roles
      allows := fun _ _ => allows_mono roles }

/-- The roles of `teamOnly`, with the role of visitors before them. -/
def teamAndGuest : Clearance := ⟨Role.guest :: teamOnly.roles⟩

/-- Who may write in the folder of the team may write beneath it, and still may as a visitor. -/
theorem permissions_grow_teamOnly :
    teamOnly.effective (.ofText "/team") ⊆ teamOnly.effective (.ofText "/team/a") ∧
      teamOnly.AllowsNoMore teamAndGuest none (.ofText "/team/a") ∧
      teamOnly.allows none (.ofText "/team/a") .http .write = true :=
  have ⟨beneath, extended⟩ := permissions_grow teamOnly
  ⟨(beneath (.ofText "/team") (.ofText "/team/a") (by decide)).1,
    extended teamAndGuest (List.subset_cons_self _ _) none _, by decide⟩

end Clearance

end StorageGateway
