import StorageGateway.Access.Clearance
import StorageGateway.Proofs.Account.Follow
import StorageGateway.Proofs.Path.Following

/-!
# Decisions at paths that follow

When `old` becomes `new` in one directory, scopes follow and metas do not. At the place that a path
gets, roles that have followed grant what they granted before, and rules from outside of `old` hold
as before, except that they may hide the name of `new` and not that of `old`, or the other way
round. Main statements: `Clearance.mayEnter_follow` and `Clearance.allows_follow`.
-/

namespace StorageGateway

variable {old new p q : Path}

namespace Scope

theorem ofText_path_follow (s : Scope) (old new : Path) :
    Path.ofText (s.follow old new).path =
      ((Path.ofText s.path).follow? old new).getD (.ofText s.path) := by
  rw [follow]
  cases (Path.ofText s.path).follow? old new with
  | none => rfl
  | some target => exact Path.ofText_text target

theorem permission_follow (s : Scope) (old new : Path) :
    (s.follow old new).permission = s.permission := by
  rw [follow]
  split <;> rfl

theorem covers_follow {s : Scope} (follows : Path.Follows old new p q)
    (siblings : old.parent = new.parent) (outside : new.covers (.ofText s.path) = false) :
    (s.follow old new).covers q = s.covers p := by
  rw [covers, ofText_path_follow, follows.covers_follow siblings outside]
  rfl

end Scope

namespace DirectoryRules

/-- The rules come from outside of `old`; where they apply to the name of `old` itself, they treat
that of `new` alike. -/
structure IgnoresMove (r : DirectoryRules) (old new p : Path) : Prop where
  outside : old.covers (.ofText r.source.path) = false
  alike : p = old → r.hidesWithin old.parent = true →
    r.hide.hides new.lastSegment = r.hide.hides old.lastSegment

variable {r : DirectoryRules}

section Outside

variable (follows : Path.Follows old new p q) (siblings : old.parent = new.parent)
  (outsideOld : old.covers (.ofText r.source.path) = false)
  (outsideNew : new.covers (.ofText r.source.path) = false)

include follows siblings outsideOld outsideNew

theorem reaches_follow (below : Bool) :
    r.source.reaches q below = r.source.reaches p below := by
  have apart : ∀ {base place : Path}, base.covers place = true →
      base.covers (.ofText r.source.path) = false → (Path.ofText r.source.path == place) = false := by
    intro base place inside outside
    rw [beq_eq_false_iff_ne]
    intro same
    rw [same, inside] at outside
    contradiction
  rw [Meta.reaches, Meta.reaches, apart follows.new_covers outsideNew,
    apart follows.covers outsideOld, follows.covers_eq siblings outsideOld outsideNew]

theorem hidesWithin_follow : r.hidesWithin q = r.hidesWithin p := by
  rw [hidesWithin, hidesWithin, reaches_follow follows siblings outsideOld outsideNew]

theorem locks_follow : r.locks q = r.locks p := by
  rw [locks, locks, reaches_follow follows siblings outsideOld outsideNew]

theorem letsWrite_follow : r.letsWrite q = r.letsWrite p := by
  rw [letsWrite, letsWrite, reaches_follow follows siblings outsideOld outsideNew]

end Outside

/-- An entry that follows is hidden as before. Beneath `old` it has kept its name, and `old` itself
stays in its directory. -/
theorem hidden_follow (follows : Path.Follows old new p q) (siblings : old.parent = new.parent)
    (ignores : r.IgnoresMove old new p) (outsideNew : new.covers (.ofText r.source.path) = false) :
    (r.hidesWithin q.parent && r.hide.hides q.lastSegment) =
      (r.hidesWithin p.parent && r.hide.hides p.lastSegment) := by
  by_cases top : p = old
  · obtain rfl := top
    obtain rfl := follows.eq_new
    rw [← siblings]
    cases within : r.hidesWithin p.parent with
    | false => rw [Bool.false_and, Bool.false_and]
    | true => rw [ignores.alike rfl within]
  · obtain ⟨parents, name⟩ := follows.parent top
    rw [name, hidesWithin_follow parents siblings ignores.outside outsideNew]

end DirectoryRules

namespace Clearance

/-- What the roles grant after `old` has become `new`. -/
def follow (c : Clearance) (old new : Path) : Clearance := ⟨c.roles.map fun r => r.follow old new⟩

variable {c : Clearance} {rules : Option DirectoryRules}

theorem scopes_follow (c : Clearance) (old new : Path) :
    (c.follow old new).scopes = c.scopes.map fun s => s.follow old new := by
  rw [scopes, scopes, follow, List.flatMap_map, List.map_flatMap]
  rfl

section Scopes

variable (follows : Path.Follows old new p q) (siblings : old.parent = new.parent)
  (outside : ∀ s ∈ c.scopes, new.covers (.ofText s.path) = false)

include follows siblings outside

theorem effective_follow : (c.follow old new).effective q = c.effective p := by
  have covering : ∀ s ∈ c.scopes, (s.follow old new).covers q = s.covers p :=
    fun s present => Scope.covers_follow follows siblings (outside s present)
  have masks : Scope.permission ∘ (fun s => s.follow old new) = Scope.permission :=
    funext fun s => s.permission_follow old new
  have kept : c.scopes.filter ((·.covers q) ∘ fun s => s.follow old new) =
      c.scopes.filter (·.covers p) := List.filter_congr covering
  rw [effective, effective, scopes_follow, List.filter_map, List.map_map, masks, kept]

theorem has_follow (perm : Permission) : (c.follow old new).has q perm = c.has p perm := by
  rw [has, has, effective_follow follows siblings outside]

theorem mayRead_follow : (c.follow old new).mayRead q = c.mayRead p := by
  rw [mayRead, mayRead, scopes_follow, List.any_map, Bool.eq_iff_iff, List.any_eq_true,
    List.any_eq_true]
  refine exists_congr fun s => and_congr_right fun present => ?_
  rw [Function.comp_apply, Scope.covers_follow follows siblings (outside s present)]

variable (ignores : ∀ r ∈ rules, r.IgnoresMove old new p)
  (elsewhere : ∀ r ∈ rules, new.covers (.ofText r.source.path) = false)

include ignores elsewhere

theorem sees_follow : (c.follow old new).sees rules q = c.sees rules p := by
  cases rules with
  | none => rfl
  | some r =>
    rw [sees, sees, has_follow follows siblings outside,
      DirectoryRules.hidden_follow follows siblings (ignores r rfl) (elsewhere r rfl)]

/-- A path that follows can be reached as before. -/
theorem mayEnter_follow (password : String) :
    (c.follow old new).mayEnter rules q password = c.mayEnter rules p password := by
  rw [mayEnter.eq_def, mayEnter.eq_def, mayRead_follow follows siblings outside,
    sees_follow follows siblings outside ignores elsewhere,
    has_follow follows siblings outside]
  cases rules with
  | none => rfl
  | some r =>
    dsimp only
    rw [DirectoryRules.locks_follow follows siblings (ignores r rfl).outside (elsewhere r rfl)]

theorem mayWrite_follow : (c.follow old new).mayWrite rules q = c.mayWrite rules p := by
  rw [mayWrite, mayWrite, has_follow follows siblings outside]
  cases rules with
  | none => rfl
  | some r =>
    rw [Option.any_some, Option.any_some,
      DirectoryRules.letsWrite_follow follows siblings (ignores r rfl).outside (elsewhere r rfl)]

/-- At a path that follows the same operations are allowed as before. -/
theorem allows_follow (protocol : Protocol) (op : Operation) :
    (c.follow old new).allows rules q protocol op = c.allows rules p protocol op := by
  rw [allows, allows, withinLimit, withinLimit, mayRead_follow follows siblings outside,
    has_follow follows siblings outside, effective_follow follows siblings outside,
    mayWrite_follow follows siblings outside ignores elsewhere]

end Scopes

end Clearance

end StorageGateway
