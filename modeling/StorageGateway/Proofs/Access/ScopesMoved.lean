import Mathlib.Data.List.Forall2
import StorageGateway.Proofs.Access.Following

/-!
# What scopes grant once they have moved

When `old` becomes `new`, each scope at `old` or beneath it takes its mask along, and all others
stay in their places. Scopes that move grant at the place of a path what they granted at the path,
for any `old` and `new`, be they apart or one within the other. Main statement: `scopes_followed`.
-/

namespace StorageGateway

variable {old new p q : Path}

namespace Scope

/-- `after` is what has become of `before`: a scope that follows has its mask at the new place, and
any other scope has not changed. -/
structure Becomes (old new : Path) (before after : Scope) : Prop where
  inside : ∀ target, Path.Follows old new (.ofText before.path) target →
    after = ⟨target.text, before.permission⟩
  outside : old.covers (.ofText before.path) = false → after = before

theorem becomes_follow (s : Scope) (old new : Path) : s.Becomes old new (s.follow old new) where
  inside target moves := by rw [follow, Path.follow?_eq_some_iff.mpr moves]
  outside apart := by rw [follow, Path.follow?_eq_none_iff.mpr apart]

/-- A scope that follows covers at the new place what it covered at the old one. -/
theorem covers_follow_of_inside {s : Scope} (follows : Path.Follows old new p q)
    (inside : old.covers (.ofText s.path) = true) : (s.follow old new).covers q = s.covers p := by
  rw [covers, ofText_path_follow]
  cases moved : (Path.ofText s.path).follow? old new with
  | none =>
    rw [Path.follow?_eq_none_iff, inside] at moved
    contradiction
  | some target => exact follows.covers_of_follows (Path.follow?_eq_some_iff.mp moved)

/-- A scope with a clean path changes if it is to follow and `new` is another path. -/
theorem follow_eq_self_iff {s : Scope} (clean : s.normalize = s) :
    s.follow old new = s ↔ old = new ∨ old.covers (.ofText s.path) = false := by
  have written : (Path.ofText s.path).text = s.path := congrArg Scope.path clean
  rw [follow]
  cases moved : (Path.ofText s.path).follow? old new with
  | none => simp [Path.follow?_eq_none_iff.mp moved]
  | some target =>
    have follows := Path.follow?_eq_some_iff.mp moved
    have same : target.text = s.path ↔ target = .ofText s.path :=
      ⟨fun texts => by rw [← texts, Path.ofText_text], fun paths => by rw [paths, written]⟩
    rw [follows.covers, ← follows.eq_iff, ← same]
    cases s
    simp

end Scope

namespace Role

/-- `after` is `before` with each of its scopes replaced by what has become of it. -/
structure Becomes (old new : Path) (before after : Role) : Prop where
  id : after.id = before.id
  name : after.name = before.name
  description : after.description = before.description
  scopes : List.Forall₂ (Scope.Becomes old new) before.scopes after.scopes

theorem becomes_follow (r : Role) (old new : Path) : r.Becomes old new (r.follow old new) where
  id := rfl
  name := rfl
  description := rfl
  scopes := by
    rw [follow, List.forall₂_map_right_iff, List.forall₂_same]
    exact fun s _ => s.becomes_follow old new

/-- A role with clean scopes changes if a scope is to follow and `new` is another path. -/
theorem follow_eq_self_iff {r : Role} (clean : ∀ s ∈ r.scopes, s.normalize = s) :
    r.follow old new = r ↔ old = new ∨ ∀ s ∈ r.scopes, old.covers (.ofText s.path) = false := by
  have each : r.follow old new = r ↔ ∀ s ∈ r.scopes, s.follow old new = s := by
    rw [← List.map_inj_left, List.map_id', follow]
    cases r
    simp
  rw [each]
  by_cases same : old = new
  · refine iff_of_true (fun s present => ?_) (.inl same)
    exact (Scope.follow_eq_self_iff (clean s present)).mpr (.inl same)
  · rw [or_iff_right same]
    refine forall₂_congr fun s present => ?_
    rw [Scope.follow_eq_self_iff (clean s present), or_iff_right same]

end Role

/-- A plan leaves out the roles that do not change, and has the others in order. -/
theorem scopeMoves_eq (roles : List Role) (old new : Path) :
    scopeMoves roles old new =
      (roles.filter fun r => r.follow old new ≠ r).map fun r => r.follow old new := by
  induction roles with
  | nil => rfl
  | cons r rest ih =>
    rw [scopeMoves] at ih ⊢
    rw [List.filterMap_cons, List.filter_cons, Role.follow?_eq]
    by_cases still : r.follow old new = r
    · simpa [still] using ih
    · simpa [still] using ih

namespace Clearance

/-- Each scope of the roles beside what has become of it. -/
theorem zip_scopes_follow (c : Clearance) (old new : Path) :
    c.scopes.zip (c.follow old new).scopes = c.scopes.map fun s => (s, s.follow old new) := by
  rw [scopes_follow, List.map_prod_left_eq_zip]

/-- The scopes that were at `old` or beneath it grant at `q` what they granted at `p`. -/
theorem unions_follow (c : Clearance) (follows : Path.Follows old new p q) :
    PermissionSet.unions
        (((c.scopes.zip (c.follow old new).scopes).filter fun (before, after) =>
          old.covers (.ofText before.path) && after.covers q).map fun (_, after) =>
            after.permission) =
      .unions ((c.scopes.filter fun s => old.covers (.ofText s.path) && s.covers p).map
        Scope.permission) := by
  have covering : ∀ s ∈ c.scopes,
      (old.covers (.ofText s.path) && (s.follow old new).covers q) =
        (old.covers (.ofText s.path) && s.covers p) := by
    intro s _
    cases inside : old.covers (.ofText s.path) with
    | false => rw [Bool.false_and, Bool.false_and]
    | true => rw [Scope.covers_follow_of_inside follows inside]
  rw [zip_scopes_follow, List.filter_map, List.map_map, Function.comp_def, Function.comp_def,
    List.filter_congr covering]
  exact congrArg _ (List.map_congr_left fun s _ => s.permission_follow old new)

end Clearance

/-- What `old` becoming `new` does to roles, seen from a path `p` that gets the place `q`. -/
structure ScopesFollowed (roles : List Role) (old new p q : Path) : Prop where
  /-- The plan consists of the roles that change, as they are then, in order. -/
  plan : scopeMoves roles old new =
    (roles.filter fun r => r.follow old new ≠ r).map fun r => r.follow old new
  /-- Where scopes are clean, a role is left out if `old` stays or none of its scopes is there. -/
  leftOut : ∀ r ∈ roles, (∀ s ∈ r.scopes, s.normalize = s) →
    (r.follow old new = r ↔ old = new ∨ ∀ s ∈ r.scopes, old.covers (.ofText s.path) = false)
  /-- The roles and their scopes keep their number and order, and only scopes that follow change. -/
  becomes : List.Forall₂ (Role.Becomes old new) roles (roles.map fun r => r.follow old new)
  /-- The scopes that were at `old` or beneath it grant at `q` what they granted at `p`. -/
  transported :
    let before := roles.flatMap Role.scopes
    let after := (roles.map fun r => r.follow old new).flatMap Role.scopes
    PermissionSet.unions (((before.zip after).filter fun (s, t) =>
        old.covers (.ofText s.path) && t.covers q).map fun (_, t) => t.permission) =
      .unions ((before.filter fun s => old.covers (.ofText s.path) && s.covers p).map
        Scope.permission)
  /-- In one directory, and where no scope was at `new` or beneath it, whoever holds some of the
  roles has at `q` the permissions they had at `p`. -/
  effective : old.parent = new.parent →
    (∀ r ∈ roles, ∀ s ∈ r.scopes, new.covers (.ofText s.path) = false) →
    ∀ c : Clearance, c.roles ⊆ roles → (c.follow old new).effective q = c.effective p

/-- Permissions follow a path exactly. -/
theorem scopes_followed (roles : List Role) (follows : p.follow? old new = some q) :
    ScopesFollowed roles old new p q where
  plan := scopeMoves_eq roles old new
  leftOut _ _ clean := Role.follow_eq_self_iff clean
  becomes := by
    rw [List.forall₂_map_right_iff, List.forall₂_same]
    exact fun r _ => r.becomes_follow old new
  transported := Clearance.unions_follow ⟨roles⟩ (Path.follow?_eq_some_iff.mp follows)
  effective siblings free c held := by
    refine Clearance.effective_follow (Path.follow?_eq_some_iff.mp follows) siblings fun s own => ?_
    obtain ⟨r, holds, present⟩ := List.mem_flatMap.mp own
    exact free r (held holds) s present

/-- A team with scopes at `/a`, beneath it, elsewhere and at the root, and a role apart. -/
def teamRoles : List Role :=
  [⟨⟨3⟩, "team", "", [⟨"/a", .ofNat 8⟩, ⟨"/a/b", .ofNat 16⟩, ⟨"/z", .ofNat 32⟩, ⟨"/", .ofNat 1⟩]⟩,
    ⟨⟨4⟩, "apart", "", [⟨"/z", .ofNat 4⟩]⟩]

theorem scopes_followed_teamRoles :
    (Path.ofText "/a/b/c").follow? (.ofText "/a") (.ofText "/m") = some (.ofText "/m/b/c") ∧
      ScopesFollowed teamRoles (.ofText "/a") (.ofText "/m") (.ofText "/a/b/c")
        (.ofText "/m/b/c") := by
  have follows :
      (Path.ofText "/a/b/c").follow? (.ofText "/a") (.ofText "/m") = some (.ofText "/m/b/c") := by
    decide +kernel
  exact ⟨follows, scopes_followed teamRoles follows⟩

/-- Within `/a/b` the team has as much after `/a` has become `/m`. -/
example :
    ((Clearance.mk teamRoles).follow (.ofText "/a") (.ofText "/m")).effective (.ofText "/m/b/c") =
      .ofNat 25 := by
  decide +kernel

end StorageGateway
