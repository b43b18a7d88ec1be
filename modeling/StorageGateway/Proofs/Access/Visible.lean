import StorageGateway.Access.Clearance
import StorageGateway.Proofs.Path.Joining

/-!
# What is visible in a directory

A listing of a directory leaves out entries by their names, and a path is looked at as an entry of its
directory. Both come to the same question, which is put to a directory and a name: `shows`. Main
statement: `visibleEntries_eq_filter_sees`.
-/

namespace StorageGateway

/-- Whatever hides a name has patterns. -/
theorem HidePatterns.isEmpty_of_hides {h : HidePatterns} {name : String} (matched : h.hides name = true) :
    h.isEmpty = false := by
  obtain ⟨pattern, present, -⟩ := List.any_eq_true.mp matched
  rw [isEmpty, List.isEmpty_eq_false_iff_exists_mem]
  exact ⟨pattern, present⟩

namespace Clearance

variable {c : Clearance} {rules : Option DirectoryRules} {dir p : Path} {name : String}

/-- Whether hide patterns leave the name of an entry of `dir` visible. -/
def shows (c : Clearance) (rules : Option DirectoryRules) (dir : Path) (name : String) : Bool :=
  match rules with
  | none => true
  | some r => !(r.hidesWithin dir && r.hide.hides name) || c.has (dir.join name) .seeHides

/-- The patterns that apply in a directory match a name there, and the user may not see what is hidden at
the path of this name. -/
def Hides (c : Clearance) (rules : Option DirectoryRules) (dir : Path) (name : String) : Prop :=
  ∃ r, rules = some r ∧
    (Path.ofText r.source.path = dir ∨
      r.source.hideBelow = true ∧ (Path.ofText r.source.path).covers dir = true) ∧
    (∃ pattern ∈ r.hide.patterns, pattern name = true) ∧ c.has (dir.join name) .seeHides = false

theorem hides_iff : c.Hides rules dir name ↔ c.shows rules dir name = false := by
  cases rules with
  | none => simp [Hides, shows]
  | some r =>
    have within : r.hidesWithin dir = true ∧ r.hide.hides name = true ↔
        (Path.ofText r.source.path = dir ∨
          r.source.hideBelow = true ∧ (Path.ofText r.source.path).covers dir = true) ∧
        ∃ pattern ∈ r.hide.patterns, pattern name = true := by
      rw [← List.any_eq_true, ← HidePatterns.hides]
      refine and_congr_left fun matched => ?_
      simp [DirectoryRules.hidesWithin, Meta.reaches, HidePatterns.isEmpty_of_hides matched]
    calc
      c.Hides (some r) dir name ↔
          (r.hidesWithin dir = true ∧ r.hide.hides name = true) ∧
            c.has (dir.join name) .seeHides = false := by
        rw [within, and_assoc]
        simp [Hides]
      _ ↔ c.shows (some r) dir name = false := by simp [shows]

instance : Decidable (c.Hides rules dir name) := decidable_of_iff _ hides_iff.symm

/-- A listing shows the entries whose names are visible. -/
theorem visibleEntries_eq_filter (c : Clearance) (rules : Option DirectoryRules) (dir : Path)
    (entries : List Entry) :
    c.visibleEntries rules dir entries = entries.filter fun e => c.shows rules dir e.name := by
  cases rules with
  | none => exact (List.filter_true entries).symm
  | some r =>
    rw [visibleEntries]
    split
    · next within =>
      refine List.filter_congr fun e _ => ?_
      rw [shows, within, Bool.true_and]
    · next elsewhere =>
      refine (List.filter_eq_self.mpr fun e _ => ?_).symm
      rw [shows, eq_false_of_ne_true elsewhere, Bool.false_and, Bool.not_false, Bool.true_or]

/-- A path is visible if its name is, in its directory. -/
theorem sees_of_child (child : p.IsChild dir name) : c.sees rules p = c.shows rules dir name := by
  cases rules with
  | none => rfl
  | some r => rw [sees, shows, child.parent_eq, child.lastSegment_eq, child.join_eq]

/-- However the directory is written, a listing of it shows just the entries that can be seen when
they are asked for by the text of the directory and their own name after it. -/
theorem visibleEntries_eq_filter_sees (c : Clearance) (rules : Option DirectoryRules) (dir : String)
    {entries : List Entry} (named : ∀ e ∈ entries, IsSegment e.name) :
    c.visibleEntries rules (.ofText dir) entries =
      entries.filter fun e => c.sees rules (.ofText (dir ++ "/" ++ e.name)) := by
  rw [visibleEntries_eq_filter]
  refine List.filter_congr fun e listed => ?_
  have child := Path.isChild_join (.ofText dir) (named e listed)
  rw [Path.ofText, Path.join_join] at child
  exact (sees_of_child child).symm

/-- Rules that hide, in `/docs` and beneath it, the names that start with a dot. -/
def dotsHidden : DirectoryRules := .ofMeta ((Meta.plain "/docs/").hidingMatches "^\\." true)

/-- A user who may see what is hidden in one directory. -/
def gitReader : Clearance := ⟨[⟨⟨3⟩, "readers", "", [⟨"/", .none⟩, ⟨"/docs/x/.git", .single .seeHides⟩]⟩]⟩

theorem visibleEntries_eq_filter_sees_gitReader :
    let entries : List Entry :=
      [.directory .root ".git" 0 0 0, .directory .root ".svn" 0 0 0, .directory .root "src" 0 0 0]
    (∀ e ∈ entries, IsSegment e.name) ∧
      gitReader.visibleEntries (some dotsHidden) (.ofText "docs//y/../x/") entries =
        entries.filter (fun e =>
          gitReader.sees (some dotsHidden) (.ofText ("docs//y/../x/" ++ "/" ++ e.name))) ∧
      (gitReader.visibleEntries (some dotsHidden) (.ofText "docs//y/../x/") entries).map Entry.name =
        [".git", "src"] := by
  intro entries
  have named : ∀ e ∈ entries, IsSegment e.name := by decide
  exact ⟨named, visibleEntries_eq_filter_sees gitReader (some dotsHidden) _ named, by decide +kernel⟩

end Clearance

end StorageGateway
