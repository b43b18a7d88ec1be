import StorageGateway.Proofs.Mount.Implied

/-!
# Directories mirror the mounts

What mounts further down make of a directory can be told from their paths alone: which directories there
are in it, and the size and the times of each, and whether it leads to mounts at all. Main statement:
`impliedDirectories_mirrored`.
-/

namespace StorageGateway

namespace Routes

variable {r : Routes} {usage : BackendId → Size} {p dir : Path} {name : String} {m : Mount} {e : Entry}

/-- A path leads to mounts if it covers one. -/
theorem leadsToMount_iff (built : r.Built) :
    r.leadsToMount p = true ↔ ∃ m ∈ r.toList, p.covers m.path = true := by
  unfold leadsToMount
  rw [Bool.or_eq_true, List.any_eq_true, Dict.contains, Option.isSome_iff_exists]
  constructor
  · rintro (⟨m, found⟩ | ⟨m, mounted, strictly⟩)
    · obtain rfl := built.path_eq found
      exact ⟨m, (mem_toList built).mpr found, Path.covers_refl _⟩
    · exact ⟨m, mounted, (Path.strictlyCovers_iff.mp strictly).2⟩
  · rintro ⟨m, mounted, covers⟩
    by_cases here : p = m.path
    · rw [here]
      exact .inl ⟨m, (mem_toList built).mp mounted⟩
    · exact .inr ⟨m, mounted, Path.strictlyCovers_iff.mpr ⟨here, covers⟩⟩

/-- The mounts that are reached through a segment are those whose paths have it next. -/
theorem mem_towards_iff_segments : m ∈ r.towards dir name ↔
    m ∈ r.toList ∧ ∃ rest, m.path.segments = dir.segments ++ name :: rest := by
  rw [mem_towards]
  refine and_congr_right fun _ => ?_
  constructor
  · rintro ⟨-, first⟩
    obtain ⟨rest, shape⟩ := Path.firstBelow?_eq_some_iff.mp first
    exact ⟨rest, shape.symm⟩
  · rintro ⟨rest, shape⟩
    have first := Path.firstBelow?_eq_some_iff.mpr ⟨rest, shape.symm⟩
    exact ⟨Path.strictlyCovers_of_firstBelow? first, first⟩

/-- A directory of one name leads to mounts if some are reached through this name. -/
theorem leadsToMount_join_iff (built : r.Built) (segment : IsSegment name) :
    r.leadsToMount (dir.join name) = true ↔ ∃ m, m ∈ r.towards dir name := by
  rw [leadsToMount_iff built]
  refine exists_congr fun m => ?_
  rw [mem_towards_iff_segments]
  refine and_congr_right fun _ => ?_
  rw [Path.covers_iff, dir.isChild_join segment]
  constructor
  · rintro ⟨rest, shape⟩
    exact ⟨rest, by rw [← shape, List.append_assoc]; rfl⟩
  · rintro ⟨rest, shape⟩
    exact ⟨rest, by rw [shape, List.append_assoc]; rfl⟩

/-- A directory that stands for mounts further down shows what these mounts are together. -/
structure StandsFor (usage : BackendId → Size) (dir : Path) (mounts : List Mount) (e : Entry) : Prop where
  directory : e.isDirectory = true
  path : e.path = dir.join e.name
  size : e.size = .sum (mounts.map fun m => usage m.backend)
  created : IsLeast {t | ∃ m ∈ mounts, m.created = t} e.created
  modified : IsGreatest {t | ∃ m ∈ mounts, m.modified = t} e.modified

/-- Directories of one name that stand for a mount each stand together for all of them. -/
theorem standsFor_together (usage : BackendId → Size) (dir : Path) (name : String) (m : Mount)
    (others : List Mount) :
    StandsFor usage dir (m :: others)
      ((Entry.directory dir name (usage m.backend) m.created m.modified).together
        (others.map fun m => .directory dir name (usage m.backend) m.created m.modified)) := by
  refine ⟨rfl, rfl, ?_, ?_, ?_⟩
  · unfold Entry.together
    rw [List.map_cons, List.map_map]
    rfl
  · have least := Entry.isLeast_created
      (.directory dir name (usage m.backend) m.created m.modified)
      (others.map fun m => .directory dir name (usage m.backend) m.created m.modified)
    simpa [Entry.directory] using least
  · have greatest := Entry.isGreatest_modified
      (.directory dir name (usage m.backend) m.created m.modified)
      (others.map fun m => .directory dir name (usage m.backend) m.created m.modified)
    simpa [Entry.directory] using greatest

theorem standsFor_of_mem (among : e ∈ r.impliedDirectories usage dir) :
    StandsFor usage dir (r.towards dir e.name) e := by
  obtain ⟨first, others, all, same⟩ := Listing.exists_together among (isDirectory_implied among)
  change namesakes (r.impliedOneByOne usage dir) e.name = first :: others at all
  rw [namesakes_implied] at all
  cases mounts : r.towards dir e.name with
  | nil =>
    rw [mounts] at all
    contradiction
  | cons m rest =>
    rw [mounts, List.map_cons, List.cons.injEq] at all
    have together := standsFor_together usage dir e.name m rest
    rwa [all.1, all.2, ← same] at together

/-- The mounts further down as their paths tell of them: there is a directory for every next segment on
the way to them, once, and it stands for all mounts on this way; the path of such a directory leads to
mounts, and so does a path at which there is a mount or in which there are such directories. -/
structure Mirrored (r : Routes) (usage : BackendId → Size) (dir : Path) : Prop where
  towards : ∀ name m, m ∈ r.towards dir name ↔
    m ∈ r.toList ∧ ∃ rest, m.path.segments = dir.segments ++ name :: rest
  distinct : ((r.impliedDirectories usage dir).map Entry.name).Nodup
  named : ∀ name, name ∈ (r.impliedDirectories usage dir).map Entry.name ↔
    ∃ m, m ∈ r.towards dir name
  shown : ∀ e ∈ r.impliedDirectories usage dir, StandsFor usage dir (r.towards dir e.name) e
  empty : r.impliedDirectories usage dir = [] ↔
    ∀ m ∈ r.toList, dir.strictlyCovers m.path = false
  segment : ∀ name, IsSegment name → (r.leadsToMount (dir.join name) = true ↔
    name ∈ (r.impliedDirectories usage dir).map Entry.name)
  leads : r.leadsToMount dir = true ↔
    (∃ m, r.get? dir = some m) ∨ r.impliedDirectories usage dir ≠ []

/-- The names that are shown are those of directories. -/
theorem names_implied (r : Routes) (usage : BackendId → Size) (dir : Path) :
    (r.impliedDirectories usage dir).map Entry.name =
      directoryNames (r.impliedDirectories usage dir) := by
  unfold directoryNames
  rw [List.filter_eq_self.mpr fun _ among => isDirectory_implied among]

/-- Whatever is mounted, the directory that a text names mirrors the mounts beneath it. -/
theorem impliedDirectories_mirrored (built : r.Built) (usage : BackendId → Size) (text : String) :
    r.Mirrored usage (.ofText text) := by
  generalize Path.ofText text = dir
  have named : ∀ name, name ∈ (r.impliedDirectories usage dir).map Entry.name ↔
      ∃ m, m ∈ r.towards dir name := by
    intro name
    rw [names_implied, mem_directoryNames_implied, towards_ne_nil_iff]
  refine ⟨fun _ _ => mem_towards_iff_segments, ?_, named, fun _ => standsFor_of_mem, implied_eq_nil_iff,
    ?_, ?_⟩
  · rw [names_implied]
    exact nodup_implied r usage dir
  · intro name segment
    rw [named, leadsToMount_join_iff built segment]
  · rw [leadsToMount_iff built, ne_eq, implied_eq_nil_iff]
    constructor
    · rintro ⟨m, mounted, covers⟩
      by_cases here : dir = m.path
      · exact .inl ⟨m, here ▸ (mem_toList built).mp mounted⟩
      · refine .inr fun apart => ?_
        have strictly : dir.strictlyCovers m.path = true := Path.strictlyCovers_iff.mpr ⟨here, covers⟩
        rw [apart m mounted] at strictly
        contradiction
    · rintro (⟨m, found⟩ | below)
      · obtain rfl := built.path_eq found
        exact ⟨m, (mem_toList built).mpr found, Path.covers_refl _⟩
      · obtain ⟨m, mounted, strictly⟩ : ∃ m ∈ r.toList, dir.strictlyCovers m.path = true := by
          simpa using below
        exact ⟨m, mounted, (Path.strictlyCovers_iff.mp strictly).2⟩

/-- Mounts within each other, and mounts whose names start with the names of others. -/
def prefixedMounts : Routes :=
  (((Routes.empty.mount (.ofText "/repo/a/v1") ⟨0⟩ 5).mount (.ofText "/repo/a") ⟨1⟩ 2).mount
    (.ofText "/repo/ab/v1") ⟨2⟩ 9).mount (.ofText "/rep") ⟨3⟩ 7

theorem impliedDirectories_mirrored_prefixedMounts :
    prefixedMounts.Built ∧ prefixedMounts.Mirrored (fun id => .ofNat (10 + id.val)) (.ofText "/repo/") ∧
      prefixedMounts.impliedDirectories (fun id => .ofNat (10 + id.val)) (.ofText "/repo/") =
        [.directory (.ofText "/repo") "a" (.ofNat 21) 2 5,
          .directory (.ofText "/repo") "ab" (.ofNat 12) 9 9] := by
  have built : prefixedMounts.Built := .mount _ _ _ (.mount _ _ _ (.mount _ _ _ (.mount _ _ _ .empty)))
  exact ⟨built, impliedDirectories_mirrored built _ "/repo/", by decide +kernel⟩

end Routes

end StorageGateway
