import StorageGateway.Proofs.Listing.Namesakes
import StorageGateway.Proofs.Mount.LongestPath

/-!
# Directories that lead to mounts

A listing shows one directory for every next segment on the way to the mounts further down, and its
size is the usage of all mounts on this way. Main statements: `mem_directoryNames_implied` and
`directorySize_implied`.
-/

namespace StorageGateway

namespace Path

variable {p q : Path} {s : String}

/-- A path that is reached through a segment is the path of this segment or lies beneath it. -/
theorem covers_of_firstBelow? (segment : IsSegment s) (first : q.firstBelow? p = some s) :
    (p.join s).covers q = true := by
  obtain ⟨rest, shape⟩ := firstBelow?_eq_some_iff.mp first
  apply covers_iff.mpr
  refine ⟨rest, ?_⟩
  rw [isChild_join p segment, List.append_assoc]
  exact shape

end Path

namespace Routes

variable {r : Routes} {usage : BackendId → Size} {dir : Path} {name : String} {m : Mount} {e : Entry}

/-- The mounts beneath a directory that are reached through a next segment. -/
def towards (r : Routes) (dir : Path) (name : String) : List Mount :=
  r.toList.filter fun m => dir.strictlyCovers m.path ∧ m.path.firstBelow? dir = some name

theorem mem_towards : m ∈ r.towards dir name ↔
    m ∈ r.toList ∧ dir.strictlyCovers m.path = true ∧ m.path.firstBelow? dir = some name := by
  unfold towards
  rw [List.mem_filter, decide_eq_true_eq]

theorem towards_ne_nil_iff : r.towards dir name ≠ [] ↔ ∃ m, m ∈ r.towards dir name := by
  constructor
  · exact List.exists_mem_of_ne_nil _
  · rintro ⟨m, reached⟩
    exact List.ne_nil_of_mem reached

/-- The mounts that are reached through a segment lie beneath it, unless one of them is there. -/
theorem exists_below_of_towards (built : r.Built) (segment : IsSegment name)
    (free : r.get? (dir.join name) = none) (leads : r.towards dir name ≠ []) :
    ∃ m ∈ r.toList, (dir.join name).strictlyCovers m.path = true := by
  obtain ⟨m, reached⟩ := towards_ne_nil_iff.mp leads
  obtain ⟨mounted, -, first⟩ := mem_towards.mp reached
  refine ⟨m, mounted, Path.strictlyCovers_iff.mpr ⟨?_, Path.covers_of_firstBelow? segment first⟩⟩
  intro same
  rw [same, (mem_toList built).mp mounted] at free
  contradiction

/-- The directories that stand for the mounts one by one. -/
def impliedOneByOne (r : Routes) (usage : BackendId → Size) (dir : Path) : List Entry :=
  r.toList.filterMap (impliedDirectory? usage dir)

theorem impliedDirectory?_eq_some_iff : impliedDirectory? usage dir m = some e ↔
    ∃ name, dir.strictlyCovers m.path = true ∧ m.path.firstBelow? dir = some name ∧
      e = .directory dir name (usage m.backend) m.created m.modified := by
  unfold impliedDirectory?
  cases strictly : dir.strictlyCovers m.path with
  | false => simp
  | true =>
    simp only [if_true, Option.map_eq_some_iff, true_and]
    exact exists_congr fun name => and_congr_right fun _ => eq_comm

theorem mem_impliedOneByOne : e ∈ r.impliedOneByOne usage dir ↔
    ∃ m name, m ∈ r.towards dir name ∧
      e = .directory dir name (usage m.backend) m.created m.modified := by
  unfold impliedOneByOne
  simp only [List.mem_filterMap, impliedDirectory?_eq_some_iff, mem_towards]
  grind

theorem isDirectory_impliedOneByOne (among : e ∈ r.impliedOneByOne usage dir) :
    e.isDirectory = true := by
  obtain ⟨m, name, -, rfl⟩ := mem_impliedOneByOne.mp among
  rfl

theorem isDirectory_implied (among : e ∈ r.impliedDirectories usage dir) : e.isDirectory = true := by
  by_contra file
  have files := Listing.indexed_empty.files_extend (r.impliedOneByOne usage dir)
  have none : (r.impliedOneByOne usage dir).filter (fun e => !e.isDirectory) = [] := by
    rw [List.filter_eq_nil_iff]
    intro d listed
    simp [isDirectory_impliedOneByOne listed]
  rw [none] at files
  have listed : e ∈ (Listing.empty.extend (r.impliedOneByOne usage dir)).files :=
    List.mem_filter.mpr ⟨among, by simpa using file⟩
  rw [files] at listed
  contradiction

theorem nodup_implied (r : Routes) (usage : BackendId → Size) (dir : Path) :
    (directoryNames (r.impliedDirectories usage dir)).Nodup :=
  (Listing.indexed_empty.extend _).nodup_names

/-- The directories are named for the next segments on the way to the mounts. -/
theorem mem_directoryNames_implied :
    name ∈ directoryNames (r.impliedDirectories usage dir) ↔ r.towards dir name ≠ [] := by
  have names := Listing.indexed_empty.mem_names_extend (r.impliedOneByOne usage dir) name
  refine (names.trans (or_iff_right List.not_mem_nil)).trans ?_
  rw [mem_directoryNames, towards_ne_nil_iff]
  constructor
  · rintro ⟨e, among, -, rfl⟩
    obtain ⟨m, name, reached, rfl⟩ := mem_impliedOneByOne.mp among
    exact ⟨m, reached⟩
  · rintro ⟨m, reached⟩
    exact ⟨_, mem_impliedOneByOne.mpr ⟨m, name, reached, rfl⟩, rfl, rfl⟩

/-- The directories of a name stand for the mounts that are reached through it. -/
theorem namesakes_implied (r : Routes) (usage : BackendId → Size) (dir : Path) (name : String) :
    namesakes (r.impliedOneByOne usage dir) name =
      (r.towards dir name).map fun m =>
        .directory dir name (usage m.backend) m.created m.modified := by
  unfold impliedOneByOne towards
  induction r.toList with
  | nil => rfl
  | cons m rest ih =>
    cases implied : impliedDirectory? usage dir m with
    | none =>
      have elsewhere : ¬ (dir.strictlyCovers m.path ∧ m.path.firstBelow? dir = some name) := by
        rintro ⟨strictly, first⟩
        rw [impliedDirectory?_eq_some_iff.mpr ⟨name, strictly, first, rfl⟩] at implied
        contradiction
      rw [List.filterMap_cons_none implied, List.filter_cons_of_neg (by simpa using elsewhere)]
      exact ih
    | some e =>
      obtain ⟨s, strictly, first, rfl⟩ := impliedDirectory?_eq_some_iff.mp implied
      rw [List.filterMap_cons_some implied]
      by_cases here : s = name
      · subst here
        rw [List.filter_cons_of_pos (by simp [strictly, first]), List.map_cons, ← ih]
        exact namesakes_cons_of_eq rfl _
      · rw [List.filter_cons_of_neg (by simp [first, here]), ← ih]
        exact namesakes_cons_of_ne (fun _ => here) _

/-- The size of a directory is the usage of the mounts on the way. -/
theorem directorySize_implied (r : Routes) (usage : BackendId → Size) (dir : Path) (name : String) :
    directorySize (r.impliedDirectories usage dir) name =
      .sum ((r.towards dir name).map fun m => usage m.backend) := by
  have sizes := Listing.indexed_empty.size_extend (r.impliedOneByOne usage dir) name
  refine sizes.trans ((Size.zero_add _).trans ?_)
  change Size.sum ((namesakes (r.impliedOneByOne usage dir) name).map Entry.size) = _
  rw [namesakes_implied, List.map_map]
  rfl

/-- No directory is implied just if no mount lies beneath. -/
theorem implied_eq_nil_iff : r.impliedDirectories usage dir = [] ↔
    ∀ m ∈ r.toList, dir.strictlyCovers m.path = false := by
  constructor
  · intro nothing m mounted
    by_contra below
    have strictly : dir.strictlyCovers m.path = true := by simpa using below
    obtain ⟨name, -, first⟩ := Path.exists_firstBelow? strictly
    have named : name ∈ directoryNames (r.impliedDirectories usage dir) := by
      rw [mem_directoryNames_implied, towards_ne_nil_iff]
      exact ⟨m, mem_towards.mpr ⟨mounted, strictly, first⟩⟩
    rw [nothing] at named
    contradiction
  · intro apart
    by_contra something
    obtain ⟨e, among⟩ := List.exists_mem_of_ne_nil _ something
    have named : e.name ∈ directoryNames (r.impliedDirectories usage dir) :=
      mem_directoryNames.mpr ⟨e, among, isDirectory_implied among, rfl⟩
    rw [mem_directoryNames_implied, towards_ne_nil_iff] at named
    obtain ⟨m, reached⟩ := named
    obtain ⟨mounted, strictly, -⟩ := mem_towards.mp reached
    rw [apart m mounted] at strictly
    contradiction

end Routes

end StorageGateway
