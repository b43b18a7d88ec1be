import Mathlib.Algebra.BigOperators.Group.List.Basic
import Mathlib.Algebra.GroupWithZero.Nat
import StorageGateway.Proofs.Listing.Weights
import StorageGateway.Proofs.Storage.Failures

/-!
# Sizes of directories

A directory is shown with the bytes of all files beneath it. As every file beneath a directory lies at
or beneath just one node in it, the sizes in a listing add up to those of all files beneath the
directory, and what is removed takes just its own bytes along. All of this is said of numbers of bytes,
not of sums in 64 bits, so the files together must not have more bytes than a size can tell.
Main statement: `sizes_add_up`.
-/

namespace StorageGateway

namespace MemoryTree

variable {t : MemoryTree} {p q dir : Path} {n : Node} {inside : Path → Bool}

/-! ## Bytes of files -/

/-- The bytes of the files at the paths of a class. -/
def fileBytes (t : MemoryTree) (inside : Path → Bool) : Nat :=
  ((t.files.filter fun file => inside file.1).map fun file => file.2.size.bytes).sum

/-- All files together have no more bytes than a size can tell. -/
def Fits (t : MemoryTree) : Prop := t.fileBytes (fun _ => true) ≤ Size.limit

instance (t : MemoryTree) : Decidable t.Fits := inferInstanceAs (Decidable (_ ≤ _))

theorem nodup_files (t : MemoryTree) : t.files.Nodup := Dict.nodup_entries _

theorem fileBytes_congr {other : Path → Bool}
    (same : ∀ q n, (q, n) ∈ t.files → inside q = other q) : t.fileBytes inside = t.fileBytes other := by
  unfold fileBytes
  rw [List.filter_congr fun file among => same file.1 file.2 among]

/-- The files at the paths of a class, and all others, are all files. -/
theorem fileBytes_add_others (t : MemoryTree) (inside : Path → Bool) :
    t.fileBytes inside + t.fileBytes (fun q => !inside q) = t.fileBytes fun _ => true := by
  have parts := ((t.files.filter_append_perm fun file => inside file.1).map
    fun file => file.2.size.bytes).sum_eq
  rw [List.map_append, List.sum_append] at parts
  unfold fileBytes
  rw [parts, List.filter_eq_self.mpr fun _ _ => rfl]

theorem bytes_sizeBeneath (fits : t.Fits) (dir : Path) :
    (t.sizeBeneath dir).bytes = t.fileBytes dir.strictlyCovers := by
  have counted : (t.nodes.filter fun p n => !n.isDirectory && dir.strictlyCovers p).values.map
      Node.size = (t.files.filter fun file => dir.strictlyCovers file.1).map fun file =>
        file.2.size := by
    unfold files Dict.values Dict.filter
    rw [List.map_map, List.filter_filter]
    simp only [Bool.and_comm]
    rfl
  have few : t.fileBytes dir.strictlyCovers ≤ Size.limit :=
    (Nat.le.intro (t.fileBytes_add_others dir.strictlyCovers)).trans fits
  unfold fileBytes at few ⊢
  unfold sizeBeneath
  rw [counted, Size.bytes_total_of_le, List.map_map]
  · rfl
  · rw [List.map_map]
    exact few

/-- The files beneath a directory are those at it or beneath it. -/
theorem fileBytes_of_directory (directory : t.IsDirectory p) :
    t.fileBytes p.covers = t.fileBytes p.strictlyCovers := by
  apply fileBytes_congr
  intro q n among
  have differ : p ≠ q := by
    rintro rfl
    exact not_isFile_of_isDirectory directory ⟨n, mem_files.mp among⟩
  rw [Path.strictlyCovers, bne_iff_ne.mpr differ, Bool.true_and]

/-- At a file and beneath it there is no file but itself. -/
theorem Rooted.fileBytes_of_file (rooted : t.Rooted) (found : t.node? p = some n)
    (file : n.isDirectory = false) : t.fileBytes p.covers = n.size.bytes := by
  have alone : (t.files.filter fun file => p.covers file.1).Perm [(p, n)] := by
    rw [List.perm_ext_iff_of_nodup (t.nodup_files.filter _) (List.nodup_singleton _)]
    rintro ⟨q, m⟩
    rw [List.mem_filter, mem_files, List.mem_singleton, Prod.mk.injEq]
    constructor
    · rintro ⟨⟨known, -⟩, covers⟩
      by_cases same : p = q
      · subst same
        exact ⟨rfl, Option.some.inj (known.symm.trans found)⟩
      · exact absurd ⟨n, found, file⟩ (not_isFile_of_isDirectory (rooted.above known covers same))
    · rintro ⟨rfl, rfl⟩
      exact ⟨⟨found, file⟩, Path.covers_refl q⟩
  unfold fileBytes
  rw [(alone.map _).sum_eq, List.map_singleton, List.sum_singleton]

/-- An entry is shown with the bytes of the files at its path and beneath it. -/
theorem Rooted.bytes_entry (rooted : t.Rooted) (fits : t.Fits) (found : t.node? p = some n) :
    (t.entry p n).size.bytes = t.fileBytes p.covers := by
  cases directory : n.isDirectory with
  | true =>
    unfold entry
    rw [if_pos directory, fileBytes_of_directory ⟨n, found, directory⟩]
    exact bytes_sizeBeneath fits p
  | false =>
    rw [entry_of_file directory, rooted.fileBytes_of_file found directory]
    rfl

theorem Rooted.bytes_usage (rooted : t.Rooted) (fits : t.Fits) :
    t.usage.bytes = t.fileBytes fun _ => true := by
  unfold usage
  rw [bytes_sizeBeneath fits, ← fileBytes_of_directory rooted.root]
  exact fileBytes_congr fun q _ _ => q.root_covers

/-! ## Children -/

theorem isChild_of_mem_children (among : (p, n) ∈ (t.children dir).entries) :
    p.IsChild dir p.lastSegment := by
  obtain ⟨-, beneath, rfl⟩ := mem_children.mp among
  exact p.eq_root_or_isChild.resolve_left beneath

/-- On the way down from a directory to a node there is a child of the directory. -/
theorem Rooted.exists_child (rooted : t.Rooted) (found : t.node? q = some n)
    (beneath : dir.strictlyCovers q = true) :
    ∃ p m, (p, m) ∈ (t.children dir).entries ∧ p.covers q = true := by
  obtain ⟨s, segment, first⟩ := Path.exists_firstBelow? beneath
  obtain ⟨rest, shape⟩ := Path.firstBelow?_eq_some_iff.mp first
  have child := Path.isChild_join dir segment
  have covers : (dir.join s).covers q = true := by
    rw [Path.covers_iff, child, ← shape]
    exact ⟨rest, by simp⟩
  obtain ⟨m, there⟩ : ∃ m, t.node? (dir.join s) = some m := by
    by_cases same : dir.join s = q
    · exact ⟨n, same ▸ found⟩
    · obtain ⟨m, there, -⟩ := rooted.above found covers same
      exact ⟨m, there⟩
  exact ⟨_, m, mem_children.mpr ⟨there, child.ne_root, child.parent_eq⟩, covers⟩

/-- The files beneath a directory are those of its children, one child after another. -/
theorem Rooted.files_perm (rooted : t.Rooted) (dir : Path) :
    (t.files.filter fun file => dir.strictlyCovers file.1).Perm
      ((t.children dir).entries.flatMap fun child =>
        t.files.filter fun file => child.1.covers file.1) := by
  refine (List.perm_ext_iff_of_nodup (t.nodup_files.filter _) ?_).mpr ?_
  · refine List.nodup_flatMap.mpr ⟨fun _ _ => t.nodup_files.filter _, ?_⟩
    refine (t.children dir).increasing.imp_of_mem ?_
    rintro ⟨p, n⟩ ⟨q, m⟩ first second before file own other
    obtain rfl := (isChild_of_mem_children first).eq_of_covers (isChild_of_mem_children second)
      (List.mem_filter.mp own).2 (List.mem_filter.mp other).2
    rw [KeyOrder.before_irrefl] at before
    contradiction
  · rintro ⟨q, n⟩
    rw [List.mem_filter, List.mem_flatMap]
    constructor
    · rintro ⟨among, beneath⟩
      obtain ⟨p, m, child, covers⟩ := rooted.exists_child (mem_files.mp among).1 beneath
      exact ⟨(p, m), child, List.mem_filter.mpr ⟨among, covers⟩⟩
    · rintro ⟨⟨p, m⟩, child, own⟩
      obtain ⟨among, covers⟩ := List.mem_filter.mp own
      have isChild := isChild_of_mem_children child
      refine ⟨among, Path.strictlyCovers_iff.mpr ⟨?_, Path.covers_trans isChild.covers covers⟩⟩
      rintro rfl
      rw [isChild.not_covers] at covers
      contradiction

theorem Rooted.sum_children (rooted : t.Rooted) (dir : Path) :
    ((t.children dir).entries.map fun child => t.fileBytes child.1.covers).sum =
      t.fileBytes dir.strictlyCovers := by
  have whole := ((rooted.files_perm dir).map fun file => file.2.size.bytes).sum_eq
  rw [List.map_flatMap, List.flatMap_def, List.sum_flatten, List.map_map] at whole
  exact whole.symm

/-! ## Listings -/

/-- What a directory lists and how the sizes go together. -/
structure AddsUp (t : MemoryTree) (dir : Path) (entries : List Entry) : Prop where
  /-- The entries are those of the nodes in the directory. -/
  shows : ∀ e, e ∈ entries ↔
    ∃ p n, t.node? p = some n ∧ p ≠ .root ∧ p.parent = dir ∧ e = t.entry p n
  /-- No name comes twice. -/
  inOrder : entries.Pairwise fun a b => a.name < b.name
  /-- Together the entries have the bytes of all files beneath the directory. -/
  total : (entries.map fun e => e.size.bytes).sum = t.fileBytes dir.strictlyCovers
  whole : dir = .root → (entries.map fun e => e.size.bytes).sum = t.usage.bytes
  /-- A directory has the bytes that its own listing shows. -/
  directories : ∀ e ∈ entries, e.isDirectory = true →
    ∃ own, t.list e.path = .ok own ∧ (own.map fun e => e.size.bytes).sum = e.size.bytes

variable {entries : List Entry}

theorem list_inOrder (listed : t.list dir = .ok entries) :
    entries.Pairwise fun a b => a.name < b.name := by
  have sorted : entries.Pairwise fun a b => decide (a.name ≤ b.name) = true := by
    rw [eq_of_list listed]
    refine List.pairwise_mergeSort (fun a b c first second => ?_) (fun a b => ?_) _
    · simp only [decide_eq_true_eq] at *
      exact String.le_trans first second
    · simpa using String.le_total a.name b.name
  have distinct : entries.Pairwise fun a b => a.name ≠ b.name :=
    List.pairwise_map.mp (nodup_list listed)
  refine (sorted.and distinct).imp ?_
  rintro a b ⟨le, differ⟩
  refine String.not_le.mp fun back => differ ?_
  exact String.le_antisymm (of_decide_eq_true le) back

theorem Rooted.sum_list (rooted : t.Rooted) (fits : t.Fits) (listed : t.list dir = .ok entries) :
    (entries.map fun e => e.size.bytes).sum = t.fileBytes dir.strictlyCovers := by
  calc
    (entries.map fun e => e.size.bytes).sum =
        (((t.children dir).entries.map fun child => t.entry child.1 child.2).map
          fun e => e.size.bytes).sum := by
      rw [eq_of_list listed]
      exact ((List.mergeSort_perm _ _).map _).sum_eq
    _ = ((t.children dir).entries.map fun child => t.fileBytes child.1.covers).sum := by
      rw [List.map_map]
      refine congrArg List.sum (List.map_congr_left ?_)
      rintro ⟨p, n⟩ among
      exact rooted.bytes_entry fits (mem_children.mp among).1
    _ = t.fileBytes dir.strictlyCovers := rooted.sum_children dir

theorem Rooted.list_addsUp (rooted : t.Rooted) (fits : t.Fits) (listed : t.list dir = .ok entries) :
    t.AddsUp dir entries where
  shows _ := mem_list listed
  inOrder := list_inOrder listed
  total := rooted.sum_list fits listed
  whole := by
    rintro rfl
    rw [rooted.sum_list fits listed, ← bytes_sizeBeneath fits]
    rfl
  directories e among directory := by
    obtain ⟨p, n, found, -, -, rfl⟩ := (mem_list listed).mp among
    rw [isDirectory_entry] at directory
    have isDirectory : t.IsDirectory p := ⟨n, found, directory⟩
    obtain ⟨own, shown⟩ := list_eq_ok_iff.mpr isDirectory
    refine ⟨own, (path_entry t p n).symm ▸ shown, ?_⟩
    rw [rooted.sum_list fits shown, rooted.bytes_entry fits found, fileBytes_of_directory isDirectory]

/-! ## Removals -/

theorem files_without (t : MemoryTree) (p : Path) :
    (t.without p).files = t.files.filter fun file => !p.covers file.1 :=
  List.filter_comm _ _ _

theorem Rooted.usage_without (rooted : t.Rooted) (fits : t.Fits) (beneath : p ≠ .root)
    (present : t.node? p ≠ none) :
    (t.without p).usage.bytes + t.fileBytes p.covers = t.usage.bytes := by
  have left : after (MemoryTree.remove p) t = t.without p := by
    unfold after
    rw [remove_run, if_neg beneath, if_neg present]
  have rootedAfter : (t.without p).Rooted := left ▸ rooted.remove p
  have stayed : (t.without p).fileBytes (fun _ => true) = t.fileBytes fun q => !p.covers q := by
    unfold fileBytes
    rw [files_without, List.filter_eq_self.mpr fun _ _ => rfl]
  have parts := t.fileBytes_add_others p.covers
  have fitsAfter : (t.without p).Fits := by
    unfold Fits at fits ⊢
    omega
  rw [rootedAfter.bytes_usage fitsAfter, rooted.bytes_usage fits, stayed, ← parts, Nat.add_comm]

/-- In a tree that hangs together the sizes of all listings add up, and a removal takes along just
what is at a path and beneath it, with the bytes of the files there. -/
theorem sizes_add_up (rooted : t.Rooted) (fits : t.Fits) :
    (∀ dir, t.IsDirectory dir → ∃ entries, t.list dir = .ok entries ∧ t.AddsUp dir entries) ∧
      ∀ p, p ≠ .root → t.node? p ≠ none → ∃ s, remove p t = .ok () s ∧
        (∀ q, s.node? q = if p.covers q then none else t.node? q) ∧
          s.usage.bytes + t.fileBytes p.covers = t.usage.bytes := by
  constructor
  · intro dir directory
    obtain ⟨entries, listed⟩ := list_eq_ok_iff.mpr directory
    exact ⟨entries, listed, rooted.list_addsUp fits listed⟩
  · intro p beneath present
    refine ⟨t.without p, ?_, node?_without t p, rooted.usage_without fits beneath present⟩
    rw [remove_run, if_neg beneath, if_neg present]

/-- A file whose name starts like that of the directory beside it is not counted there. -/
example : (shelf.sizeBeneath (.ofText "/docs/old")).bytes = 7 ∧ shelf.usage.bytes = 12 := by
  decide +kernel

theorem sizes_add_up_shelf :
    shelf.Rooted ∧ shelf.Fits ∧
      (∀ dir, shelf.IsDirectory dir →
        ∃ entries, shelf.list dir = .ok entries ∧ shelf.AddsUp dir entries) ∧
      ∀ p, p ≠ .root → shelf.node? p ≠ none → ∃ s, remove p shelf = .ok () s ∧
        (∀ q, s.node? q = if p.covers q then none else shelf.node? q) ∧
          s.usage.bytes + shelf.fileBytes p.covers = shelf.usage.bytes := by
  have fits : shelf.Fits := by decide +kernel
  exact ⟨rooted_shelf, fits, sizes_add_up rooted_shelf fits⟩

end MemoryTree

end StorageGateway
