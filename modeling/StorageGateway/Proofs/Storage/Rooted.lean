import StorageGateway.Proofs.Storage.Changes

/-!
# Trees hang together

Nodes are kept by their paths, so nothing but the changes themselves sees to it that a node lies in a
directory. All changes do, as long as no directory is made under a name that leads out of the
directories that are there; then listings from the root down come upon every file. Main statement:
`isTree_throughout_iff`.
-/

namespace StorageGateway

namespace MemoryTree

variable {t : MemoryTree} {p q : Path} {n : Node} {name : String} {now : Time}

/-- The root is a directory, and everything else lies in a directory. -/
structure Rooted (t : MemoryTree) : Prop where
  root : t.IsDirectory .root
  parent : ∀ {p n}, t.node? p = some n → p ≠ .root → t.IsDirectory p.parent

theorem rooted_new (now : Time) : (new now).Rooted where
  root := ⟨_, by rw [node?_new, if_pos rfl], rfl⟩
  parent {p n} found beneath := by
    rw [node?_new, if_neg beneath] at found
    contradiction

namespace Rooted

theorem isDirectory_parent (rooted : t.Rooted) (directory : t.IsDirectory p) :
    t.IsDirectory p.parent := by
  by_cases top : p = .root
  · subst top
    exact directory
  · obtain ⟨n, found, -⟩ := directory
    exact rooted.parent found top

/-- Whatever lies above a node is a directory. -/
theorem above (rooted : t.Rooted) (found : t.node? p = some n) (above : q.covers p = true)
    (differ : q ≠ p) : t.IsDirectory q := by
  induction p using Path.inductionOn generalizing n with
  | atRoot => exact absurd (Path.covers_antisymm above (Path.root_covers q)) differ
  | @step r p s child ih =>
    have beneath : r ≠ .root := by
      rintro rfl
      exact differ (Path.covers_antisymm above (Path.root_covers q))
    have inside : t.IsDirectory p := child.parent_eq ▸ rooted.parent found beneath
    rcases child.covers_iff.mp above with same | covers
    · exact absurd same differ
    · by_cases here : q = p
      · exact here ▸ inside
      · obtain ⟨m, present, -⟩ := inside
        exact ih present covers here

/-- Beneath a path that is free there is nothing. -/
theorem free_below (rooted : t.Rooted) (free : t.node? q = none) (covers : q.covers p = true) :
    t.node? p = none := by
  by_contra present
  obtain ⟨n, found⟩ := Option.ne_none_iff_exists'.mp present
  by_cases same : q = p
  · rw [same, found] at free
    contradiction
  · obtain ⟨m, known, -⟩ := rooted.above found covers same
    rw [free] at known
    contradiction

/-- A node can be put into a directory, but no file in the place of a directory. -/
theorem withNode (rooted : t.Rooted) (inside : p ≠ .root → t.IsDirectory p.parent)
    (kept : t.IsDirectory p → n.isDirectory = true) : (t.withNode p n).Rooted := by
  have directories : ∀ {q}, t.IsDirectory q → (t.withNode p n).IsDirectory q := by
    intro q directory
    exact isDirectory_withNode directory fun same => kept (same ▸ directory)
  refine ⟨directories rooted.root, ?_⟩
  intro q m found beneath
  rw [node?_withNode] at found
  split at found
  · next here =>
    subst here
    exact directories (inside beneath)
  · exact directories (rooted.parent found beneath)

/-- The directories that are missing on the way down to a path can be made. -/
theorem furnished (rooted : t.Rooted) (clear : ∀ q ∈ p.wayTo, ¬ t.IsFile q) (now : Time) :
    (t.furnished now p.wayTo).Rooted ∧ (t.furnished now p.wayTo).IsDirectory p := by
  induction p using Path.inductionOn with
  | atRoot => exact ⟨rooted, rooted.root⟩
  | @step q p s child ih =>
    rw [Path.wayTo_child child] at clear ⊢
    obtain ⟨rootedAbove, directory⟩ := ih fun r above => clear r (List.mem_append_left _ above)
    rw [furnished_append]
    show ((t.furnished now p.wayTo).withDirectory now q).Rooted ∧
      ((t.furnished now p.wayTo).withDirectory now q).IsDirectory q
    -- on the way down to `p` nothing was put at `q`
    have same : (t.furnished now p.wayTo).node? q = t.node? q := by
      have apart : q ∉ p.wayTo := by
        rw [Path.mem_wayTo, child.not_covers]
        simp
      rw [node?_furnished, if_neg apart, Option.or_none]
    unfold withDirectory
    cases found : t.node? q with
    | none =>
      rw [if_neg (by simp [same, found])]
      refine ⟨rootedAbove.withNode (fun _ => child.parent_eq ▸ directory) fun _ => rfl, ?_⟩
      exact ⟨_, by rw [node?_withNode, if_pos rfl], rfl⟩
    | some m =>
      rw [if_pos (by simp [same, found])]
      refine ⟨rootedAbove, m, same.trans found, ?_⟩
      by_contra file
      exact clear q (by simp) ⟨m, found, eq_false_of_ne_true file⟩

/-- The directories above a path are made, or a file is in the way and nothing is made. -/
theorem makeAbove_run (rooted : t.Rooted) (p : Path) (now : Time) :
    (∃ s, Change.makeAbove p now t = .ok () s ∧ s.Rooted ∧ s.IsDirectory p.parent ∧
        s = t.furnished now p.parent.wayTo) ∨
      ∃ q, q.covers p.parent = true ∧ t.IsFile q ∧
        Change.makeAbove p now t = .error (.notADirectory q.text) t := by
  rw [makeAbove_eq]
  rcases makeMissing_run now p.parent.wayTo t with
    ⟨clear, run⟩ | ⟨before, q, after, way, file, -, run⟩
  · obtain ⟨rootedAfter, directory⟩ := rooted.furnished clear now
    exact .inl ⟨_, run, rootedAfter, directory, rfl⟩
  · refine .inr ⟨q, ?_, file, ?_⟩
    · have among : q ∈ p.parent.wayTo := by simp [way]
      exact (Path.mem_wayTo.mp among).2
    · -- what comes before the file on the way lies above it, so it is there already
      have sorted := Path.pairwise_wayTo p.parent
      rw [way, List.pairwise_append] at sorted
      obtain ⟨m, found, -⟩ := file
      have present : ∀ r ∈ before, t.node? r ≠ none := by
        intro r earlier free
        have covers := sorted.2.2 r earlier q List.mem_cons_self
        rw [rooted.free_below free covers] at found
        contradiction
      rw [run, furnished_eq_self present]

theorem putFile (rooted : t.Rooted) (p : Path) (size : Size) (locator : Option String)
    (now : Time) : (after (MemoryTree.putFile p size locator now) t).Rooted := by
  unfold after
  rw [putFile_run]
  by_cases top : p = .root
  · rw [if_pos top]
    exact rooted
  · rw [if_neg top]
    rcases rooted.makeAbove_run p now with ⟨s, run, rootedAbove, inside, -⟩ | ⟨q, -, -, run⟩
    · rw [run]
      dsimp only
      cases taken : (s.node? p).any Node.isDirectory with
      | true => exact rootedAbove
      | false =>
        refine rootedAbove.withNode (fun _ => inside) ?_
        rintro ⟨m, found, directory⟩
        simp [found, directory] at taken
    · rw [run]
      exact rooted

theorem addDirectory (rooted : t.Rooted) (p : Path) (now : Time) :
    (after (MemoryTree.addDirectory p now) t).Rooted := by
  unfold after
  rw [addDirectory_run]
  rcases rooted.makeAbove_run p now with ⟨s, run, rootedAbove, inside, -⟩ | ⟨q, -, -, run⟩
  · rw [run]
    dsimp only
    cases found : s.node? p with
    | none => exact rootedAbove.withNode (fun _ => inside) fun _ => rfl
    | some m => cases directory : m.isDirectory <;> simp [directory] <;> exact rootedAbove
  · rw [run]
    exact rooted

theorem remove (rooted : t.Rooted) (p : Path) : (after (MemoryTree.remove p) t).Rooted := by
  unfold after
  rw [remove_run]
  by_cases top : p = .root
  · rw [if_pos top]
    exact rooted
  · rw [if_neg top]
    by_cases free : t.node? p = none
    · rw [if_pos free]
      exact rooted
    · rw [if_neg free]
      refine ⟨isDirectory_without rooted.root (Path.not_covers_root top), ?_⟩
      intro q m found beneath
      rw [node?_without] at found
      split at found
      · contradiction
      · next apart =>
        refine isDirectory_without (rooted.parent found beneath) ?_
        by_contra covers
        exact apart (Path.covers_trans (Bool.eq_true_of_not_eq_false covers) q.parent_covers)

/-- What is moved to a free place in its directory takes along what is beneath it. -/
theorem rekeyed (rooted : t.Rooted) {target : Path} (beneath : p ≠ .root)
    (found : t.node? p = some n) (free : t.node? target = none)
    (child : target.IsChild p.parent name) (now : Time) : (t.rekeyed p target now).Rooted := by
  have own : p.IsChild p.parent p.lastSegment := p.eq_root_or_isChild.resolve_left beneath
  have targetBeneath : target ≠ .root := by
    rintro rfl
    obtain ⟨m, known, -⟩ := rooted.root
    rw [free] at known
    contradiction
  refine ⟨isDirectory_rekeyed rooted.root (Path.not_covers_root beneath)
    (Path.not_covers_root targetBeneath) now, ?_⟩
  intro q m known notRoot
  rw [node?_rekeyed] at known
  cases came : (q.follow? target p).bind t.node? with
  | some k =>
    obtain ⟨origin, back, present⟩ := Option.bind_eq_some_iff.mp came
    have follows := (Path.follow?_eq_some_iff.mp back).symm
    by_cases whole : origin = p
    · -- the node itself comes to lie in the directory in which it was
      subst whole
      rw [follows.eq_new, child.parent_eq]
      exact isDirectory_rekeyed (rooted.parent found beneath) own.not_covers child.not_covers now
    · have inside := (follows.parent whole).1
      have notTop : origin ≠ .root := by
        rintro rfl
        exact beneath (Path.covers_antisymm follows.covers (Path.root_covers p))
      obtain ⟨d, above, directory⟩ := rooted.parent present notTop
      refine ⟨{ d with modified := now }, ?_, directory⟩
      rw [node?_rekeyed, Path.follow?_eq_some_iff.mpr inside.symm, Option.bind_some, above]
      rfl
  | none =>
    rw [came, Option.map_none, Option.none_or, node?_without] at known
    split at known
    · contradiction
    · next apart =>
      refine isDirectory_rekeyed (rooted.parent known notRoot) ?_ ?_ now
      · by_contra covers
        exact apart (Path.covers_trans (Bool.eq_true_of_not_eq_false covers) q.parent_covers)
      · by_contra covers
        have below := Path.covers_trans (Bool.eq_true_of_not_eq_false covers) q.parent_covers
        rw [rooted.free_below free below] at known
        contradiction

/-- A free name is no `.` and no `..`, since these lead to a directory that is there. -/
theorem isSegment_of_free (rooted : t.Rooted) (inside : t.IsDirectory p) (notEmpty : name ≠ "")
    (whole : ¬ name.toList.any isSeparator) (free : t.node? (p.join name) = none) :
    IsSegment name := by
  refine ⟨notEmpty, ?_, ?_, by simpa using whole⟩
  · rintro rfl
    obtain ⟨m, present, -⟩ := inside
    rw [Path.join_dot, present] at free
    contradiction
  · rintro rfl
    obtain ⟨m, present, -⟩ := rooted.isDirectory_parent inside
    rw [Path.join_dots, present] at free
    contradiction

theorem rename (rooted : t.Rooted) (p : Path) (name : String) (now : Time) :
    (after (MemoryTree.rename p name now) t).Rooted := by
  unfold after
  rw [rename_run]
  by_cases refused : p = .root ∨ name = "" ∨ name.toList.any isSeparator
  · rw [if_pos refused]
    exact rooted
  · rw [if_neg refused]
    cases found : t.node? p with
    | none => exact rooted
    | some n =>
      dsimp only
      cases free : t.node? (p.parent.join name) with
      | some m => exact rooted
      | none =>
        obtain ⟨beneath, notEmpty, whole⟩ : p ≠ .root ∧ name ≠ "" ∧ ¬ name.toList.any isSeparator := by
          simpa [not_or] using refused
        have segment := rooted.isSegment_of_free (rooted.parent found beneath) notEmpty whole free
        exact rooted.rekeyed beneath found free (Path.isChild_join _ segment) now

end Rooted

/-! ## What listings come upon -/

/-- The paths that are come upon by listing one directory after another from the root down. -/
inductive Reaches (t : MemoryTree) : Path → Prop
  | root : t.Reaches .root
  | entry {dir : Path} {entries : List Entry} {e : Entry} :
    t.Reaches dir → t.list dir = .ok entries → e ∈ entries → t.Reaches e.path

theorem path_entry (t : MemoryTree) (p : Path) (n : Node) : (t.entry p n).path = p := by
  unfold entry
  split <;> rfl

theorem entry_of_file (file : n.isDirectory = false) : t.entry p n = n.entryAt p := by
  unfold entry
  rw [if_neg (by simp [file])]

/-- The files of a tree, with their paths. -/
def files (t : MemoryTree) : List (Path × Node) := (t.nodes.filter fun _ n => !n.isDirectory).entries

theorem mem_files : (p, n) ∈ t.files ↔ t.node? p = some n ∧ n.isDirectory = false := by
  unfold files
  rw [Dict.mem_entries_iff, Dict.find?_filter, Option.filter_eq_some_iff]
  simp [node?]

namespace Rooted

/-- Listings come upon every node. -/
theorem reaches (rooted : t.Rooted) (found : t.node? p = some n) : t.Reaches p := by
  induction p using Path.inductionOn generalizing n with
  | atRoot => exact .root
  | @step q p s child ih =>
    have beneath := child.ne_root
    have inside : t.IsDirectory p := child.parent_eq ▸ rooted.parent found beneath
    obtain ⟨entries, listed⟩ := list_eq_ok_iff.mpr inside
    obtain ⟨m, present, -⟩ := inside
    have among := (mem_list listed).mpr ⟨q, n, found, beneath, child.parent_eq, rfl⟩
    have come := Reaches.entry (ih present) listed among
    rwa [path_entry] at come

/-- The listing of some directory that is come upon shows a file. -/
theorem file_listed (rooted : t.Rooted) (found : t.node? p = some n)
    (file : n.isDirectory = false) :
    ∃ dir entries, t.Reaches dir ∧ t.list dir = .ok entries ∧ n.entryAt p ∈ entries := by
  have beneath : p ≠ .root := by
    rintro rfl
    exact not_isFile_of_isDirectory rooted.root ⟨n, found, file⟩
  have inside := rooted.parent found beneath
  obtain ⟨entries, listed⟩ := list_eq_ok_iff.mpr inside
  obtain ⟨m, present, -⟩ := inside
  refine ⟨p.parent, entries, rooted.reaches present, listed, ?_⟩
  rw [← entry_of_file file]
  exact (mem_list listed).mpr ⟨p, n, found, beneath, rfl, rfl⟩

/-- What is counted are the files. -/
theorem usage_eq (rooted : t.Rooted) : t.usage = .total (t.files.map fun file => file.2.size) := by
  have counted : (t.nodes.filter fun p n => !n.isDirectory && Path.root.strictlyCovers p) =
      t.nodes.filter fun _ n => !n.isDirectory := by
    apply Dict.ext
    refine List.filter_congr ?_
    rintro ⟨p, n⟩ among
    have found : t.node? p = some n := (Dict.mem_entries_iff _ _ _).mp among
    cases file : n.isDirectory with
    | true => simp [file]
    | false =>
      have beneath : Path.root ≠ p := by
        rintro rfl
        exact not_isFile_of_isDirectory rooted.root ⟨n, found, file⟩
      simpa [file] using Path.strictlyCovers_iff.mpr ⟨beneath, Path.root_covers p⟩
  unfold usage sizeBeneath files
  rw [counted, Dict.values, List.map_map]
  rfl

end Rooted

/-- The paths of a tree are written as they read, every node but the root lies in a directory, and
listings from the root down come upon every file that the usage counts. -/
structure IsTree (t : MemoryTree) : Prop where
  clean : ∀ {p n}, t.node? p = some n → Path.ofText p.text = p
  rooted : t.Rooted
  usage : t.usage = .total (t.files.map fun file => file.2.size)
  listed : ∀ file ∈ t.files, ∃ dir entries, t.Reaches dir ∧ t.list dir = .ok entries ∧
    file.2.entryAt file.1 ∈ entries

theorem Rooted.isTree (rooted : t.Rooted) : t.IsTree where
  clean _ := Path.ofText_text _
  rooted := rooted
  usage := rooted.usage_eq
  listed := by
    rintro ⟨p, n⟩ among
    obtain ⟨found, file⟩ := mem_files.mp among
    exact rooted.file_listed found file

end MemoryTree

/-! ## Courses of changes -/

/-- A change of a tree, with the texts that it is asked for with. -/
inductive TreeRequest where
  | putFile (path : String) (size : Size) (locator : Option String) (now : Time)
  | addDirectory (path : String) (now : Time)
  | makeDirectory (parent name : String) (now : Time)
  | remove (path : String)
  | rename (path name : String) (now : Time)

namespace TreeRequest

open MemoryTree

/-- The change itself. -/
def run : TreeRequest → MemoryTree.Change Unit
  | putFile path size locator now =>
    discard (MemoryTree.putFile (.ofText path) size locator now)
  | addDirectory path now => MemoryTree.addDirectory (.ofText path) now
  | makeDirectory parent name now => discard (MemoryTree.makeDirectory parent name now)
  | remove path => MemoryTree.remove (.ofText path)
  | rename path name now => discard (MemoryTree.rename (.ofText path) name now)

/-- A directory is made, though at a path that lies in no directory. -/
def Strays : TreeRequest → MemoryTree → Prop
  | makeDirectory parent name _, t =>
    t.IsDirectory (.ofText parent) ∧ t.node? ((Path.ofText parent).join name) = none ∧
      ¬ t.IsDirectory ((Path.ofText parent).join name).parent
  | _, _ => False

variable {t : MemoryTree} {parent name : String} {now : Time}

theorem rooted_makeDirectory (rooted : t.Rooted)
    (fine : ¬ (makeDirectory parent name now).Strays t) :
    (after (MemoryTree.makeDirectory parent name now) t).Rooted := by
  unfold after
  rw [makeDirectory_run]
  cases found : t.node? (.ofText parent) with
  | none => exact rooted
  | some n =>
    dsimp only
    cases directory : n.isDirectory with
    | false => exact rooted
    | true =>
      cases free : t.node? ((Path.ofText parent).join name) with
      | some m => exact rooted
      | none =>
        refine rooted.withNode (fun _ => ?_) fun _ => rfl
        by_contra outside
        exact fine ⟨⟨n, found, directory⟩, free, outside⟩

/-- A directory that is made astray lies in none. -/
theorem not_rooted_of_strays {request : TreeRequest} (rooted : t.Rooted)
    (strays : request.Strays t) : ¬ (after request.run t).Rooted := by
  cases request with
  | makeDirectory parent name now =>
    obtain ⟨⟨n, found, directory⟩, free, outside⟩ := strays
    have run : after (makeDirectory parent name now).run t =
        t.withNode ((Path.ofText parent).join name) (.directory now) := by
      rw [TreeRequest.run, after_discard]
      unfold after
      rw [makeDirectory_run]
      simp [found, directory, free]
    rw [run]
    intro rootedAfter
    have beneath : (Path.ofText parent).join name ≠ .root := by
      intro top
      obtain ⟨m, present, -⟩ := rooted.root
      rw [top, present] at free
      contradiction
    obtain ⟨m, present, isDirectory⟩ :=
      rootedAfter.parent (by rw [node?_withNode, if_pos rfl]) beneath
    rw [node?_withNode, if_neg (Path.parent_ne beneath)] at present
    exact outside ⟨m, present, isDirectory⟩
  | _ => exact strays.elim

/-- Every other request keeps a tree together. -/
theorem rooted_run {request : TreeRequest} (rooted : t.Rooted) (fine : ¬ request.Strays t) :
    (after request.run t).Rooted := by
  cases request with
  | putFile path size locator now =>
    rw [TreeRequest.run, after_discard]
    exact rooted.putFile _ size locator now
  | addDirectory path now => exact rooted.addDirectory _ now
  | makeDirectory parent name now =>
    rw [TreeRequest.run, after_discard]
    exact rooted_makeDirectory rooted fine
  | remove path => exact rooted.remove _
  | rename path name now =>
    rw [TreeRequest.run, after_discard]
    exact rooted.rename _ name now

/-! ## The root -/

theorem keeps_root_putFile (p : Path) (size : Size) (locator : Option String) (now : Time) :
    Keeps (fun t => t.IsDirectory .root) (MemoryTree.putFile p size locator now) := by
  intro t directory
  obtain ⟨ps, above⟩ := after_makeAbove p now t
  unfold after
  rw [putFile_run]
  by_cases top : p = .root
  · rw [if_pos top]
    exact directory
  · rw [if_neg top]
    cases run : Change.makeAbove p now t with
    | error e s =>
      obtain rfl : s = t.furnished now ps := (after_of_error run).symm.trans above
      exact isDirectory_furnished directory now ps
    | ok v s =>
      obtain rfl : s = t.furnished now ps := (after_of_ok run).symm.trans above
      have stays := isDirectory_furnished directory now ps
      dsimp only
      cases ((t.furnished now ps).node? p).any Node.isDirectory with
      | true => exact stays
      | false => exact isDirectory_withNode stays fun same => absurd same.symm top

theorem keeps_root_addDirectory (p : Path) (now : Time) :
    Keeps (fun t => t.IsDirectory .root) (MemoryTree.addDirectory p now) := by
  intro t directory
  obtain ⟨ps, above⟩ := after_makeAbove p now t
  unfold after
  rw [addDirectory_run]
  cases run : Change.makeAbove p now t with
  | error e s =>
    obtain rfl : s = t.furnished now ps := (after_of_error run).symm.trans above
    exact isDirectory_furnished directory now ps
  | ok v s =>
    obtain rfl : s = t.furnished now ps := (after_of_ok run).symm.trans above
    have stays := isDirectory_furnished directory now ps
    cases found : (t.furnished now ps).node? p with
    | none =>
      simp only [found]
      exact isDirectory_withNode stays fun _ => rfl
    | some n =>
      cases isDirectory : n.isDirectory <;> simp only [found, isDirectory] <;> exact stays

theorem keeps_root_makeDirectory (parent name : String) (now : Time) :
    Keeps (fun t => t.IsDirectory .root) (MemoryTree.makeDirectory parent name now) := by
  intro t directory
  unfold after
  rw [makeDirectory_run]
  cases t.node? (.ofText parent) with
  | none => exact directory
  | some n =>
    dsimp only
    cases n.isDirectory with
    | false => exact directory
    | true =>
      cases (t.node? ((Path.ofText parent).join name)).isSome with
      | true => exact directory
      | false => exact isDirectory_withNode directory fun _ => rfl

theorem keeps_root_remove (p : Path) :
    Keeps (fun t => t.IsDirectory .root) (MemoryTree.remove p) := by
  intro t directory
  unfold after
  rw [remove_run]
  by_cases top : p = .root
  · rw [if_pos top]
    exact directory
  · rw [if_neg top]
    cases found : t.node? p with
    | none => exact directory
    | some n => exact isDirectory_without directory (Path.not_covers_root top)

theorem keeps_root_rename (p : Path) (name : String) (now : Time) :
    Keeps (fun t => t.IsDirectory .root) (MemoryTree.rename p name now) := by
  intro t directory
  unfold after
  rw [rename_run]
  by_cases refused : p = .root ∨ name = "" ∨ name.toList.any isSeparator
  · rw [if_pos refused]
    exact directory
  · rw [if_neg refused]
    cases t.node? p with
    | none => exact directory
    | some n =>
      dsimp only
      cases free : t.node? (p.parent.join name) with
      | some m => exact directory
      | none =>
        have apart : p.parent.join name ≠ .root := by
          intro top
          obtain ⟨m, found, -⟩ := directory
          rw [← top, free] at found
          contradiction
        exact isDirectory_rekeyed directory (Path.not_covers_root fun top => refused (.inl top))
          (Path.not_covers_root apart) now

/-- Whatever is asked for, the root remains a directory. -/
theorem keeps_root (request : TreeRequest) :
    Keeps (fun t => t.IsDirectory .root) request.run := by
  cases request with
  | putFile path size locator now => exact (keeps_root_putFile _ size locator now).discard
  | addDirectory path now => exact keeps_root_addDirectory _ now
  | makeDirectory parent name now => exact (keeps_root_makeDirectory parent name now).discard
  | remove path => exact keeps_root_remove _
  | rename path name now => exact (keeps_root_rename _ name now).discard

end TreeRequest

namespace MemoryTree

/-- The tree after a course of requests, successful or not. -/
def serve (t : MemoryTree) (requests : List TreeRequest) : MemoryTree :=
  requests.foldl (fun t request => after request.run t) t

/-- A course of requests that make no directory astray keeps a tree together. -/
theorem Rooted.serve {t : MemoryTree} (rooted : t.Rooted) {requests : List TreeRequest}
    (fine : ∀ request ∈ requests, ∀ s, ¬ request.Strays s) : (t.serve requests).Rooted := by
  induction requests generalizing t with
  | nil => exact rooted
  | cons request rest ih =>
    refine ih (TreeRequest.rooted_run rooted (fine request List.mem_cons_self t)) ?_
    exact fun later among => fine later (List.mem_cons_of_mem _ among)

/-- A tree that starts out with the root alone hangs together throughout a course of requests,
successful or not, exactly if none of them makes a directory astray. -/
theorem isTree_throughout_iff (now : Time) (requests : List TreeRequest) :
    (∀ done, done <+: requests → ((new now).serve done).IsTree) ↔
      ∀ done request, done ++ [request] <+: requests → ¬ request.Strays ((new now).serve done) :=
  forall_moments_iff (f := fun t (request : TreeRequest) => after request.run t)
    (C := fun _ _ => True) (P := Rooted) (Q := IsTree) Rooted.isTree
    (fun _ => TreeRequest.rooted_run)
    (fun _ rooted strays isTree => TreeRequest.not_rooted_of_strays rooted strays isTree.rooted)
    (rooted_new now) (.of_forall (fun _ _ => trivial) _ requests)

/-- A name of two segments leads to a directory that lies in none, and that no listing from the root
down comes upon. -/
theorem directory_made_astray :
    let t := (new 0).serve [.makeDirectory "/" "a/b" 0]
    t.node? (.ofText "/a/b") = some (.directory 0) ∧ t.list .root = .ok [] ∧ ¬ t.IsTree := by
  intro t
  have present : t.node? (.ofText "/a/b") = some (.directory 0) := by decide +kernel
  refine ⟨present, by decide +kernel, ?_⟩
  intro isTree
  obtain ⟨n, found, -⟩ := isTree.rooted.parent present (by decide)
  have absent : t.node? (Path.ofText "/a/b").parent = none := by decide +kernel
  rw [absent] at found
  contradiction

end MemoryTree

end StorageGateway
