import Mathlib.Data.List.Nodup
import StorageGateway.Proofs.Dict.Entries
import StorageGateway.Proofs.Path.Following
import StorageGateway.Proofs.Run
import StorageGateway.Storage.Tree

/-!
# What changes do to a tree

A tree is settled by the node at each path. Every change is followed to its end: to the reason why it
makes none, or to the tree afterwards, of which it is told what is at each path. A listing is told by
the nodes as well. Main statements: `makeMissing_run`, `node?_furnished`, `node?_rekeyed` and
`mem_list`.
-/

namespace StorageGateway

namespace Path

variable {p q : Path} {s : String}

/-! ## The way down to a path -/

/-- The directories from below the root down to a path, outermost first and the path last. -/
def wayTo (p : Path) : List Path := (p.ancestors.filter (· != .root)).reverse

theorem wayTo_root : root.wayTo = [] := rfl

theorem wayTo_child (child : q.IsChild p s) : q.wayTo = p.wayTo ++ [q] := by
  unfold wayTo
  rw [ancestors_child child, List.filter_cons_of_pos (by simpa using child.ne_root), List.reverse_cons]

theorem mem_wayTo : q ∈ p.wayTo ↔ q ≠ root ∧ q.covers p = true := by
  induction p using inductionOn with
  | atRoot =>
    rw [wayTo_root]
    refine iff_of_false List.not_mem_nil ?_
    rintro ⟨beneath, above⟩
    exact beneath (covers_antisymm above (root_covers q))
  | @step r p s child ih =>
    rw [wayTo_child child, List.mem_append, List.mem_singleton, ih, child.covers_iff]
    constructor
    · rintro (⟨beneath, above⟩ | rfl)
      · exact ⟨beneath, .inr above⟩
      · exact ⟨child.ne_root, .inl rfl⟩
    · rintro ⟨beneath, rfl | above⟩
      · exact .inr rfl
      · exact .inl ⟨beneath, above⟩

/-- On the way down each directory lies above those that come after it. -/
theorem pairwise_wayTo (p : Path) : p.wayTo.Pairwise fun q r => q.covers r = true := by
  induction p using inductionOn with
  | atRoot => exact .nil
  | @step r p s child ih =>
    rw [wayTo_child child, List.pairwise_append]
    refine ⟨ih, List.pairwise_singleton _ _, ?_⟩
    intro q above x last
    rw [List.mem_singleton.mp last]
    exact covers_trans (mem_wayTo.mp above).2 child.covers

end Path

namespace MemoryTree

open Change

variable {t : MemoryTree} {p q r target dir : Path} {n : Node} {now : Time}

/-! ## Nodes -/

/-- There is a directory at the path. -/
def IsDirectory (t : MemoryTree) (p : Path) : Prop := ∃ n, t.node? p = some n ∧ n.isDirectory = true

/-- There is a file at the path. -/
def IsFile (t : MemoryTree) (p : Path) : Prop := ∃ n, t.node? p = some n ∧ n.isDirectory = false

theorem not_isFile_of_isDirectory (directory : t.IsDirectory p) : ¬ t.IsFile p := by
  rintro ⟨n, found, file⟩
  obtain ⟨m, same, directory⟩ := directory
  rw [found] at same
  cases same
  rw [file] at directory
  contradiction

/-- Trees with the same node at every path are the same. -/
theorem ext_node? {s t : MemoryTree} (same : ∀ p, s.node? p = t.node? p) : s = t := by
  cases s
  cases t
  exact congrArg MemoryTree.mk (Dict.ext_find? same)

/-- The tree with a node put at a path. -/
def withNode (t : MemoryTree) (p : Path) (n : Node) : MemoryTree := ⟨t.nodes.insert p n⟩

/-- The tree without what is at a path and beneath it. -/
def without (t : MemoryTree) (p : Path) : MemoryTree := ⟨t.nodes.filter fun q _ => !p.covers q⟩

theorem node?_new (now : Time) (p : Path) :
    (new now).node? p = if p = .root then some (.directory now) else none := by
  unfold node? new
  rw [Dict.find?_insert, Dict.find?_empty]

theorem node?_withNode (t : MemoryTree) (p : Path) (n : Node) (q : Path) :
    (t.withNode p n).node? q = if q = p then some n else t.node? q := by
  unfold node? withNode
  rw [Dict.find?_insert]

theorem node?_without (t : MemoryTree) (p q : Path) :
    (t.without p).node? q = if p.covers q then none else t.node? q := by
  unfold node? without
  rw [Dict.find?_filter]
  cases t.nodes.find? q <;> cases p.covers q <;> rfl

/-! ## Directories that are missing -/

/-- The tree with a directory made at a path, unless something is there. -/
def withDirectory (now : Time) (t : MemoryTree) (p : Path) : MemoryTree :=
  if (t.node? p).isSome then t else t.withNode p (.directory now)

/-- The tree with a directory made at each of some paths, unless something is there. -/
def furnished (t : MemoryTree) (now : Time) (ps : List Path) : MemoryTree :=
  ps.foldl (withDirectory now) t

theorem node?_withDirectory (t : MemoryTree) (p q : Path) :
    (t.withDirectory now p).node? q =
      (t.node? q).or (if q = p then some (.directory now) else none) := by
  unfold withDirectory
  cases found : t.node? p with
  | none =>
    rw [if_neg (by simp), node?_withNode]
    by_cases here : q = p
    · rw [if_pos here, if_pos here, here, found, Option.none_or]
    · rw [if_neg here, if_neg here, Option.or_none]
  | some n =>
    rw [if_pos (by simp)]
    by_cases here : q = p
    · rw [here, found, Option.some_or]
    · rw [if_neg here, Option.or_none]

theorem node?_furnished (t : MemoryTree) (now : Time) (ps : List Path) (q : Path) :
    (t.furnished now ps).node? q =
      (t.node? q).or (if q ∈ ps then some (.directory now) else none) := by
  induction ps generalizing t with
  | nil => simp [furnished]
  | cons p rest ih =>
    have step : t.furnished now (p :: rest) = (t.withDirectory now p).furnished now rest := rfl
    rw [step, ih, node?_withDirectory]
    by_cases here : q = p
    · cases t.node? q <;> simp [here]
    · cases t.node? q <;> simp [here]

theorem furnished_append (t : MemoryTree) (now : Time) (ps qs : List Path) :
    t.furnished now (ps ++ qs) = (t.furnished now ps).furnished now qs := List.foldl_append

/-- A tree in which something is at every one of the paths stays as it is. -/
theorem furnished_eq_self {ps : List Path} (present : ∀ p ∈ ps, t.node? p ≠ none) :
    t.furnished now ps = t := by
  apply ext_node?
  intro q
  rw [node?_furnished]
  by_cases among : q ∈ ps
  · obtain ⟨n, found⟩ := Option.ne_none_iff_exists'.mp (present q among)
    rw [found, Option.some_or]
  · rw [if_neg among, Option.or_none]

/-- To make a directory makes no file and takes none away. -/
theorem isFile_withDirectory : (t.withDirectory now p).IsFile q ↔ t.IsFile q := by
  unfold IsFile
  simp only [node?_withDirectory]
  constructor
  · rintro ⟨n, found, file⟩
    cases known : t.node? q with
    | some m =>
      rw [known, Option.some_or] at found
      exact ⟨n, found, file⟩
    | none =>
      rw [known, Option.none_or] at found
      split at found
      · cases found
        contradiction
      · contradiction
  · rintro ⟨n, found, file⟩
    exact ⟨n, by rw [found, Option.some_or], file⟩

theorem get_run (t : MemoryTree) : (get : Change MemoryTree) t = .ok t t := rfl

/-- The missing directories are made one after another, up to the first file that is in the way. -/
theorem makeMissing_run (now : Time) (ps : List Path) (t : MemoryTree) :
    (∀ p ∈ ps, ¬ t.IsFile p) ∧ makeMissing now ps t = .ok () (t.furnished now ps) ∨
      ∃ before p after, ps = before ++ p :: after ∧ t.IsFile p ∧ (∀ q ∈ before, ¬ t.IsFile q) ∧
        makeMissing now ps t = .error (.notADirectory p.text) (t.furnished now before) := by
  induction ps generalizing t with
  | nil => exact .inl ⟨by simp, rfl⟩
  | cons p rest ih =>
    by_cases inTheWay : t.IsFile p
    · refine .inr ⟨[], p, rest, rfl, inTheWay, by simp, ?_⟩
      obtain ⟨n, found, file⟩ := inTheWay
      unfold makeMissing
      refine (bind_of_ok (get_run t)).trans ?_
      rw [found]
      dsimp only
      rw [file]
      rfl
    · have step : makeMissing now (p :: rest) t = makeMissing now rest (t.withDirectory now p) := by
        rw [makeMissing]
        refine (bind_of_ok (get_run t)).trans ?_
        unfold withDirectory
        cases found : t.node? p with
        | none => rfl
        | some n =>
          have directory : n.isDirectory = true := by
            by_contra file
            exact inTheWay ⟨n, found, eq_false_of_ne_true file⟩
          dsimp only
          rw [directory]
          rfl
      rcases ih (t.withDirectory now p) with ⟨clear, run⟩ | ⟨before, q, after, rfl, file, clear, run⟩
      · refine .inl ⟨?_, step.trans run⟩
        intro q among
        rcases List.mem_cons.mp among with rfl | later
        · exact inTheWay
        · exact fun file => clear q later (isFile_withDirectory.mpr file)
      · refine .inr ⟨p :: before, q, after, rfl, isFile_withDirectory.mp file, ?_, step.trans run⟩
        intro r among
        rcases List.mem_cons.mp among with rfl | later
        · exact inTheWay
        · exact fun file => clear r later (isFile_withDirectory.mpr file)

theorem makeAbove_eq (p : Path) (now : Time) : makeAbove p now = makeMissing now p.parent.wayTo := rfl

/-- Whether all missing directories are made or a file is in the way, some directories are made. -/
theorem after_makeAbove (p : Path) (now : Time) (t : MemoryTree) :
    ∃ ps, after (makeAbove p now) t = t.furnished now ps := by
  rw [makeAbove_eq]
  rcases makeMissing_run now p.parent.wayTo t with ⟨-, run⟩ | ⟨before, q, rest, -, -, -, run⟩
  · exact ⟨_, after_of_ok run⟩
  · exact ⟨_, after_of_error run⟩

/-! ## Changes, followed to their end -/

theorem putFile_run (p : Path) (size : Size) (locator : Option String) (now : Time)
    (t : MemoryTree) :
    putFile p size locator now t =
      if p = .root then .error (.invalidPath p.text) t
      else match makeAbove p now t with
        | .error e s => .error e s
        | .ok () s =>
          if (s.node? p).any Node.isDirectory then .error (.alreadyExists p.text) s
          else .ok ((Node.file size locator now).entryAt p)
            (s.withNode p (.file size locator now)) := by
  unfold putFile
  by_cases top : p = .root
  · rw [if_pos top, if_pos top]
    rfl
  · rw [if_neg top, if_neg top]
    cases made : makeAbove p now t with
    | error e s => exact bind_of_error made
    | ok v s =>
      refine (bind_of_ok made).trans ((bind_of_ok (get_run s)).trans ?_)
      dsimp only
      cases (s.node? p).any Node.isDirectory <;> rfl

theorem addDirectory_run (p : Path) (now : Time) (t : MemoryTree) :
    addDirectory p now t =
      match makeAbove p now t with
      | .error e s => .error e s
      | .ok () s =>
        match s.node? p with
        | none => .ok () (s.withNode p (.directory now))
        | some n => if n.isDirectory then .ok () s else .error (.alreadyExists p.text) s := by
  unfold addDirectory
  cases made : makeAbove p now t with
  | error e s => exact bind_of_error made
  | ok v s =>
    refine (bind_of_ok made).trans ((bind_of_ok (get_run s)).trans ?_)
    dsimp only
    cases s.node? p with
    | none => rfl
    | some n =>
      dsimp only
      cases n.isDirectory <;> rfl

theorem makeDirectory_run (parent name : String) (now : Time) (t : MemoryTree) :
    makeDirectory parent name now t =
      match t.node? (.ofText parent) with
      | none => .error (.notFound parent) t
      | some n =>
        if n.isDirectory then
          if (t.node? ((Path.ofText parent).join name)).isSome then
            .error (.alreadyExists ((Path.ofText parent).join name).text) t
          else .ok ((Node.directory now).entryAt ((Path.ofText parent).join name))
            (t.withNode ((Path.ofText parent).join name) (.directory now))
        else .error (.notADirectory parent) t := by
  unfold makeDirectory
  refine (bind_of_ok (get_run t)).trans ?_
  cases t.node? (.ofText parent) with
  | none => rfl
  | some n =>
    dsimp only
    cases n.isDirectory with
    | false => rfl
    | true =>
      refine (bind_of_ok (get_run t)).trans ?_
      cases (t.node? ((Path.ofText parent).join name)).isSome <;> rfl

theorem remove_run (p : Path) (t : MemoryTree) :
    remove p t =
      if p = .root then .error (.invalidPath p.text) t
      else if t.node? p = none then .error (.notFound p.text) t
      else .ok () (t.without p) := by
  unfold remove
  by_cases top : p = .root
  · rw [if_pos top, if_pos top]
    rfl
  · rw [if_neg top, if_neg top]
    refine (bind_of_ok (get_run t)).trans ?_
    cases found : t.node? p with
    | none => rfl
    | some n => rfl

theorem rename_run (p : Path) (name : String) (now : Time) (t : MemoryTree) :
    rename p name now t =
      if p = .root ∨ name = "" ∨ name.toList.any isSeparator then .error (.invalidPath p.text) t
      else match t.node? p with
        | none => .error (.notFound p.text) t
        | some n =>
          if (t.node? (p.parent.join name)).isSome then
            .error (.alreadyExists (p.parent.join name).text) t
          else .ok ({ n with modified := now }.entryAt (p.parent.join name))
            (t.rekeyed p (p.parent.join name) now) := by
  unfold rename
  by_cases refused : p = .root ∨ name = "" ∨ name.toList.any isSeparator
  · rw [if_pos refused, if_pos refused]
    rfl
  · rw [if_neg refused, if_neg refused]
    refine (bind_of_ok (get_run t)).trans ?_
    cases t.node? p with
    | none => rfl
    | some n =>
      refine (bind_of_ok (get_run t)).trans ?_
      cases (t.node? (p.parent.join name)).isSome <;> rfl

/-- What is at a path after a move: what has come there from the place that it follows, or else what
was there, unless that has gone. -/
theorem node?_rekeyed (t : MemoryTree) (p target : Path) (now : Time) (q : Path) :
    (t.rekeyed p target now).node? q =
      (((q.follow? target p).bind t.node?).map fun n => { n with modified := now }).or
        ((t.without p).node? q) := by
  unfold rekeyed
  let moving := t.nodes.filter fun r _ => p.covers r
  let place (r : Path) : Path := (r.follow? p target).getD r
  let touched (_ : Path) (n : Node) : Node := { n with modified := now }
  have origin : ∀ r n, (r, n) ∈ moving.entries ↔ p.covers r = true ∧ t.node? r = some n := by
    intro r n
    rw [Dict.mem_entries_iff, Dict.find?_filter, Option.filter_eq_some_iff, and_comm]
    rfl
  have placed : ∀ r, p.covers r = true → (place r = q ↔ q.follow? target p = some r) := by
    intro r covers
    rw [Path.follow?_eq_some_iff]
    obtain ⟨s, moved⟩ : ∃ s, r.follow? p target = some s := by
      rw [← Option.ne_none_iff_exists', Ne, Path.follow?_eq_none_iff, covers]
      simp
    have follows := Path.follow?_eq_some_iff.mp moved
    have lands : place r = s := by
      show (r.follow? p target).getD r = s
      rw [moved, Option.getD_some]
    rw [lands]
    constructor
    · rintro rfl
      exact follows.symm
    · intro back
      exact Option.some.inj (moved.symm.trans (Path.follow?_eq_some_iff.mpr back.symm))
  cases came : (q.follow? target p).bind t.node? with
  | some n =>
    obtain ⟨r, back, found⟩ := Option.bind_eq_some_iff.mp came
    have covers := (Path.follow?_eq_some_iff.mp back).new_covers
    have here : place r = q := (placed r covers).mpr back
    rw [Option.map_some, Option.some_or, ← here]
    refine Dict.find?_foldl_insert_of_mem place touched _ ((origin r n).mpr ⟨covers, found⟩) ?_
    rintro ⟨x, m⟩ among same
    obtain ⟨coversToo, foundToo⟩ := (origin x m).mp among
    have alike := (placed x coversToo).mp (same.trans here)
    rw [back] at alike
    cases alike
    rw [found] at foundToo
    cases foundToo
    rfl
  | none =>
    rw [Option.map_none, Option.none_or]
    refine Dict.find?_foldl_insert_of_not_mem place touched _ ?_
    rintro ⟨x, m⟩ among same
    obtain ⟨covers, found⟩ := (origin x m).mp among
    rw [(placed x covers).mp same, Option.bind_some, found] at came
    contradiction

/-! ## Directories that stay -/

theorem isDirectory_withNode (directory : t.IsDirectory q) (kept : q = p → n.isDirectory = true) :
    (t.withNode p n).IsDirectory q := by
  by_cases here : q = p
  · exact ⟨n, by rw [node?_withNode, if_pos here], kept here⟩
  · obtain ⟨m, found, isDirectory⟩ := directory
    exact ⟨m, by rw [node?_withNode, if_neg here, found], isDirectory⟩

theorem isDirectory_furnished (directory : t.IsDirectory q) (now : Time) (ps : List Path) :
    (t.furnished now ps).IsDirectory q := by
  obtain ⟨m, found, isDirectory⟩ := directory
  exact ⟨m, by rw [node?_furnished, found, Option.some_or], isDirectory⟩

theorem isDirectory_without (directory : t.IsDirectory q) (apart : p.covers q = false) :
    (t.without p).IsDirectory q := by
  obtain ⟨m, found, isDirectory⟩ := directory
  exact ⟨m, by rw [node?_without, apart]; exact found, isDirectory⟩

theorem isDirectory_rekeyed (directory : t.IsDirectory q) (apart : p.covers q = false)
    (apartToo : target.covers q = false) (now : Time) :
    (t.rekeyed p target now).IsDirectory q := by
  obtain ⟨m, found, isDirectory⟩ := isDirectory_without directory apart
  have unmoved : q.follow? target p = none := Path.follow?_eq_none_iff.mpr apartToo
  refine ⟨m, ?_, isDirectory⟩
  rw [node?_rekeyed, unmoved, Option.bind_none, Option.map_none, Option.none_or, found]

/-! ## Listings -/

theorem list_eq_ok_iff : (∃ entries, t.list dir = .ok entries) ↔ t.IsDirectory dir := by
  unfold list IsDirectory
  cases found : t.node? dir with
  | none => simp
  | some n => cases directory : n.isDirectory <;> simp [directory]

theorem name_entry (t : MemoryTree) (p : Path) (n : Node) : (t.entry p n).name = p.lastSegment := by
  unfold entry
  split <;> rfl

theorem isDirectory_entry (t : MemoryTree) (p : Path) (n : Node) :
    (t.entry p n).isDirectory = n.isDirectory := by
  unfold entry
  split <;> rfl

/-- The nodes in a directory. -/
def children (t : MemoryTree) (dir : Path) : Dict Path Node :=
  t.nodes.filter fun p _ => p != .root && p.parent == dir

theorem mem_children : (p, n) ∈ (t.children dir).entries ↔
    t.node? p = some n ∧ p ≠ .root ∧ p.parent = dir := by
  unfold children
  rw [Dict.mem_entries_iff, Dict.find?_filter, Option.filter_eq_some_iff]
  simp [node?]

theorem eq_of_list {entries : List Entry} (listed : t.list dir = .ok entries) :
    entries = ((t.children dir).entries.map fun (p, n) => t.entry p n).mergeSort
      fun a b => a.name ≤ b.name := by
  unfold list at listed
  cases found : t.node? dir with
  | none =>
    rw [found] at listed
    contradiction
  | some m =>
    rw [found] at listed
    cases directory : m.isDirectory with
    | false =>
      simp only [directory] at listed
      contradiction
    | true =>
      simp only [directory, if_true] at listed
      cases listed
      rfl

/-- A directory lists what is at the paths in it. -/
theorem mem_list {entries : List Entry} (listed : t.list dir = .ok entries) {e : Entry} :
    e ∈ entries ↔
      ∃ p n, t.node? p = some n ∧ p ≠ .root ∧ p.parent = dir ∧ e = t.entry p n := by
  rw [eq_of_list listed, List.mem_mergeSort, List.mem_map]
  constructor
  · rintro ⟨⟨p, n⟩, among, rfl⟩
    obtain ⟨found, beneath, inside⟩ := mem_children.mp among
    exact ⟨p, n, found, beneath, inside, rfl⟩
  · rintro ⟨p, n, found, beneath, inside, rfl⟩
    exact ⟨(p, n), mem_children.mpr ⟨found, beneath, inside⟩, rfl⟩

/-- What a listing shows under a name is at the path of this name. -/
theorem entry_of_listed {entries : List Entry} {e : Entry} (listed : t.list dir = .ok entries)
    (among : e ∈ entries) (child : p.IsChild dir e.name) :
    ∃ n, t.node? p = some n ∧ e = t.entry p n := by
  obtain ⟨q, n, found, beneath, inside, rfl⟩ := (mem_list listed).mp among
  have last : p.lastSegment = q.lastSegment := by rw [child.lastSegment_eq, name_entry]
  rw [Path.eq_of_lastSegment_eq child.ne_root beneath (child.parent_eq.trans inside.symm) last]
  exact ⟨n, found, rfl⟩

/-- Where a listing shows a directory there is one. -/
theorem isDirectory_of_listed {entries : List Entry} {e : Entry} (listed : t.list dir = .ok entries)
    (among : e ∈ entries) (directory : e.isDirectory = true) (child : p.IsChild dir e.name) :
    t.IsDirectory p := by
  obtain ⟨n, found, rfl⟩ := entry_of_listed listed among child
  exact ⟨n, found, (isDirectory_entry t p n).symm.trans directory⟩

/-- What is no directory cannot be listed. -/
theorem of_list_error {e : StorageError} (failed : t.list dir = .error e) :
    ¬ t.IsDirectory dir ∧ e ≠ .cancelled := by
  refine ⟨fun directory => ?_, ?_⟩
  · obtain ⟨entries, listed⟩ := list_eq_ok_iff.mpr directory
    rw [failed] at listed
    contradiction
  · rintro rfl
    unfold list at failed
    cases found : t.node? dir with
    | none => simp [found] at failed
    | some n => cases directory : n.isDirectory <;> simp [found, directory] at failed

/-- A directory lists no name twice. -/
theorem nodup_list {entries : List Entry} (listed : t.list dir = .ok entries) :
    (entries.map Entry.name).Nodup := by
  rw [eq_of_list listed, ((List.mergeSort_perm _ _).map Entry.name).nodup_iff, List.map_map]
  apply List.Nodup.map_on _ (t.children dir).nodup_entries
  rintro ⟨p, n⟩ first ⟨q, m⟩ second same
  obtain ⟨found, beneath, inside⟩ := mem_children.mp first
  obtain ⟨known, below, within⟩ := mem_children.mp second
  have names : p.lastSegment = q.lastSegment := by
    simpa only [Function.comp_apply, name_entry] using same
  obtain rfl : p = q := Path.eq_of_lastSegment_eq beneath below (inside.trans within.symm) names
  rw [known] at found
  cases found
  rfl

end MemoryTree

end StorageGateway
