import Mathlib.Data.List.Perm.Basic
import StorageGateway.Listing.Basic

/-!
# Folding does not depend on the order

Sizes add up and times widen in any order, and every other part of a folded directory comes from the
first one of its name. So entries that are pushed in another order make the same listing up to its
order, as long as directories of one name agree in path and locator. Main statement: `extend_perm`.
-/

namespace StorageGateway

namespace Listing

/-! ## What a listing holds -/

/-- The files of a listing, in order. -/
def files (l : Listing) : List Entry := l.entries.filter fun e => !e.isDirectory

/-- The directory to which the index leads from a name. -/
def directory? (l : Listing) (name : String) : Option Entry :=
  (l.firstAt.find? name).bind fun n => l.entries[n]?

/-- The index leads from every name to the only directory of that name. -/
structure Indexed (l : Listing) : Prop where
  leads : ∀ {name n}, l.firstAt.find? name = some n →
    ∃ e, l.entries[n]? = some e ∧ e.isDirectory = true ∧ e.name = name
  complete : ∀ {n e}, l.entries[n]? = some e → e.isDirectory = true →
    l.firstAt.find? e.name = some n

theorem indexed_empty : empty.Indexed where
  leads found := by simp [empty] at found
  complete found := by simp [empty] at found

namespace Indexed

variable {l m : Listing}

/-- A directory of the listing is the one that is found by its name. -/
theorem directory?_eq_some_iff (indexed : l.Indexed) (e : Entry) :
    l.directory? e.name = some e ↔ e ∈ l.entries ∧ e.isDirectory = true := by
  rw [directory?, Option.bind_eq_some_iff]
  constructor
  · rintro ⟨n, found, present⟩
    obtain ⟨d, same, directory, -⟩ := indexed.leads found
    rw [present] at same
    cases same
    exact ⟨List.mem_of_getElem? present, directory⟩
  · rintro ⟨present, directory⟩
    obtain ⟨n, present⟩ := List.mem_iff_getElem?.mp present
    exact ⟨n, indexed.complete present directory, present⟩

/-- No two directories share a name. -/
theorem nodup_directories (indexed : l.Indexed) : (l.entries.filter Entry.isDirectory).Nodup := by
  have apart : l.entries.Pairwise fun a b =>
      a.isDirectory = true → b.isDirectory = true → a.name ≠ b.name := by
    rw [List.pairwise_iff_getElem]
    intro i j inside within before first second same
    have here := indexed.complete (List.getElem?_eq_getElem inside) first
    have there := indexed.complete (List.getElem?_eq_getElem within) second
    rw [same, there] at here
    have alike : j = i := Option.some.inj here
    omega
  refine (apart.filter Entry.isDirectory).imp_of_mem ?_
  intro a b first second differ same
  subst same
  exact differ (List.mem_filter.mp first).2 (List.mem_filter.mp second).2 rfl

/-- Listings with the same files and the same directory of every name differ in their order only. -/
theorem entries_perm (left : l.Indexed) (right : m.Indexed) (files : l.files.Perm m.files)
    (directories : ∀ name, l.directory? name = m.directory? name) :
    l.entries.Perm m.entries := by
  have members : (l.entries.filter Entry.isDirectory).Perm (m.entries.filter Entry.isDirectory) := by
    rw [List.perm_ext_iff_of_nodup left.nodup_directories right.nodup_directories]
    intro e
    rw [List.mem_filter, List.mem_filter, ← left.directory?_eq_some_iff,
      ← right.directory?_eq_some_iff, directories]
  calc
    List.Perm l.entries (l.entries.filter Entry.isDirectory ++ l.files) :=
      (List.filter_append_perm _ _).symm
    List.Perm _ (m.entries.filter Entry.isDirectory ++ m.files) := members.append files
    List.Perm _ m.entries := List.filter_append_perm _ _

end Indexed

/-! ## What a push does -/

variable {l : Listing} {e : Entry}

theorem push_file (file : e.isDirectory = false) :
    l.push e = { l with entries := l.entries ++ [e] } := by
  rw [push, if_neg (by simp [file])]

theorem push_new (directory : e.isDirectory = true) (absent : l.firstAt.find? e.name = none) :
    l.push e = ⟨l.entries ++ [e], l.firstAt.insert e.name l.entries.length⟩ := by
  rw [push, if_pos directory, absent]

theorem push_known {n : Nat} (directory : e.isDirectory = true)
    (found : l.firstAt.find? e.name = some n) :
    l.push e = { l with entries := l.entries.modify n (absorb · e) } := by
  rw [push, if_pos directory, found]

/-- The directory of a name after one more of that name was pushed. -/
def gain (shown : Option Entry) (e : Entry) : Option Entry :=
  some (shown.elim e fun d => absorb d e)

namespace Indexed

theorem lt_length (indexed : l.Indexed) {name : String} {n : Nat}
    (found : l.firstAt.find? name = some n) : n < l.entries.length := by
  obtain ⟨d, present, -⟩ := indexed.leads found
  exact (List.getElem?_eq_some_iff.mp present).1

/-- Entries that are there already are found as before when one is added at the end. -/
theorem leads_append (indexed : l.Indexed) (e : Entry) {name : String} {n : Nat}
    (found : l.firstAt.find? name = some n) :
    ∃ d, (l.entries ++ [e])[n]? = some d ∧ d.isDirectory = true ∧ d.name = name := by
  obtain ⟨d, present, rest⟩ := indexed.leads found
  exact ⟨d, by rw [List.getElem?_append_left (indexed.lt_length found), present], rest⟩

/-- A directory is an old one at its place or the one that is added at the end. -/
theorem complete_append (indexed : l.Indexed) {d : Entry} {n : Nat}
    (present : (l.entries ++ [e])[n]? = some d) (directory : d.isDirectory = true) :
    l.firstAt.find? d.name = some n ∨ n = l.entries.length ∧ d = e := by
  rw [List.getElem?_append] at present
  split at present
  · exact .inl (indexed.complete present directory)
  · next beyond =>
    obtain ⟨inside, rfl⟩ := List.getElem?_eq_some_iff.mp present
    rw [List.length_singleton] at inside
    exact .inr ⟨by omega, List.getElem_singleton _⟩

theorem push (indexed : l.Indexed) (e : Entry) : (l.push e).Indexed := by
  cases directory : e.isDirectory with
  | false =>
    rw [push_file directory]
    refine ⟨indexed.leads_append e, fun present isDirectory => ?_⟩
    rcases indexed.complete_append present isDirectory with found | ⟨-, rfl⟩
    · exact found
    · rw [directory] at isDirectory
      contradiction
  | true =>
    cases found : l.firstAt.find? e.name with
    | none =>
      rw [push_new directory found]
      refine ⟨fun {name n} known => ?_, fun {n d} present isDirectory => ?_⟩
      · rw [Dict.find?_insert] at known
        split at known
        · next same =>
          cases known
          exact ⟨e, List.getElem?_concat_length, directory, same.symm⟩
        · exact indexed.leads_append e known
      · rw [Dict.find?_insert]
        rcases indexed.complete_append present isDirectory with known | ⟨last, rfl⟩
        · have differ : d.name ≠ e.name := by
            intro same
            rw [same, found] at known
            contradiction
          rw [if_neg differ, known]
        · rw [if_pos rfl, last]
    | some n =>
      rw [push_known directory found]
      refine ⟨fun {name k} known => ?_, fun {k d} present isDirectory => ?_⟩
      -- to absorb changes neither name nor kind, so the index still leads to its places
      · obtain ⟨d, present, isDirectory, named⟩ := indexed.leads known
        refine ⟨_, by rw [List.getElem?_modify, present]; rfl, ?_, ?_⟩ <;> split <;> assumption
      · rw [List.getElem?_modify] at present
        obtain ⟨before, known, rfl⟩ := Option.map_eq_some_iff.mp present
        by_cases here : n = k
        · rw [if_pos here] at isDirectory ⊢
          have place : l.firstAt.find? before.name = some k := indexed.complete known isDirectory
          exact place
        · rw [if_neg here] at isDirectory ⊢
          exact indexed.complete known isDirectory

/-- A file is added to the files; a directory leaves them as they are. -/
theorem files_push (indexed : l.Indexed) (e : Entry) :
    (l.push e).files = l.files ++ [e].filter fun e => !e.isDirectory := by
  cases directory : e.isDirectory with
  | false => rw [push_file directory, files, files, List.filter_append]
  | true =>
    have none : ([e].filter fun e => !e.isDirectory) = [] := by simp [directory]
    cases found : l.firstAt.find? e.name with
    | none => rw [push_new directory found, files, files, List.filter_append]
    | some n =>
      obtain ⟨d, present, isDirectory, -⟩ := indexed.leads found
      obtain ⟨inside, rfl⟩ := List.getElem?_eq_some_iff.mp present
      have kept : (absorb l.entries[n] e).isDirectory = true := isDirectory
      rw [push_known directory found, none, List.append_nil, files, files,
        List.modify_eq_take_cons_drop inside]
      conv_rhs => rw [← List.take_append_drop n l.entries, List.drop_eq_getElem_cons inside]
      rw [List.filter_append, List.filter_append, List.filter_cons_of_neg (by simp [kept]),
        List.filter_cons_of_neg (by simp [isDirectory])]

/-- A directory is gained under its own name and no other. -/
theorem directory?_push (indexed : l.Indexed) (e : Entry) (name : String) :
    (l.push e).directory? name =
      if e.isDirectory = true ∧ e.name = name then gain (l.directory? name) e
      else l.directory? name := by
  have appended : ∀ {name : String},
      ((l.firstAt.find? name).bind fun n => (l.entries ++ [e])[n]?) = l.directory? name := by
    intro name
    cases found : l.firstAt.find? name with
    | none => rw [directory?, found]; rfl
    | some n =>
      rw [directory?, found, Option.bind_some, Option.bind_some,
        List.getElem?_append_left (indexed.lt_length found)]
  cases directory : e.isDirectory with
  | false =>
    rw [push_file directory, if_neg (by simp)]
    exact appended
  | true =>
    simp only [true_and]
    cases found : l.firstAt.find? e.name with
    | none =>
      rw [push_new directory found, directory?, Dict.find?_insert]
      by_cases same : e.name = name
      · have nothing : l.directory? name = none := by rw [directory?, ← same, found]; rfl
        rw [if_pos same.symm, if_pos same, nothing, Option.bind_some, List.getElem?_concat_length]
        rfl
      · rw [if_neg (Ne.symm same), if_neg same]
        exact appended
    | some n =>
      obtain ⟨d, present, -, own⟩ := indexed.leads found
      rw [push_known directory found, directory?]
      by_cases same : e.name = name
      · have shown : l.directory? name = some d := by
          rw [directory?, ← same, found, Option.bind_some, present]
        rw [if_pos same, shown, ← same, found, Option.bind_some, List.getElem?_modify, present]
        simp [gain]
      · rw [if_neg same, directory?]
        cases known : l.firstAt.find? name with
        | none => rfl
        | some k =>
          have apart : n ≠ k := by
            intro alike
            obtain ⟨other, there, -, named⟩ := indexed.leads known
            rw [← alike, present] at there
            cases there
            exact same (own.symm.trans named)
          rw [Option.bind_some, Option.bind_some, List.getElem?_modify]
          simp [apart]

end Indexed

/-! ## What many pushes do -/

theorem extend_cons (l : Listing) (e : Entry) (rest : List Entry) :
    l.extend (e :: rest) = (l.push e).extend rest := rfl

theorem extend_append (l : Listing) (es fs : List Entry) :
    l.extend (es ++ fs) = (l.extend es).extend fs := List.foldl_append

namespace Indexed

theorem extend (indexed : l.Indexed) (es : List Entry) : (l.extend es).Indexed := by
  induction es generalizing l with
  | nil => exact indexed
  | cons e rest ih => exact ih (indexed.push e)

theorem files_extend (indexed : l.Indexed) (es : List Entry) :
    (l.extend es).files = l.files ++ es.filter fun e => !e.isDirectory := by
  induction es generalizing l with
  | nil => exact (List.append_nil _).symm
  | cons e rest ih =>
    rw [extend_cons, ih (indexed.push e), indexed.files_push, List.append_assoc,
      ← List.filter_append]
    rfl

/-- Under a name, the pushed directories of that name are gained one after another. -/
theorem directory?_extend (indexed : l.Indexed) (es : List Entry) (name : String) :
    (l.extend es).directory? name =
      (es.filter fun e => e.isDirectory = true ∧ e.name = name).foldl gain (l.directory? name) := by
  induction es generalizing l with
  | nil => rfl
  | cons e rest ih =>
    rw [extend_cons, ih (indexed.push e), indexed.directory?_push, List.filter_cons]
    by_cases here : e.isDirectory = true ∧ e.name = name
    · rw [if_pos here, if_pos (decide_eq_true here), List.foldl_cons]
    · rw [if_neg here, if_neg (by simpa using here)]

end Indexed

/-- Directories of one name agree in path and locator. -/
def Alike (es : List Entry) : Prop :=
  ∀ a ∈ es, ∀ b ∈ es, a.isDirectory = true → b.isDirectory = true → a.name = b.name →
    a.path = b.path ∧ a.locator = b.locator

/-- To absorb two directories in either order comes to the same. -/
theorem absorb_right_comm (a b c : Entry) :
    absorb (absorb a b) c = absorb (absorb a c) b := by
  have sizes : a.size + b.size + c.size = a.size + c.size + b.size := by
    rw [Size.add_assoc, Size.add_comm b.size, ← Size.add_assoc]
  simp only [absorb, sizes, Int.min_assoc, Int.max_assoc, Int.min_comm b.created,
    Int.max_comm b.modified]

/-- Of two directories that agree in all that is not folded, either can absorb the other. -/
theorem absorb_comm {a b : Entry} (first : a.isDirectory = true) (second : b.isDirectory = true)
    (name : a.name = b.name) (path : a.path = b.path) (locator : a.locator = b.locator) :
    absorb a b = absorb b a := by
  have kind : a.kind = b.kind := (beq_iff_eq.mp first).trans (beq_iff_eq.mp second).symm
  simp only [absorb, name, path, locator, kind, Size.add_comm b.size, Int.min_comm b.created,
    Int.max_comm b.modified]

theorem foldl_gain_perm {es fs : List Entry} (same : es.Perm fs) (alike : Alike es) (name : String)
    (shown : Option Entry) :
    (es.filter fun e => e.isDirectory = true ∧ e.name = name).foldl gain shown =
      (fs.filter fun e => e.isDirectory = true ∧ e.name = name).foldl gain shown := by
  -- two neighbours can be exchanged: if nothing was shown before, the first of them keeps its own
  -- path and locator, which is why they have to agree
  refine (same.filter _).foldl_eq' (fun a here b there earlier => ?_) shown
  simp only [List.mem_filter, decide_eq_true_eq] at here there
  obtain ⟨listed, directory, named⟩ := here
  obtain ⟨present, isDirectory, alsoNamed⟩ := there
  cases earlier with
  | none =>
    have name : a.name = b.name := named.trans alsoNamed.symm
    obtain ⟨path, locator⟩ := alike a listed b present directory isDirectory name
    exact congrArg some (absorb_comm directory isDirectory name path locator)
  | some d => exact congrArg some (absorb_right_comm d a b)

/-- Entries in another order make the same listing up to its order. -/
theorem extend_perm {es fs : List Entry} (same : es.Perm fs) (alike : Alike es) :
    (empty.extend es).entries.Perm (empty.extend fs).entries := by
  have left := indexed_empty.extend es
  have right := indexed_empty.extend fs
  refine left.entries_perm right ?_ fun name => ?_
  · rw [indexed_empty.files_extend, indexed_empty.files_extend]
    exact (same.filter _).append_left _
  · rw [indexed_empty.directory?_extend, indexed_empty.directory?_extend]
    exact foldl_gain_perm same alike name _

end Listing

end StorageGateway
