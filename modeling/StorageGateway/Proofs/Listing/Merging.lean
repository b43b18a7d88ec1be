import Mathlib.Data.List.Induction
import Mathlib.Data.List.Nodup
import StorageGateway.Proofs.Listing.Weights

/-!
# Merging into a listing

When entries are merged into a listing, its own entries stay where they are, and only what is new
comes after them. No directory is shown twice, and its size is that of all directories of its name
together. Main statements: `mergeEntries_eq`, `nodup_mergeEntries` and `directorySize_mergeEntries`.
-/

namespace StorageGateway

/-- The names of the directories among some entries, in order. -/
def directoryNames (es : List Entry) : List String := (es.filter Entry.isDirectory).map Entry.name

/-- The bytes of the directories of a name among some entries. -/
def directorySize (es : List Entry) (name : String) : Size :=
  .sum ((es.filter fun e => e.isDirectory = true ∧ e.name = name).map Entry.size)

theorem directorySize_eq_weigh (es : List Entry) (name : String) :
    directorySize es name = weigh (sizeUnder name) es :=
  (Size.sum_map_ite es _ Entry.size).symm

section Names

variable {es fs : List Entry} {e : Entry} {name : String}

theorem mem_directoryNames : name ∈ directoryNames es ↔
    ∃ e ∈ es, e.isDirectory = true ∧ e.name = name := by
  unfold directoryNames
  simp only [List.mem_map, List.mem_filter, and_assoc]

theorem directoryNames_append (es fs : List Entry) :
    directoryNames (es ++ fs) = directoryNames es ++ directoryNames fs := by
  unfold directoryNames
  rw [List.filter_append, List.map_append]

theorem directoryNames_cons (e : Entry) (es : List Entry) :
    directoryNames (e :: es) = if e.isDirectory then e.name :: directoryNames es
      else directoryNames es := by
  unfold directoryNames
  cases directory : e.isDirectory <;> simp [directory]

/-- Directories of distinct names: the first has none of the names of the others. -/
theorem nodup_directoryNames_cons : (directoryNames (e :: es)).Nodup ↔
    (∀ d ∈ es, e.isDirectory = true → d.isDirectory = true → e.name ≠ d.name) ∧
      (directoryNames es).Nodup := by
  rw [directoryNames_cons]
  cases directory : e.isDirectory with
  | false => simp
  | true =>
    rw [if_pos rfl, List.nodup_cons, mem_directoryNames]
    refine and_congr_left fun _ => ?_
    constructor
    · intro unknown d among _ also named
      exact unknown ⟨d, among, also, named.symm⟩
    · rintro apart ⟨d, among, also, named⟩
      exact apart d among rfl also named.symm

/-- Where no other directory has the name, the size is that of the directory itself. -/
theorem directorySize_eq (distinct : (directoryNames es).Nodup) (name : String) :
    directorySize es name =
      ((es.find? fun e => e.isDirectory && e.name == name).map Entry.size).getD 0 := by
  induction es with
  | nil => rfl
  | cons e rest ih =>
    obtain ⟨apart, restDistinct⟩ := nodup_directoryNames_cons.mp distinct
    unfold directorySize at ih ⊢
    by_cases here : e.isDirectory = true ∧ e.name = name
    · obtain ⟨directory, rfl⟩ := here
      have others : (rest.filter fun d => d.isDirectory = true ∧ d.name = e.name) = [] := by
        rw [List.filter_eq_nil_iff]
        intro d among same
        obtain ⟨also, named⟩ : d.isDirectory = true ∧ d.name = e.name := by simpa using same
        exact apart d among directory also named.symm
      rw [List.filter_cons_of_pos (by simp [directory]), others,
        List.find?_cons_of_pos (by simp [directory])]
      exact Size.add_zero e.size
    · rw [List.filter_cons_of_neg (by simpa using here), List.find?_cons_of_neg (by simpa using here)]
      exact ih restDistinct

theorem directorySize_of_mem (distinct : (directoryNames es).Nodup) (among : e ∈ es)
    (directory : e.isDirectory = true) : directorySize es e.name = e.size := by
  rw [directorySize_eq distinct]
  cases found : es.find? fun d => d.isDirectory && d.name == e.name with
  | none =>
    rw [List.find?_eq_none] at found
    exact absurd (by simp [directory]) (found e among)
  | some d =>
    have named : d.isDirectory = true ∧ d.name = e.name := by simpa using List.find?_some found
    have listed : d ∈ es.filter Entry.isDirectory :=
      List.mem_filter.mpr ⟨List.mem_of_find?_eq_some found, named.1⟩
    have same : d = e := List.inj_on_of_nodup_map distinct listed
      (List.mem_filter.mpr ⟨among, directory⟩) named.2
    rw [same]
    rfl

end Names

namespace Listing

variable {l : Listing} {es : List Entry} {e : Entry}

namespace Indexed

/-- The names of the directories are those that the index knows. -/
theorem mem_names (indexed : l.Indexed) (name : String) :
    name ∈ directoryNames l.entries ↔ (l.firstAt.find? name).isSome = true := by
  rw [mem_directoryNames, Option.isSome_iff_exists]
  constructor
  · rintro ⟨e, among, directory, rfl⟩
    obtain ⟨n, present⟩ := List.mem_iff_getElem?.mp among
    exact ⟨n, indexed.complete present directory⟩
  · rintro ⟨n, found⟩
    obtain ⟨e, present, directory, named⟩ := indexed.leads found
    exact ⟨e, List.mem_of_getElem? present, directory, named⟩

theorem nodup_names (indexed : l.Indexed) : (directoryNames l.entries).Nodup := by
  apply List.Nodup.map_on _ indexed.nodup_directories
  intro a first b second same
  rw [List.mem_filter, ← indexed.directory?_eq_some_iff] at first second
  rw [same, second] at first
  exact (Option.some.inj first).symm

/-- The size of a name is that of what was there and of all that was pushed. -/
theorem size_extend (indexed : l.Indexed) (es : List Entry) (name : String) :
    directorySize (l.extend es).entries name =
      directorySize l.entries name + directorySize es name := by
  simp only [directorySize_eq_weigh]
  exact indexed.weigh_extend (folds_sizeUnder name) es

end Indexed

/-! ## Where the entries are -/

/-- An entry after another was pushed: a directory takes in one of its name. -/
def takeIn (d e : Entry) : Entry :=
  if d.isDirectory = true ∧ e.isDirectory = true ∧ d.name = e.name then absorb d e else d

/-- An entry is new beside directories of some names: it is a file, or a directory of another name. -/
def isNew (names : List String) (e : Entry) : Bool := !e.isDirectory || !names.contains e.name

theorem takeIn_isDirectory (d e : Entry) : (takeIn d e).isDirectory = d.isDirectory := by
  unfold takeIn
  split <;> rfl

theorem takeIn_name (d e : Entry) : (takeIn d e).name = d.name := by
  unfold takeIn
  split <;> rfl

/-- An entry stays as it is unless directories of its name are pushed. -/
theorem foldl_takeIn_of_apart
    (apart : ∀ d ∈ es, e.isDirectory = true → d.isDirectory = true → e.name ≠ d.name) :
    es.foldl takeIn e = e := by
  induction es with
  | nil => rfl
  | cons d rest ih =>
    have first : takeIn e d = e := by
      apply if_neg
      rintro ⟨directory, also, named⟩
      exact apart d List.mem_cons_self directory also named
    rw [List.foldl_cons, first]
    exact ih fun x later => apart x (List.mem_cons_of_mem _ later)

/-- An entry that has at most taken others in: what it is stays, and its times widen. -/
structure Widened (d e : Entry) : Prop where
  name : e.name = d.name
  kind : e.kind = d.kind
  locator : e.locator = d.locator
  created : e.created ≤ d.created
  modified : d.modified ≤ e.modified

theorem widened_foldl_takeIn (es : List Entry) (e : Entry) : Widened e (es.foldl takeIn e) := by
  induction es generalizing e with
  | nil => exact ⟨rfl, rfl, rfl, Int.le_refl _, Int.le_refl _⟩
  | cons d rest ih =>
    have first : Widened e (takeIn e d) := by
      unfold takeIn absorb
      split
      · exact ⟨rfl, rfl, rfl, Int.min_le_left _ _, Int.le_max_left _ _⟩
      · exact ⟨rfl, rfl, rfl, Int.le_refl _, Int.le_refl _⟩
    obtain ⟨name, kind, locator, created, modified⟩ := ih (takeIn e d)
    rw [List.foldl_cons]
    exact ⟨name.trans first.name, kind.trans first.kind, locator.trans first.locator,
      Int.le_trans created first.created, Int.le_trans first.modified modified⟩

theorem directoryNames_map_takeIn (es : List Entry) (e : Entry) :
    directoryNames (es.map (takeIn · e)) = directoryNames es := by
  unfold directoryNames
  rw [List.filter_map, List.map_map]
  have kinds : Entry.isDirectory ∘ (takeIn · e) = Entry.isDirectory := by
    funext d
    exact takeIn_isDirectory d e
  have names : Entry.name ∘ (takeIn · e) = Entry.name := by
    funext d
    exact takeIn_name d e
  rw [kinds, names]

namespace Indexed

/-- What is pushed goes into a directory that is there, or comes last. -/
theorem entries_push (indexed : l.Indexed) (e : Entry) :
    (l.push e).entries =
      l.entries.map (takeIn · e) ++ [e].filter (isNew (directoryNames l.entries)) := by
  have untouched : (e.isDirectory = true → e.name ∉ directoryNames l.entries) →
      l.entries.map (takeIn · e) = l.entries := by
    intro unknown
    refine (List.map_congr_left fun d among => ?_).trans (List.map_id _)
    apply if_neg
    rintro ⟨directory, also, named⟩
    exact unknown also (mem_directoryNames.mpr ⟨d, among, directory, named⟩)
  cases directory : e.isDirectory with
  | false =>
    rw [push_file directory, untouched (by simp [directory])]
    simp [isNew, directory]
  | true =>
    cases found : l.firstAt.find? e.name with
    | none =>
      have unknown : e.name ∉ directoryNames l.entries := by simp [indexed.mem_names, found]
      rw [push_new directory found, untouched fun _ => unknown]
      simp [isNew, unknown]
    | some n =>
      have known : e.name ∈ directoryNames l.entries := by simp [indexed.mem_names, found]
      have old : [e].filter (isNew (directoryNames l.entries)) = [] := by
        simp [isNew, directory, known]
      rw [push_known directory found, old, List.append_nil]
      apply List.ext_getElem?
      intro i
      rw [List.getElem?_modify, List.getElem?_map]
      cases present : l.entries[i]? with
      | none => rfl
      | some d =>
        -- the one directory of the name is at the place to which the index leads
        have place : (d.isDirectory = true ∧ e.isDirectory = true ∧ d.name = e.name) ↔ n = i := by
          constructor
          · rintro ⟨isDirectory, -, named⟩
            have own := indexed.complete present isDirectory
            rw [named, found] at own
            exact Option.some.inj own
          · rintro rfl
            obtain ⟨x, same, isDirectory, named⟩ := indexed.leads found
            rw [present] at same
            cases same
            exact ⟨isDirectory, directory, named⟩
        unfold takeIn
        by_cases here : n = i
        · simp only [if_pos here, if_pos (place.mpr here), Option.map_eq_map, Option.map_some]
        · simp only [if_neg here, if_neg (mt place.mp here), Option.map_eq_map, Option.map_some]

theorem names_push (indexed : l.Indexed) (e : Entry) :
    directoryNames (l.push e).entries =
      directoryNames l.entries ++ directoryNames ([e].filter (isNew (directoryNames l.entries))) := by
  rw [indexed.entries_push, directoryNames_append, directoryNames_map_takeIn]

/-- The names are those that were there and those of all that was pushed. -/
theorem mem_names_extend (indexed : l.Indexed) (es : List Entry) (name : String) :
    name ∈ directoryNames (l.extend es).entries ↔
      name ∈ directoryNames l.entries ∨ name ∈ directoryNames es := by
  induction es generalizing l with
  | nil => exact (or_iff_left List.not_mem_nil).symm
  | cons e rest ih =>
    have pushed : name ∈ directoryNames (l.push e).entries ↔
        name ∈ directoryNames l.entries ∨ name ∈ directoryNames [e] := by
      rw [indexed.names_push, List.mem_append]
      by_cases known : name ∈ directoryNames l.entries
      · simp only [known, true_or]
      · simp only [known, false_or, mem_directoryNames, List.mem_filter, List.mem_singleton]
        constructor
        · rintro ⟨d, ⟨here, -⟩, named⟩
          exact ⟨d, here, named⟩
        · rintro ⟨d, here, directory, rfl⟩
          exact ⟨d, ⟨here, by simp [isNew, known]⟩, directory, rfl⟩
    have together : directoryNames (e :: rest) = directoryNames [e] ++ directoryNames rest :=
      directoryNames_append [e] rest
    rw [extend_cons, ih (indexed.push e), pushed, or_assoc, together, List.mem_append]

/-- What is merged in goes into the directories that are there; what is new comes after them, in its
own order. -/
theorem entries_extend (indexed : l.Indexed) (distinct : (directoryNames es).Nodup) :
    (l.extend es).entries =
      l.entries.map (es.foldl takeIn) ++ es.filter (isNew (directoryNames l.entries)) := by
  induction es generalizing l with
  | nil => exact ((List.append_nil _).trans (List.map_id _)).symm
  | cons e rest ih =>
    obtain ⟨apart, restDistinct⟩ := nodup_directoryNames_cons.mp distinct
    have split : (e :: rest).filter (isNew (directoryNames l.entries)) =
        [e].filter (isNew (directoryNames l.entries)) ++
          rest.filter (isNew (directoryNames l.entries)) := List.filter_append [e] rest
    have alone : ([e].filter (isNew (directoryNames l.entries))).map (rest.foldl takeIn) =
        [e].filter (isNew (directoryNames l.entries)) := by
      refine (List.map_congr_left fun d among => ?_).trans (List.map_id _)
      rw [List.mem_singleton.mp (List.mem_filter.mp among).1]
      exact foldl_takeIn_of_apart apart
    have sameNew : rest.filter (isNew (directoryNames (l.push e).entries)) =
        rest.filter (isNew (directoryNames l.entries)) := by
      apply List.filter_congr
      intro x later
      rw [indexed.names_push]
      cases directory : x.isDirectory with
      | false => simp [isNew, directory]
      | true =>
        have other : x.name ∉ directoryNames ([e].filter (isNew (directoryNames l.entries))) := by
          rw [mem_directoryNames]
          rintro ⟨d, among, also, named⟩
          obtain rfl := List.mem_singleton.mp (List.mem_filter.mp among).1
          exact apart x later also directory named
        simp [isNew, directory, other]
    rw [extend_cons, ih (indexed.push e) restDistinct, sameNew, indexed.entries_push, List.map_append,
      List.map_map, alone, split, List.append_assoc]
    rfl

end Indexed

/-! ## Merged listings -/

theorem ofEntries_concat (es : List Entry) (e : Entry) :
    ofEntries (es ++ [e]) = ⟨es ++ [e], note (ofEntries es).firstAt e es.length⟩ := by
  unfold ofEntries
  rw [List.zipIdx_append, List.foldl_append]
  simp

/-- Entries in which no directory is twice make a listing as if they were pushed one by one. -/
theorem ofEntries_eq (distinct : (directoryNames es).Nodup) : ofEntries es = empty.extend es := by
  induction es using List.reverseRecOn with
  | nil => rfl
  | append_singleton es e ih =>
    rw [directoryNames_append, List.nodup_append] at distinct
    obtain ⟨before, -, apart⟩ := distinct
    have known := ih before
    have indexed : (ofEntries es).Indexed := known ▸ indexed_empty.extend es
    rw [extend_append, ← known, ofEntries_concat]
    show _ = (ofEntries es).push e
    cases directory : e.isDirectory with
    | false =>
      rw [push_file directory]
      simp [note, directory, ofEntries]
    | true =>
      have unknown : (ofEntries es).firstAt.find? e.name = none := by
        by_contra found
        have among := (indexed.mem_names e.name).mpr (Option.isSome_iff_ne_none.mpr found)
        exact apart _ among e.name (by simp [directoryNames, directory]) rfl
      have free : (ofEntries es).firstAt.contains e.name = false := by rw [Dict.contains, unknown]; rfl
      rw [push_new directory unknown, note, directory, free]
      rfl

end Listing

section Merged

variable {own more : List Entry}

theorem indexed_ofEntries (present : (directoryNames own).Nodup) : (Listing.ofEntries own).Indexed :=
  Listing.ofEntries_eq present ▸ Listing.indexed_empty.extend own

/-- What is present stays in its order, each directory together with the directory of its name that is
merged in; new entries come after. -/
theorem mergeEntries_eq (present : (directoryNames own).Nodup) (distinct : (directoryNames more).Nodup) :
    mergeEntries own more =
      own.map (more.foldl Listing.takeIn) ++ more.filter (Listing.isNew (directoryNames own)) :=
  (indexed_ofEntries present).entries_extend distinct

theorem nodup_mergeEntries (present : (directoryNames own).Nodup) (more : List Entry) :
    (directoryNames (mergeEntries own more)).Nodup :=
  ((indexed_ofEntries present).extend more).nodup_names

theorem mem_directoryNames_mergeEntries (present : (directoryNames own).Nodup) (more : List Entry)
    (name : String) :
    name ∈ directoryNames (mergeEntries own more) ↔
      name ∈ directoryNames own ∨ name ∈ directoryNames more :=
  (indexed_ofEntries present).mem_names_extend more name

theorem directorySize_mergeEntries (present : (directoryNames own).Nodup) (more : List Entry)
    (name : String) :
    directorySize (mergeEntries own more) name =
      directorySize own name + directorySize more name :=
  (indexed_ofEntries present).size_extend more name

end Merged

end StorageGateway
