import Mathlib.Order.Bounds.Defs
import StorageGateway.Proofs.Dict.Entries
import StorageGateway.Proofs.Listing.Merging

/-!
# Directories of one name

What is listed may have several directories of one name. The first of them takes in those that are
pushed later, and the others stay as they are. The index can always be made anew from the entries, so
that merging can stop and go on. Main statements: `LeadsToFirst.entries_extend` and
`mergeEntries_inOrder`.
-/

namespace StorageGateway

/-- The directories of a name among some entries, in order. -/
def namesakes (es : List Entry) (name : String) : List Entry :=
  es.filter fun e => e.isDirectory = true ∧ e.name = name

/-- A directory with others folded into it: the size of all together, the earliest creation and the
latest change; the rest is its own. -/
def Entry.together (e : Entry) (others : List Entry) : Entry :=
  { e with
    size := .sum ((e :: others).map Entry.size)
    created := (others.map Entry.created).foldl min e.created
    modified := (others.map Entry.modified).foldl max e.modified }

theorem Entry.together_nil (e : Entry) : e.together [] = e := by
  have size : Size.sum [e.size] = e.size := Size.add_zero e.size
  unfold together
  rw [List.map_singleton, size]
  rfl

theorem Entry.isLeast_created (e : Entry) (others : List Entry) :
    IsLeast {t | ∃ d ∈ e :: others, d.created = t} (e.together others).created := by
  have least : ((e :: others).map Entry.created).min? = some (e.together others).created :=
    List.min?_cons'
  obtain ⟨among, below⟩ := List.min?_eq_some_iff.mp least
  refine ⟨List.mem_map.mp among, ?_⟩
  rintro t ⟨d, listed, rfl⟩
  exact below _ (List.mem_map_of_mem listed)

theorem Entry.isGreatest_modified (e : Entry) (others : List Entry) :
    IsGreatest {t | ∃ d ∈ e :: others, d.modified = t} (e.together others).modified := by
  have greatest : ((e :: others).map Entry.modified).max? = some (e.together others).modified :=
    List.max?_cons'
  obtain ⟨among, above⟩ := List.max?_eq_some_iff.mp greatest
  refine ⟨List.mem_map.mp among, ?_⟩
  rintro t ⟨d, listed, rfl⟩
  exact above _ (List.mem_map_of_mem listed)

section Namesakes

variable {es : List Entry} {e : Entry} {name : String}

theorem namesakes_cons_of_ne (apart : e.isDirectory = true → e.name ≠ name) (es : List Entry) :
    namesakes (e :: es) name = namesakes es name := by
  apply List.filter_cons_of_neg
  simpa using apart

theorem namesakes_cons_of_eq (directory : e.isDirectory = true) (es : List Entry) :
    namesakes (e :: es) e.name = e :: namesakes es e.name := by
  apply List.filter_cons_of_pos
  simp [directory]

end Namesakes

namespace Listing

/-- To absorb directories one after another is to take them together. -/
theorem foldl_absorb (e : Entry) (others : List Entry) : others.foldl absorb e = e.together others := by
  induction others generalizing e with
  | nil => exact e.together_nil.symm
  | cons d rest ih =>
    have sizes : Size.sum (((absorb e d) :: rest).map Entry.size) =
        Size.sum ((e :: d :: rest).map Entry.size) := Size.add_assoc _ _ _
    rw [List.foldl_cons, ih]
    unfold Entry.together
    rw [sizes]
    rfl

theorem foldl_gain (e : Entry) (others : List Entry) :
    others.foldl gain (some e) = some (e.together others) := by
  rw [← foldl_absorb]
  induction others generalizing e with
  | nil => rfl
  | cons d rest ih => exact ih (absorb e d)

/-- A directory that is listed is the first of its name together with the others. -/
theorem exists_together {es : List Entry} {d : Entry} (among : d ∈ (empty.extend es).entries)
    (directory : d.isDirectory = true) :
    ∃ e others, namesakes es d.name = e :: others ∧ d = e.together others := by
  have shown := ((indexed_empty.extend es).directory?_eq_some_iff d).mpr ⟨among, directory⟩
  rw [indexed_empty.directory?_extend] at shown
  change (namesakes es d.name).foldl gain none = some d at shown
  cases all : namesakes es d.name with
  | nil =>
    rw [all] at shown
    contradiction
  | cons e others =>
    rw [all] at shown
    exact ⟨e, others, rfl, Option.some.inj (shown.symm.trans (foldl_gain e others))⟩

/-! ## The index -/

/-- Whether an entry is a directory of a name. -/
def isNamed (name : String) (e : Entry) : Bool := e.isDirectory && e.name == name

/-- The index leads from every name to the first directory of this name. -/
def LeadsToFirst (l : Listing) : Prop :=
  ∀ name, l.firstAt.find? name = l.entries.findIdx? (isNamed name)

theorem find?_note (index : Dict String Nat) (e : Entry) (n : Nat) (name : String) :
    (note index e n).find? name =
      (index.find? name).or (if isNamed name e then some n else none) := by
  unfold note isNamed Dict.contains
  by_cases noted : e.isDirectory = true ∧ index.find? e.name = none
  · obtain ⟨directory, absent⟩ := noted
    rw [if_pos (by simp [directory, absent]), Dict.find?_insert]
    by_cases here : name = e.name
    · simp [here, absent, directory]
    · simp [here, Ne.symm here]
  · rw [if_neg (by simpa [← Option.isNone_iff_eq_none] using noted)]
    by_cases here : e.isDirectory = true ∧ e.name = name
    · obtain ⟨directory, rfl⟩ := here
      obtain ⟨k, known⟩ := Option.ne_none_iff_exists'.mp fun absent => noted ⟨directory, absent⟩
      rw [known, Option.some_or]
    · rw [if_neg (by simpa using here), Option.or_none]

theorem leads_ofEntries (es : List Entry) : (ofEntries es).LeadsToFirst := by
  intro name
  induction es using List.reverseRecOn with
  | nil => rfl
  | append_singleton es e ih =>
    have entries : (ofEntries es).entries = es := rfl
    rw [ofEntries_concat, find?_note, ih, entries, List.findIdx?_append]
    by_cases named : isNamed name e = true <;> simp [named]

/-- The index can be made anew from the entries. -/
theorem LeadsToFirst.eq_ofEntries {l : Listing} (leads : l.LeadsToFirst) : l = ofEntries l.entries := by
  have index : l.firstAt = (ofEntries l.entries).firstAt := by
    apply Dict.ext_find?
    intro name
    rw [leads name, leads_ofEntries l.entries name]
    rfl
  cases l
  exact congrArg (Listing.mk _) index

/-- Entries look alike by what the index goes by: whether they are directories, and by their names. -/
def look (e : Entry) : Bool × String := (e.isDirectory, e.name)

theorem findIdx?_eq_of_look {es fs : List Entry} (alike : es.map look = fs.map look) (name : String) :
    es.findIdx? (isNamed name) = fs.findIdx? (isNamed name) := by
  have through : ∀ es : List Entry,
      es.findIdx? (isNamed name) = (es.map look).findIdx? fun x => x.1 && x.2 == name := by
    intro es
    rw [List.findIdx?_map]
    rfl
  rw [through, through, alike]

theorem directoryNames_eq_of_look {es fs : List Entry} (alike : es.map look = fs.map look) :
    directoryNames es = directoryNames fs := by
  have through : ∀ es : List Entry,
      directoryNames es = ((es.map look).filter Prod.fst).map Prod.snd := by
    intro es
    rw [List.filter_map, List.map_map]
    rfl
  rw [through, through, alike]

/-- To absorb changes neither name nor kind. -/
theorem map_look_modify (es : List Entry) (n : Nat) (e : Entry) :
    (es.modify n (absorb · e)).map look = es.map look := by
  apply List.ext_getElem?
  intro i
  rw [List.getElem?_map, List.getElem?_map, List.getElem?_modify]
  cases es[i]? with
  | none => rfl
  | some d =>
    by_cases here : n = i
    · simp only [if_pos here]
      rfl
    · simp only [if_neg here]
      rfl

namespace LeadsToFirst

variable {l : Listing}

theorem find?_eq_none_iff (leads : l.LeadsToFirst) (name : String) :
    l.firstAt.find? name = none ↔ name ∉ directoryNames l.entries := by
  rw [leads name, List.findIdx?_eq_none_iff, mem_directoryNames]
  simp [isNamed]

/-- Whatever is pushed, the index leads to the first directories again. -/
theorem push (leads : l.LeadsToFirst) (e : Entry) : (l.push e).LeadsToFirst := by
  intro name
  cases directory : e.isDirectory with
  | false =>
    rw [push_file directory, List.findIdx?_append]
    simp [leads name, isNamed, directory]
  | true =>
    cases found : l.firstAt.find? e.name with
    | none =>
      rw [push_new directory found, Dict.find?_insert, List.findIdx?_append, ← leads name]
      by_cases here : name = e.name
      · simp [here, found, isNamed, directory]
      · simp [here, Ne.symm here, isNamed]
    | some n =>
      rw [push_known directory found]
      exact (leads name).trans (findIdx?_eq_of_look (map_look_modify _ _ _).symm name)

theorem extend (leads : l.LeadsToFirst) (es : List Entry) : (l.extend es).LeadsToFirst := by
  induction es generalizing l with
  | nil => exact leads
  | cons e rest ih => exact ih (leads.push e)

end LeadsToFirst

/-- A listing goes on from its entries as if it had never stopped. -/
theorem extend_ofEntries (own more : List Entry) :
    (ofEntries own).extend more = ofEntries (mergeEntries own more) :=
  ((leads_ofEntries own).extend more).eq_ofEntries

/-! ## Where everything goes -/

/-- What becomes of an entry that is there: the first directory of a name takes in all directories of its
name that come. -/
def keptAt (own more : List Entry) (n : Nat) (e : Entry) : Entry :=
  if e.isDirectory = true ∧ e.name ∉ directoryNames (own.take n) then
    e.together (namesakes more e.name)
  else e

/-- What becomes of an entry that comes: a file stays, and so does a directory, with those of its name that
come later, if no directory before it has its name. -/
def addedAt? (own more : List Entry) (n : Nat) (e : Entry) : Option Entry :=
  if e.isDirectory = false then some e
  else if e.name ∈ directoryNames (own ++ more.take n) then none
  else some (e.together (namesakes (more.drop (n + 1)) e.name))

/-- The entries that are there, in their order. -/
def keptOf (own more : List Entry) : List Entry := own.mapIdx (keptAt own more)

/-- What is added to the entries that are there, in the order in which it comes. -/
def addedTo (own more : List Entry) : List Entry :=
  more.zipIdx.filterMap fun (e, n) => addedAt? own more n e

section Places

variable {own more : List Entry} {e : Entry}

theorem keptOf_nil (own : List Entry) : keptOf own [] = own := by
  have alone : ∀ n, keptAt own [] n = id := by
    intro n
    funext e
    unfold keptAt
    split
    · exact e.together_nil
    · rfl
  apply List.ext_getElem?
  intro n
  rw [keptOf, List.getElem?_mapIdx, alone, Option.map_id]
  rfl

/-- An entry that is no directory of a name that is there changes nothing of what is there. -/
theorem keptOf_cons (unknown : e.isDirectory = true → e.name ∉ directoryNames own) (more : List Entry) :
    keptOf own (e :: more) = keptOf own more := by
  apply List.ext_getElem?
  intro n
  rw [keptOf, keptOf, List.getElem?_mapIdx, List.getElem?_mapIdx]
  refine Option.map_congr fun d present => ?_
  unfold keptAt
  by_cases first : d.isDirectory = true ∧ d.name ∉ directoryNames (own.take n)
  · have known : d.name ∈ directoryNames own :=
      mem_directoryNames.mpr ⟨d, List.mem_of_getElem? present, first.1, rfl⟩
    have apart : e.isDirectory = true → e.name ≠ d.name := fun directory same =>
      unknown directory (same ▸ known)
    rw [if_pos first, if_pos first, namesakes_cons_of_ne apart]
  · rw [if_neg first, if_neg first]

/-- An entry at the end becomes what it would be there. -/
theorem keptOf_concat (own : List Entry) (e : Entry) (more : List Entry) :
    keptOf (own ++ [e]) more = keptOf own more ++ [keptAt own more own.length e] := by
  have inside : ∀ {n}, n ≤ own.length → keptAt (own ++ [e]) more n = keptAt own more n := by
    intro n within
    unfold keptAt
    rw [List.take_append_of_le_length within]
  unfold keptOf
  rw [List.mapIdx_concat, inside (Nat.le_refl _)]
  congr 1
  apply List.ext_getElem?
  intro n
  rw [List.getElem?_mapIdx, List.getElem?_mapIdx]
  refine Option.map_congr fun d present => ?_
  rw [inside (Nat.le_of_lt (List.getElem?_eq_some_iff.mp present).1)]

/-- What is added depends on the names of the directories that are there alone. -/
theorem addedTo_congr {others : List Entry}
    (same : ∀ name, name ∈ directoryNames own ↔ name ∈ directoryNames others) (more : List Entry) :
    addedTo own more = addedTo others more := by
  refine List.filterMap_congr fun x _ => ?_
  simp only [addedAt?, directoryNames_append, List.mem_append, same]

theorem addedTo_cons (own : List Entry) (e : Entry) (more : List Entry) :
    addedTo own (e :: more) = (addedAt? own (e :: more) 0 e).toList ++ addedTo (own ++ [e]) more := by
  have later : ∀ d n, addedAt? own (e :: more) (n + 1) d = addedAt? (own ++ [e]) more n d := by
    intro d n
    have before : own ++ (e :: more).take (n + 1) = own ++ [e] ++ more.take n :=
      (List.append_assoc own [e] _).symm
    unfold addedAt?
    rw [before]
    rfl
  unfold addedTo
  rw [List.zipIdx_cons, List.filterMap_cons, List.zipIdx_succ, List.filterMap_map]
  simp only [Function.comp_def, later]
  cases addedAt? own (e :: more) 0 e <;> rfl

/-- The first directory of a name is the one before which no directory has its name. -/
theorem findIdx?_isNamed_iff {d : Entry} {n : Nat} (present : own[n]? = some d)
    (directory : d.isDirectory = true) :
    own.findIdx? (isNamed d.name) = some n ↔ d.name ∉ directoryNames (own.take n) := by
  obtain ⟨inside, rfl⟩ := List.getElem?_eq_some_iff.mp present
  rw [List.findIdx?_eq_some_iff_getElem, mem_directoryNames]
  constructor
  · rintro ⟨within, -, before⟩ ⟨e, among, isDirectory, same⟩
    obtain ⟨i, earlier, rfl⟩ := List.mem_take_iff_getElem.mp among
    exact before i (by omega) (by simp [isNamed, isDirectory, same])
  · intro first
    refine ⟨inside, by simp [isNamed, directory], fun i earlier named => first ?_⟩
    obtain ⟨isDirectory, same⟩ : own[i].isDirectory = true ∧ own[i].name = own[n].name := by
      simpa [isNamed] using named
    exact ⟨own[i], List.mem_take_iff_getElem.mpr ⟨i, by omega, rfl⟩, isDirectory, same⟩

/-- A directory of a name that is there goes into the first directory of its name. -/
theorem keptOf_modify {n : Nat} (directory : e.isDirectory = true)
    (found : own.findIdx? (isNamed e.name) = some n) (more : List Entry) :
    keptOf (own.modify n (absorb · e)) more = keptOf own (e :: more) := by
  apply List.ext_getElem?
  intro i
  have names : directoryNames ((own.modify n (absorb · e)).take i) = directoryNames (own.take i) := by
    apply directoryNames_eq_of_look
    rw [List.map_take, List.map_take, map_look_modify]
  rw [keptOf, keptOf, List.getElem?_mapIdx, List.getElem?_mapIdx, List.getElem?_modify]
  cases present : own[i]? with
  | none => rfl
  | some d =>
    simp only [Option.map_eq_map, Option.map_some, Option.some.injEq]
    by_cases here : n = i
    · subst here
      obtain ⟨inside, named, -⟩ := List.findIdx?_eq_some_iff_getElem.mp found
      obtain ⟨within, rfl⟩ := List.getElem?_eq_some_iff.mp present
      obtain ⟨isDirectory, same⟩ : own[n].isDirectory = true ∧ own[n].name = e.name := by
        simpa [isNamed] using named
      have first : own[n].name ∉ directoryNames (own.take n) :=
        (findIdx?_isNamed_iff present isDirectory).mp (same ▸ found)
      have absorbed : keptAt (own.modify n (absorb · e)) more n (absorb own[n] e) =
          (absorb own[n] e).together (namesakes more own[n].name) := by
        unfold keptAt
        rw [names]
        exact if_pos ⟨isDirectory, first⟩
      rw [if_pos rfl, absorbed, keptAt, if_pos ⟨isDirectory, first⟩, same,
        namesakes_cons_of_eq directory, ← foldl_absorb, ← foldl_absorb, List.foldl_cons]
    · have other : d.isDirectory = true → d.name ∉ directoryNames (own.take i) → e.name ≠ d.name := by
        intro isDirectory first same
        have own := (findIdx?_isNamed_iff present isDirectory).mpr first
        rw [← same, found] at own
        exact here (Option.some.inj own)
      rw [if_neg here]
      unfold keptAt
      rw [names]
      by_cases first : d.isDirectory = true ∧ d.name ∉ directoryNames (own.take i)
      · rw [if_pos first, if_pos first, namesakes_cons_of_ne fun _ => other first.1 first.2]
      · rw [if_neg first, if_neg first]

end Places

/-- What is pushed goes into the first directory of its name or comes last. -/
theorem LeadsToFirst.entries_extend {l : Listing} (leads : l.LeadsToFirst) (more : List Entry) :
    (l.extend more).entries = keptOf l.entries more ++ addedTo l.entries more := by
  induction more generalizing l with
  | nil =>
    rw [keptOf_nil]
    exact (List.append_nil _).symm
  | cons e rest ih =>
    rw [extend_cons, ih (leads.push e), addedTo_cons]
    cases directory : e.isDirectory with
    | false =>
      have unknown : e.isDirectory = true → e.name ∉ directoryNames l.entries := by simp [directory]
      rw [push_file directory, keptOf_concat, keptOf_cons unknown]
      simp [keptAt, addedAt?, directory]
    | true =>
      cases found : l.firstAt.find? e.name with
      | none =>
        have unknown : e.name ∉ directoryNames l.entries := (leads.find?_eq_none_iff e.name).mp found
        rw [push_new directory found, keptOf_concat, keptOf_cons fun _ => unknown]
        simp [keptAt, addedAt?, directory, unknown]
      | some n =>
        have known : e.name ∈ directoryNames l.entries := by
          by_contra unknown
          rw [(leads.find?_eq_none_iff e.name).mpr unknown] at found
          contradiction
        have same : ∀ name, name ∈ directoryNames (l.entries.modify n (absorb · e)) ↔
            name ∈ directoryNames (l.entries ++ [e]) := by
          intro name
          rw [directoryNames_eq_of_look (map_look_modify _ _ _), directoryNames_append, List.mem_append,
            directoryNames_cons, if_pos directory]
          refine (or_iff_left_of_imp fun last => ?_).symm
          rw [List.mem_singleton.mp last]
          exact known
        rw [push_known directory found, keptOf_modify directory ((leads _).symm.trans found),
          addedTo_congr same]
        simp [addedAt?, directory, known]

end Listing

/-! ## Merging, once and again -/

/-- How entries merge with what is there: what is there stays in its order, what is new comes after it in
its order, and the first directory of a name takes in all later ones that come; the index leads to the first
directory of every name, in range at every moment; and to merge again is to merge all at once. -/
structure MergesInOrder (own more : List Entry) : Prop where
  entries : mergeEntries own more = Listing.keptOf own more ++ Listing.addedTo own more
  inRange : ∀ come, come <+: more → ∀ name n,
    ((Listing.ofEntries own).extend come).firstAt.find? name = some n →
      n < ((Listing.ofEntries own).extend come).entries.length
  again : ∀ others, mergeEntries (mergeEntries own more) others = mergeEntries own (more ++ others)
  nothing : mergeEntries own [] = own

/-- All entries merge in order, also with entries among which directories share their names. -/
theorem mergeEntries_inOrder (own more : List Entry) : MergesInOrder own more := by
  refine ⟨?_, ?_, ?_, rfl⟩
  · exact (Listing.leads_ofEntries own).entries_extend more
  · intro come _ name n found
    rw [(Listing.leads_ofEntries own).extend come name] at found
    exact (List.findIdx?_eq_some_iff_getElem.mp found).1
  · intro others
    calc
      mergeEntries (mergeEntries own more) others =
          (((Listing.ofEntries own).extend more).extend others).entries := by
        rw [Listing.extend_ofEntries own more]
        rfl
      _ = mergeEntries own (more ++ others) := by
        rw [← Listing.extend_append]
        rfl

end StorageGateway
