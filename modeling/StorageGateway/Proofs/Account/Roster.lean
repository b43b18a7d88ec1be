import StorageGateway.Account.Roster
import StorageGateway.Proofs.Dict.Entries

/-!
# Rosters that stay sound

What a roster holds after each of its changes, and the two invariants that its store relies on. No
two records share a name, whatever happens. Numbers are positive and lie below the next one, as long
as the count of numbers does not come round. Main statements: `foldl_adjust_eq_mapRecords`, which
turns single changes into one change of all records, `takeId_eq_take`, `Distinct.put` and
`Numbered.put`.
-/

namespace StorageGateway

namespace Roster

variable {ρ : Type}

@[simp] theorem get?_new (first n : Nat) : (new first : Roster ρ).get? n = none := rfl

@[simp] theorem get?_take (r : Roster ρ) (m n : Nat) : (r.take m).get? n = r.get? n := rfl

@[simp] theorem get?_takeId (r : Roster ρ) (wanted n : Nat) :
    (r.takeId wanted).get? n = r.get? n := rfl

theorem get?_put (r : Roster ρ) (m n : Nat) (record : ρ) :
    (r.put m record).get? n = if n = m then some record else r.get? n :=
  Dict.find?_insert r.records m n record

theorem get?_erase (r : Roster ρ) (m n : Nat) :
    (r.erase m).get? n = if n = m then none else r.get? n :=
  Dict.find?_erase r.records m n

theorem get?_adjust (r : Roster ρ) (m n : Nat) (f : ρ → ρ) :
    (r.adjust m f).get? n = if n = m then (r.get? n).map f else r.get? n := by
  rw [adjust]
  split
  · next record found =>
    rw [get?_put]
    split
    · next same => rw [same, found, Option.map_some]
    · rfl
  · next missing =>
    split
    · next same => rw [same, missing, Option.map_none]
    · rfl

theorem next_adjust (r : Roster ρ) (n : Nat) (f : ρ → ρ) : (r.adjust n f).next = r.next := by
  rw [adjust]
  split <;> rfl

/-- The roster with every record replaced by its image, under the same number. -/
def mapRecords (r : Roster ρ) (f : ρ → ρ) : Roster ρ :=
  { r with records := r.records.map fun _ => f }

/-- The roster of the images of all records, which may be of another kind. -/
def image {τ : Type} (r : Roster ρ) (f : ρ → τ) : Roster τ := ⟨r.records.map fun _ => f, r.next⟩

theorem get?_image {τ : Type} (r : Roster ρ) (f : ρ → τ) (n : Nat) :
    (r.image f).get? n = (r.get? n).map f :=
  Dict.find?_map r.records (fun _ => f) n

theorem get?_mapRecords (r : Roster ρ) (f : ρ → ρ) (n : Nat) :
    (r.mapRecords f).get? n = (r.get? n).map f :=
  r.get?_image f n

theorem mem_entries_iff (r : Roster ρ) (n : Nat) (record : ρ) :
    (n, record) ∈ r.records.entries ↔ r.get? n = some record :=
  Dict.mem_entries_iff r.records n record

/-- If records tell their own numbers, they are listed under no other. -/
theorem mem_values_iff {r : Roster ρ} (number : ρ → Nat)
    (own : ∀ n record, r.get? n = some record → number record = n) (record : ρ) :
    record ∈ r.records.values ↔ r.get? (number record) = some record := by
  rw [Dict.values, List.mem_map]
  constructor
  · rintro ⟨⟨n, record⟩, present, rfl⟩
    have found := (r.mem_entries_iff n record).mp present
    rw [own n record found]
    exact found
  · intro found
    exact ⟨(number record, record), (r.mem_entries_iff _ record).mpr found, rfl⟩

theorem increasing_keys (r : Roster ρ) : r.records.keys.Pairwise (· < ·) :=
  List.pairwise_map.mpr (r.records.increasing.imp fun before => of_decide_eq_true before)

/-- If records tell their own numbers, they are listed by them. -/
theorem pairwise_values {r : Roster ρ} (number : ρ → Nat)
    (own : ∀ n record, r.get? n = some record → number record = n) :
    r.records.values.Pairwise fun x y => number x < number y := by
  have keys : r.records.values.map number = r.records.keys := by
    rw [Dict.values, Dict.keys, List.map_map]
    refine List.map_congr_left fun e listed => ?_
    exact own e.1 e.2 ((r.mem_entries_iff e.1 e.2).mp listed)
  rw [← List.pairwise_map (f := number) (R := (· < ·)), keys]
  exact r.increasing_keys

/-- Rosters with the same records and the same next number are the same. -/
theorem ext_get? {r s : Roster ρ} (records : ∀ n, r.get? n = s.get? n) (next : r.next = s.next) :
    r = s := by
  have same : r.records = s.records := Dict.ext_find? records
  cases r
  cases s
  cases same
  cases next
  rfl

theorem get?_foldl_adjust {ι : Type} (number : ι → Nat) (f : ι → ρ → ρ) (steps : List ι)
    (r : Roster ρ) (n : Nat) :
    (steps.foldl (fun r i => r.adjust (number i) (f i)) r).get? n =
      (r.get? n).map fun record =>
        (steps.filter fun i => number i == n).foldl (fun record i => f i record) record := by
  induction steps generalizing r with
  | nil => simp
  | cons i rest ih =>
    rw [List.foldl_cons, ih, get?_adjust, List.filter_cons]
    by_cases same : n = number i
    · simp [same, Option.map_map, Function.comp_def]
    · have differ : (number i == n) = false := by simpa using Ne.symm same
      simp [same, differ]

theorem next_foldl_adjust {ι : Type} (number : ι → Nat) (f : ι → ρ → ρ) (steps : List ι)
    (r : Roster ρ) : (steps.foldl (fun r i => r.adjust (number i) (f i)) r).next = r.next := by
  induction steps generalizing r with
  | nil => rfl
  | cons i rest ih => rw [List.foldl_cons, ih, next_adjust]

theorem foldl_of_fixed {ι : Type} {f : ι → ρ → ρ} {record : ρ} {steps : List ι}
    (fixed : ∀ i ∈ steps, f i record = record) :
    steps.foldl (fun record i => f i record) record = record := by
  induction steps with
  | nil => rfl
  | cons i rest ih =>
    rw [List.foldl_cons, fixed i List.mem_cons_self]
    exact ih fun j later => fixed j (List.mem_cons_of_mem _ later)

/-- Changes of single records, one after another, change all records at once if each of them does
to its record what is done to all, and what no change meets is to stay as it is. -/
theorem foldl_adjust_eq_mapRecords {ι : Type} {number : ι → Nat} {f : ι → ρ → ρ} {steps : List ι}
    {r : Roster ρ} {g : ρ → ρ}
    (changes : ∀ i ∈ steps, ∀ record, r.get? (number i) = some record →
      f i record = g record ∧ f i (g record) = g record)
    (stays : ∀ n record, r.get? n = some record → (∀ i ∈ steps, number i ≠ n) →
      g record = record) :
    steps.foldl (fun r i => r.adjust (number i) (f i)) r = r.mapRecords g := by
  refine ext_get? (fun n => ?_) (next_foldl_adjust number f steps r)
  rw [get?_foldl_adjust, get?_mapRecords]
  cases found : r.get? n with
  | none => rfl
  | some record =>
    rw [Option.map_some, Option.map_some, Option.some.injEq]
    have here : ∀ i ∈ steps.filter fun i => number i == n,
        f i record = g record ∧ f i (g record) = g record := by
      intro i present
      obtain ⟨present, same⟩ := List.mem_filter.mp present
      exact changes i present record (eq_of_beq same ▸ found)
    cases shape : steps.filter fun i => number i == n with
    | nil =>
      refine (stays n record found fun i present same => ?_).symm
      have kept : i ∈ steps.filter fun i => number i == n :=
        List.mem_filter.mpr ⟨present, by simpa using same⟩
      rw [shape] at kept
      contradiction
    | cons i rest =>
      rw [shape] at here
      rw [List.foldl_cons, (here i List.mem_cons_self).1]
      exact foldl_of_fixed fun j later => (here j (List.mem_cons_of_mem _ later)).2

/-- Records that are put under numbers in use change what is there, if the count of numbers stays
where it is. -/
theorem foldl_put_eq_foldl_adjust {ι : Type} (number : ι → Nat) (f : ι → ρ) {steps : List ι}
    {count : Roster ρ → Nat → Roster ρ} {r : Roster ρ}
    (present : ∀ i ∈ steps, ∃ record, r.get? (number i) = some record)
    (still : ∀ i ∈ steps, ∀ t : Roster ρ, t.next = r.next → count t (number i) = t) :
    steps.foldl (fun r i => (count r (number i)).put (number i) (f i)) r =
      steps.foldl (fun r i => r.adjust (number i) fun _ => f i) r := by
  induction steps generalizing r with
  | nil => rfl
  | cons i rest ih =>
    obtain ⟨record, found⟩ := present i List.mem_cons_self
    have same : (count r (number i)).put (number i) (f i) = r.adjust (number i) fun _ => f i := by
      rw [still i List.mem_cons_self r rfl, adjust, found]
    rw [List.foldl_cons, List.foldl_cons, same]
    refine ih (fun j later => ?_) fun j later t next => ?_
    · obtain ⟨other, known⟩ := present j (List.mem_cons_of_mem _ later)
      rw [get?_adjust, known]
      split
      · exact ⟨f i, rfl⟩
      · exact ⟨other, rfl⟩
    · rw [next_adjust] at next
      exact still j (List.mem_cons_of_mem _ later) t next

/-- A change of all records changes nothing exactly if it leaves each record as it is. -/
theorem records_mapRecords_eq_iff (r : Roster ρ) (f : ρ → ρ) :
    r.records = (r.mapRecords f).records ↔ ∀ n record, r.get? n = some record → f record = record := by
  constructor
  · intro same n record found
    have image := r.get?_mapRecords f n
    rw [get?, ← same, ← get?, found, Option.map_some] at image
    exact (Option.some.inj image).symm
  · intro fixed
    refine Dict.ext_find? fun n => ?_
    have image := r.get?_mapRecords f n
    rw [get?, get?] at image
    rw [image]
    cases found : r.records.find? n with
    | none => rfl
    | some record => rw [Option.map_some, fixed n record found]

theorem isElsewhere_iff (r : Roster ρ) (n : Nat) (test : ρ → Bool) :
    r.isElsewhere n test = true ↔
      ∃ m record, m ≠ n ∧ r.get? m = some record ∧ test record = true := by
  rw [isElsewhere, List.any_eq_true]
  constructor
  · rintro ⟨⟨m, record⟩, present, holds⟩
    rw [Bool.and_eq_true, bne_iff_ne] at holds
    exact ⟨m, record, holds.1, (r.mem_entries_iff m record).mp present, holds.2⟩
  · rintro ⟨m, record, differ, found, passes⟩
    refine ⟨(m, record), (r.mem_entries_iff m record).mpr found, ?_⟩
    rw [Bool.and_eq_true, bne_iff_ne]
    exact ⟨differ, passes⟩

@[simp] theorem isElsewhere_takeId (r : Roster ρ) (wanted n : Nat) (test : ρ → Bool) :
    (r.takeId wanted).isElsewhere n test = r.isElsewhere n test := rfl

theorem get?_of_find? {r : Roster ρ} {test : ρ → Bool} {n : Nat} {record : ρ}
    (found : r.find? test = some (n, record)) : r.get? n = some record ∧ test record = true :=
  ⟨(r.mem_entries_iff n record).mp (List.mem_of_find?_eq_some found),
    List.find?_some (p := fun e : Nat × ρ => test e.2) found⟩

/-- A search fails exactly if no record passes the test. -/
theorem find?_eq_none_iff {r : Roster ρ} {test : ρ → Bool} :
    r.find? test = none ↔ ∀ n record, r.get? n = some record → test record = false := by
  rw [find?, List.find?_eq_none]
  constructor
  · intro none n record found
    exact eq_false_of_ne_true (none (n, record) ((r.mem_entries_iff n record).mpr found))
  · rintro fails ⟨n, record⟩ present
    simp [fails n record ((r.mem_entries_iff n record).mp present)]

/-! ## Images -/

section Images

variable {τ : Type} (r : Roster ρ) (f : ρ → τ)

theorem entries_image :
    (r.image f).records.entries = r.records.entries.map fun e => (e.1, f e.2) :=
  rfl

theorem find?_image (test : τ → Bool) :
    (r.image f).find? test = (r.find? fun record => test (f record)).map fun e => (e.1, f e.2) := by
  rw [find?, entries_image, List.find?_map]
  rfl

theorem isElsewhere_image (n : Nat) (test : τ → Bool) :
    (r.image f).isElsewhere n test = r.isElsewhere n fun record => test (f record) := by
  rw [isElsewhere, entries_image, List.any_map]
  rfl

theorem image_put (n : Nat) (record : ρ) :
    ((r.take n).put n record).image f = ((r.image f).take n).put n (f record) := by
  refine ext_get? (fun m => ?_) rfl
  rw [get?_image, get?_put, get?_put, get?_take, get?_take, get?_image]
  split <;> rfl

theorem image_erase (n : Nat) : (r.erase n).image f = (r.image f).erase n := by
  refine ext_get? (fun m => ?_) rfl
  rw [get?_image, get?_erase, get?_erase, get?_image]
  split <;> rfl

variable {f}

theorem image_mapRecords {g : ρ → ρ} {h : τ → τ} (commutes : ∀ record, f (g record) = h (f record)) :
    (r.mapRecords g).image f = (r.image f).mapRecords h := by
  refine ext_get? (fun m => ?_) rfl
  rw [get?_image, get?_mapRecords, get?_mapRecords, get?_image, Option.map_map, Option.map_map]
  exact congrArg (Option.map · _) (funext commutes)

end Images

/-! ## The count of numbers -/

/-- Whether a record that asks for `wanted` finds a number, and leaves one to count on with, before
the count of 32 bits comes round. -/
def HasRoom (r : Roster ρ) (wanted : Nat) : Prop := r.number wanted + 1 < idLimit

instance (r : Roster ρ) (wanted : Nat) : Decidable (r.HasRoom wanted) :=
  inferInstanceAs (Decidable (_ < _))

theorem number_of_pos (r : Roster ρ) {n : Nat} (positive : 0 < n) : r.number n = n := by
  rw [number, if_neg (Nat.ne_of_gt positive)]

/-- While there is room, 32 bits count as one counts without end. -/
theorem takeId_eq_take {r : Roster ρ} {wanted : Nat} (room : r.HasRoom wanted) :
    r.takeId wanted = r.take (r.number wanted) := by
  have after : idAfter (r.number wanted) = r.number wanted + 1 := Nat.mod_eq_of_lt room
  rw [number] at after ⊢
  rw [takeId, take]
  split
  · next asked =>
    rw [if_pos asked] at after
    rw [after, Nat.max_eq_right (Nat.le_succ _)]
  · next given =>
    rw [if_neg given] at after
    rw [after]

theorem take_of_lt {r : Roster ρ} {n : Nat} (below : n < r.next) : r.take n = r := by
  rw [take, Nat.max_eq_left below]

/-- A number below the next one leaves the count where it is. -/
theorem takeId_of_lt {r : Roster ρ} {n : Nat} (positive : 0 < n) (below : n < r.next) :
    r.takeId n = r := by
  have reached : idAfter n ≤ r.next := Nat.le_trans (Nat.mod_le _ _) below
  rw [takeId, if_neg (Nat.ne_of_gt positive), Nat.max_eq_left reached]

/-! ## Names of their own -/

/-- No two records share a name. -/
structure Distinct (r : Roster ρ) (name : ρ → String) : Prop where
  unique : ∀ {m n first second}, r.get? m = some first → r.get? n = some second →
    name first = name second → m = n

namespace Distinct

variable {r : Roster ρ} {name : ρ → String}

theorem new {first : Nat} : (Roster.new first : Roster ρ).Distinct name where
  unique found := by simp at found

theorem take (h : r.Distinct name) (n : Nat) : (r.take n).Distinct name := ⟨h.unique⟩

theorem takeId (h : r.Distinct name) (wanted : Nat) : (r.takeId wanted).Distinct name := ⟨h.unique⟩

/-- A record can be put under any number, unless its name is found elsewhere. -/
theorem put (h : r.Distinct name) {n : Nat} (record : ρ)
    (free : r.isElsewhere n (fun other => name other == name record) = false) :
    (r.put n record).Distinct name := by
  have apart : ∀ {m other}, m ≠ n → r.get? m = some other → name other ≠ name record := by
    intro m other differ found same
    have elsewhere := (r.isElsewhere_iff n fun other => name other == name record).mpr
      ⟨m, other, differ, found, by simpa using same⟩
    rw [free] at elsewhere
    contradiction
  refine ⟨fun {i j first second} foundFirst foundSecond same => ?_⟩
  rw [get?_put] at foundFirst foundSecond
  split at foundFirst <;> split at foundSecond
  · next left right => rw [left, right]
  · next right =>
    cases foundFirst
    exact absurd same.symm (apart right foundSecond)
  · next left _ =>
    cases foundSecond
    exact absurd same (apart left foundFirst)
  · exact h.unique foundFirst foundSecond same

/-- A roster whose records all stem from one with distinct names, under the same numbers and
names. -/
theorem of_source {s : Roster ρ} (h : r.Distinct name)
    (source : ∀ {n record}, s.get? n = some record →
      ∃ before, r.get? n = some before ∧ name before = name record) : s.Distinct name := by
  refine ⟨fun {m n first second} foundFirst foundSecond same => ?_⟩
  obtain ⟨before, foundFirst, left⟩ := source foundFirst
  obtain ⟨other, foundSecond, right⟩ := source foundSecond
  exact h.unique foundFirst foundSecond (left.trans (same.trans right.symm))

theorem erase (h : r.Distinct name) (n : Nat) : (r.erase n).Distinct name := by
  refine h.of_source fun {m record} found => ?_
  rw [get?_erase] at found
  split at found
  · contradiction
  · exact ⟨record, found, rfl⟩

/-- Records may change in any way that leaves their names. -/
theorem mapRecords (h : r.Distinct name) {f : ρ → ρ}
    (named : ∀ record, name (f record) = name record) : (r.mapRecords f).Distinct name := by
  refine h.of_source fun {m record} found => ?_
  rw [get?_mapRecords] at found
  obtain ⟨before, present, rfl⟩ := Option.map_eq_some_iff.mp found
  exact ⟨before, present, (named before).symm⟩

theorem adjust (h : r.Distinct name) (n : Nat) {f : ρ → ρ}
    (named : ∀ record, name (f record) = name record) : (r.adjust n f).Distinct name := by
  refine h.of_source fun {m record} found => ?_
  rw [get?_adjust] at found
  split at found
  · obtain ⟨before, present, rfl⟩ := Option.map_eq_some_iff.mp found
    exact ⟨before, present, (named before).symm⟩
  · exact ⟨record, found, rfl⟩

theorem not_elsewhere (h : r.Distinct name) {n : Nat} {record : ρ}
    (found : r.get? n = some record) :
    r.isElsewhere n (fun other => name other == name record) = false := by
  rw [← Bool.not_eq_true, isElsewhere_iff]
  rintro ⟨m, other, differ, present, same⟩
  exact differ (h.unique present found (by simpa using same))

/-- The record of a name is the only one that a search for the name can meet. -/
theorem find?_eq (h : r.Distinct name) {n : Nat} {record : ρ} (found : r.get? n = some record) :
    r.find? (fun other => name other == name record) = some (n, record) := by
  cases search : r.find? fun other => name other == name record with
  | none =>
    have fails := find?_eq_none_iff.mp search n record found
    rw [beq_self_eq_true] at fails
    contradiction
  | some hit =>
    obtain ⟨m, other⟩ := hit
    obtain ⟨present, same⟩ := get?_of_find? search
    obtain rfl := h.unique present found (by simpa using same)
    rw [found] at present
    rw [Option.some.inj present]

/-- A search for a name meets the record that has it, and no other. -/
theorem find?_eq_some_iff (h : r.Distinct name) {key : String} {n : Nat} {record : ρ} :
    r.find? (fun other => name other == key) = some (n, record) ↔
      r.get? n = some record ∧ name record = key := by
  constructor
  · intro search
    obtain ⟨present, same⟩ := get?_of_find? search
    exact ⟨present, by simpa using same⟩
  · rintro ⟨present, rfl⟩
    exact h.find?_eq present

end Distinct

/-! ## Numbers in order -/

/-- Numbers are positive and lie below the next number. -/
structure Numbered (r : Roster ρ) : Prop where
  next_positive : 0 < r.next
  positive : ∀ {n record}, r.get? n = some record → 0 < n
  below : ∀ {n record}, r.get? n = some record → n < r.next

namespace Numbered

variable {r : Roster ρ}

theorem new {first : Nat} (positive : 0 < first) : (Roster.new first : Roster ρ).Numbered where
  next_positive := positive
  positive found := by simp at found
  below found := by simp at found

theorem number_positive (h : r.Numbered) (wanted : Nat) : 0 < r.number wanted := by
  rw [number]
  split
  · exact h.next_positive
  · next asked => exact Nat.pos_of_ne_zero asked

theorem take (h : r.Numbered) (n : Nat) : (r.take n).Numbered where
  next_positive := Nat.lt_of_lt_of_le h.next_positive (Nat.le_max_left _ _)
  positive found := h.positive found
  below found := Nat.lt_of_lt_of_le (h.below found) (Nat.le_max_left _ _)

/-- A record can be put under a number that was taken. -/
theorem put (h : r.Numbered) {n : Nat} (record : ρ) (positive : 0 < n) :
    ((r.take n).put n record).Numbered := by
  have below : n < (r.take n).next := Nat.lt_of_lt_of_le (Nat.lt_succ_self n) (Nat.le_max_right _ _)
  refine ⟨(h.take n).next_positive, ?_, ?_⟩
  · intro m other found
    rw [get?_put] at found
    split at found
    · next same => rwa [same]
    · exact h.positive found
  · intro m other found
    rw [get?_put] at found
    split at found
    · next same => rw [same]; exact below
    · exact (h.take n).below found

/-- A roster whose records all stem from one with numbers in order, under the same numbers. -/
theorem of_source {s : Roster ρ} (h : r.Numbered) (next : s.next = r.next)
    (source : ∀ {n record}, s.get? n = some record → ∃ before, r.get? n = some before) :
    s.Numbered := by
  refine ⟨next ▸ h.next_positive, ?_, ?_⟩
  · intro n record found
    obtain ⟨before, found⟩ := source found
    exact h.positive found
  · intro n record found
    obtain ⟨before, found⟩ := source found
    exact next ▸ h.below found

theorem erase (h : r.Numbered) (n : Nat) : (r.erase n).Numbered := by
  refine h.of_source rfl fun {m record} found => ?_
  rw [get?_erase] at found
  split at found
  · contradiction
  · exact ⟨record, found⟩

theorem mapRecords (h : r.Numbered) (f : ρ → ρ) : (r.mapRecords f).Numbered := by
  refine h.of_source rfl fun {m record} found => ?_
  rw [get?_mapRecords] at found
  obtain ⟨before, present, -⟩ := Option.map_eq_some_iff.mp found
  exact ⟨before, present⟩

theorem adjust (h : r.Numbered) (n : Nat) (f : ρ → ρ) : (r.adjust n f).Numbered := by
  refine h.of_source (next_adjust r n f) fun {m record} found => ?_
  rw [get?_adjust] at found
  split at found
  · obtain ⟨before, present, -⟩ := Option.map_eq_some_iff.mp found
    exact ⟨before, present⟩
  · exact ⟨record, found⟩

/-- Under the next number there is no record yet. -/
theorem records_put_next_ne (h : r.Numbered) (record : ρ) :
    r.records ≠ (r.put r.next record).records := by
  intro same
  have found : r.get? r.next = some record := by
    rw [get?, same, ← get?, get?_put, if_pos rfl]
  exact absurd (h.below found) (Nat.lt_irrefl _)

end Numbered

end Roster

end StorageGateway
