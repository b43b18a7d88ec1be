import Mathlib.Data.List.Perm.Basic
import Mathlib.Data.List.Sort
import StorageGateway.Dict.Basic

/-!
# What look-ups tell of a dictionary

A dictionary is settled by its look-ups: they tell which entries there are, and two dictionaries
that answer all of them alike are the same. Main statements: `mem_entries_iff` and `ext_find?`.
-/

namespace StorageGateway

namespace Dict

variable {κ α β : Type} [KeyOrder κ] [DecidableEq κ]

omit [KeyOrder κ] in
theorem mem_of_lookupEntry {k : κ} {v : α} {entries : List (κ × α)}
    (found : lookupEntry k entries = some v) : (k, v) ∈ entries := by
  induction entries with
  | nil => simp [lookupEntry] at found
  | cons head rest ih =>
    obtain ⟨j, w⟩ := head
    rw [lookupEntry] at found
    split at found
    · next same =>
      rw [same, ← Option.some.inj found]
      exact List.mem_cons_self
    · exact List.mem_cons_of_mem _ (ih found)

theorem lookupEntry_of_mem {k : κ} {v : α} {entries : List (κ × α)}
    (increasing : Increasing entries) (present : (k, v) ∈ entries) :
    lookupEntry k entries = some v := by
  induction entries with
  | nil => simp at present
  | cons head rest ih =>
    obtain ⟨j, w⟩ := head
    obtain ⟨first, others⟩ := List.pairwise_cons.mp increasing
    rcases List.mem_cons.mp present with same | later
    · obtain ⟨rfl, rfl⟩ := Prod.mk.inj same
      simp [lookupEntry]
    · have differ : k ≠ j := by
        rintro rfl
        simpa [KeyOrder.before_irrefl] using first (k, v) later
      rw [lookupEntry, if_neg differ, ih others later]

/-- The entries are those that are found. -/
theorem mem_entries_iff (d : Dict κ α) (k : κ) (v : α) :
    (k, v) ∈ d.entries ↔ d.find? k = some v :=
  ⟨lookupEntry_of_mem d.increasing, mem_of_lookupEntry⟩

omit [DecidableEq κ] in
theorem nodup_entries (d : Dict κ α) : d.entries.Nodup := by
  refine d.increasing.imp ?_
  rintro a b before rfl
  simp [KeyOrder.before_irrefl] at before

/-- Dictionaries that answer every look-up alike are the same. -/
theorem ext_find? {d e : Dict κ α} (same : ∀ k, d.find? k = e.find? k) : d = e := by
  have members : d.entries.Perm e.entries := by
    rw [List.perm_ext_iff_of_nodup d.nodup_entries e.nodup_entries]
    rintro ⟨k, v⟩
    rw [mem_entries_iff, mem_entries_iff, same]
  refine Dict.ext (members.eq_of_pairwise ?_ d.increasing e.increasing)
  intro a b _ _ ab ba
  have loop := KeyOrder.before_trans ab ba
  simp [KeyOrder.before_irrefl] at loop

omit [KeyOrder κ] in
theorem lookupEntry_map (f : κ → α → β) (k : κ) (entries : List (κ × α)) :
    lookupEntry k (entries.map fun e => (e.1, f e.1 e.2)) = (lookupEntry k entries).map (f k) := by
  induction entries with
  | nil => rfl
  | cons head rest ih =>
    obtain ⟨j, w⟩ := head
    rw [List.map_cons, lookupEntry, lookupEntry, ih]
    split
    · next same => rw [same, Option.map_some]
    · rfl

/-- A key of a mapped dictionary is mapped to the image of what it was. -/
theorem find?_map (d : Dict κ α) (f : κ → α → β) (k : κ) :
    (d.map f).find? k = (d.find? k).map (f k) :=
  lookupEntry_map f k d.entries

/-! ## Entries put under other keys -/

section Rekeying

variable {μ : Type} [KeyOrder μ] [DecidableEq μ] (f : κ → μ) (g : κ → α → β)

omit [KeyOrder κ] [DecidableEq κ] in
/-- A key under which none of the entries is put is mapped to what it was. -/
theorem find?_foldl_insert_of_not_mem {entries : List (κ × α)} (d : Dict μ β) {j : μ}
    (apart : ∀ e ∈ entries, f e.1 ≠ j) :
    (entries.foldl (fun d e => d.insert (f e.1) (g e.1 e.2)) d).find? j = d.find? j := by
  induction entries generalizing d with
  | nil => rfl
  | cons e rest ih =>
    rw [List.foldl_cons, ih _ fun x later => apart x (List.mem_cons_of_mem _ later), find?_insert,
      if_neg (Ne.symm (apart e List.mem_cons_self))]

omit [KeyOrder κ] [DecidableEq κ] in
/-- A key under which just one of the entries is put is mapped to its image. -/
theorem find?_foldl_insert_of_mem {entries : List (κ × α)} (d : Dict μ β) {k : κ} {v : α}
    (present : (k, v) ∈ entries) (unique : ∀ e ∈ entries, f e.1 = f k → e = (k, v)) :
    (entries.foldl (fun d e => d.insert (f e.1) (g e.1 e.2)) d).find? (f k) = some (g k v) := by
  induction entries generalizing d with
  | nil => contradiction
  | cons e rest ih =>
    rw [List.foldl_cons]
    by_cases again : ∃ x ∈ rest, f x.1 = f k
    · obtain ⟨x, later, same⟩ := again
      obtain rfl := unique x (List.mem_cons_of_mem _ later) same
      exact ih _ later fun y mem => unique y (List.mem_cons_of_mem _ mem)
    · have apart : ∀ x ∈ rest, f x.1 ≠ f k := fun x later same => again ⟨x, later, same⟩
      rcases List.mem_cons.mp present with rfl | later
      · rw [find?_foldl_insert_of_not_mem f g _ apart, find?_insert, if_pos rfl]
      · exact absurd rfl (apart (k, v) later)

end Rekeying

end Dict

end StorageGateway
