/-!
# Dictionaries sorted by key

`Dict κ α` is a finite map kept as an association list whose keys increase strictly, so that it
has one entry for a key and lists its entries in key order. Main statements: what a look-up
answers after `insert`, `erase` and `filter` (`find?_insert`, `find?_erase`, `find?_filter`).
-/

namespace StorageGateway

/-- A decidable strict linear order on the keys of a dictionary. -/
class KeyOrder (κ : Type) where
  /-- The strict order. -/
  before : κ → κ → Bool
  before_irrefl : ∀ a, before a a = false
  before_trans : ∀ {a b c}, before a b = true → before b c = true → before a c = true
  before_total : ∀ a b, before a b = true ∨ a = b ∨ before b a = true

instance : KeyOrder Nat where
  before a b := a < b
  before_irrefl a := by simp
  before_trans h k := by simp only [decide_eq_true_eq] at h k ⊢; omega
  before_total a b := by simp only [decide_eq_true_eq]; omega

instance : KeyOrder String where
  before a b := a < b
  before_irrefl a := by simp
  before_trans h k := by
    simp only [decide_eq_true_eq] at h k ⊢
    exact String.lt_trans h k
  before_total a b := by
    simp only [decide_eq_true_eq]
    rcases String.le_total a b with h | h
    · by_cases hb : b ≤ a
      · exact .inr (.inl (String.le_antisymm h hb))
      · exact .inl (String.not_le.mp hb)
    · by_cases ha : a ≤ b
      · exact .inr (.inl (String.le_antisymm ha h))
      · exact .inr (.inr (String.not_le.mp ha))

/-- Key order carried along an injective function. -/
@[reducible] def KeyOrder.along {κ μ : Type} [KeyOrder μ] (f : κ → μ)
    (injective : ∀ {a b}, f a = f b → a = b) : KeyOrder κ where
  before a b := KeyOrder.before (f a) (f b)
  before_irrefl a := KeyOrder.before_irrefl (f a)
  before_trans h k := KeyOrder.before_trans h k
  before_total a b := (KeyOrder.before_total (f a) (f b)).imp id (Or.imp injective id)

/-- An association list whose keys increase strictly. -/
def Increasing {κ α : Type} [KeyOrder κ] (entries : List (κ × α)) : Prop :=
  entries.Pairwise fun a b => KeyOrder.before a.1 b.1 = true

/-- A finite map from keys to values, its entries in increasing key order. -/
structure Dict (κ α : Type) [KeyOrder κ] where
  /-- The entries, in key order. -/
  entries : List (κ × α)
  increasing : Increasing entries

namespace Dict

variable {κ α β : Type} [KeyOrder κ] [DecidableEq κ]

omit [DecidableEq κ] in
@[ext] theorem ext {d e : Dict κ α} (h : d.entries = e.entries) : d = e := by
  cases d; cases e; cases h; rfl

instance [DecidableEq α] : DecidableEq (Dict κ α) := fun d e =>
  decidable_of_iff (d.entries = e.entries) ⟨Dict.ext, fun h => h ▸ rfl⟩

/-- The dictionary without entries. -/
def empty : Dict κ α := ⟨[], .nil⟩

instance : Inhabited (Dict κ α) := ⟨empty⟩
instance : EmptyCollection (Dict κ α) := ⟨empty⟩

/-- Put `k ↦ v` at its place in an increasing list, in the stead of an entry with the same key. -/
def insertEntry (k : κ) (v : α) : List (κ × α) → List (κ × α)
  | [] => [(k, v)]
  | (j, w) :: rest =>
    if k = j then (k, v) :: rest
    else if KeyOrder.before k j then (k, v) :: (j, w) :: rest
    else (j, w) :: insertEntry k v rest

theorem mem_insertEntry {k : κ} {v : α} {entries : List (κ × α)} {e : κ × α}
    (h : e ∈ insertEntry k v entries) : e = (k, v) ∨ e ∈ entries := by
  induction entries with
  | nil => simpa [insertEntry] using h
  | cons head rest ih =>
    obtain ⟨j, w⟩ := head
    rw [insertEntry] at h
    split at h
    · rcases List.mem_cons.mp h with h | h
      · exact .inl h
      · exact .inr (List.mem_cons_of_mem _ h)
    · split at h
      · exact List.mem_cons.mp h
      · rcases List.mem_cons.mp h with h | h
        · exact .inr (h ▸ List.mem_cons_self)
        · exact (ih h).imp id (List.mem_cons_of_mem _)

theorem increasing_insertEntry (k : κ) (v : α) {entries : List (κ × α)}
    (h : Increasing entries) : Increasing (insertEntry k v entries) := by
  induction entries with
  | nil => simp [insertEntry, Increasing]
  | cons head rest ih =>
    obtain ⟨j, w⟩ := head
    obtain ⟨first, others⟩ := List.pairwise_cons.mp h
    rw [insertEntry]
    split
    · next hk => subst hk; exact List.pairwise_cons.mpr ⟨first, others⟩
    · next hk =>
      split
      · next hb =>
        refine List.pairwise_cons.mpr ⟨fun e he => ?_, h⟩
        rcases List.mem_cons.mp he with rfl | he
        · exact hb
        · exact KeyOrder.before_trans hb (first e he)
      · next hb =>
        have after : KeyOrder.before j k = true := by
          rcases KeyOrder.before_total k j with h | h | h
          · exact absurd h hb
          · exact absurd h hk
          · exact h
        refine List.pairwise_cons.mpr ⟨fun e he => ?_, ih others⟩
        rcases mem_insertEntry he with rfl | he
        · exact after
        · exact first e he

/-- The dictionary with `k ↦ v`, in the stead of what `k` was mapped to. -/
def insert (d : Dict κ α) (k : κ) (v : α) : Dict κ α :=
  ⟨insertEntry k v d.entries, increasing_insertEntry k v d.increasing⟩

/-- The value of the first entry with key `k`. -/
def lookupEntry (k : κ) : List (κ × α) → Option α
  | [] => none
  | (j, w) :: rest => if k = j then some w else lookupEntry k rest

/-- What `k` is mapped to. -/
def find? (d : Dict κ α) (k : κ) : Option α :=
  lookupEntry k d.entries

/-- Whether `k` is mapped to anything. -/
def contains (d : Dict κ α) (k : κ) : Bool :=
  (d.find? k).isSome

/-- The entries that pass a test. -/
def filter (d : Dict κ α) (keep : κ → α → Bool) : Dict κ α :=
  ⟨d.entries.filter fun e => keep e.1 e.2, List.Pairwise.filter _ d.increasing⟩

/-- The dictionary without an entry for `k`. -/
def erase (d : Dict κ α) (k : κ) : Dict κ α :=
  d.filter fun j _ => j != k

/-- Every value replaced by its image, under the same key. -/
def map (f : κ → α → β) (d : Dict κ α) : Dict κ β :=
  ⟨d.entries.map fun e => (e.1, f e.1 e.2), by
    simpa only [Increasing, List.pairwise_map] using d.increasing⟩

/-- The dictionary of a list of entries; a later entry replaces an earlier one of its key. -/
def ofList (entries : List (κ × α)) : Dict κ α :=
  entries.foldl (fun d e => d.insert e.1 e.2) empty

/-- The keys, in increasing order. -/
def keys (d : Dict κ α) : List κ := d.entries.map Prod.fst

/-- The values, in the order of their keys. -/
def values (d : Dict κ α) : List α := d.entries.map Prod.snd

/-- The number of entries. -/
def size (d : Dict κ α) : Nat := d.entries.length

/-! ## Look-ups -/

theorem lookupEntry_insertEntry (k j : κ) (v : α) (entries : List (κ × α)) :
    lookupEntry j (insertEntry k v entries) =
      if j = k then some v else lookupEntry j entries := by
  induction entries with
  | nil => simp [insertEntry, lookupEntry]
  | cons head rest ih =>
    obtain ⟨i, w⟩ := head
    rw [insertEntry]
    split
    · next h => subst h; simp only [lookupEntry]; split <;> rfl
    · split
      · simp [lookupEntry]
      · next h _ =>
        by_cases hj : j = i
        · subst hj; simp [lookupEntry, Ne.symm h]
        · simp [lookupEntry, hj, ih]

/-- After an insertion the key is mapped to the new value and every other key to what it was. -/
theorem find?_insert (d : Dict κ α) (k j : κ) (v : α) :
    (d.insert k v).find? j = if j = k then some v else d.find? j :=
  lookupEntry_insertEntry k j v d.entries

@[simp] theorem find?_empty (k : κ) : (empty : Dict κ α).find? k = none := rfl

/-- A key below all others of a list is not found there. -/
theorem lookupEntry_eq_none {k : κ} {entries : List (κ × α)}
    (h : ∀ e ∈ entries, KeyOrder.before k e.1 = true) : lookupEntry k entries = none := by
  induction entries with
  | nil => rfl
  | cons head rest ih =>
    obtain ⟨j, w⟩ := head
    have hne : k ≠ j := by
      rintro rfl
      simpa [KeyOrder.before_irrefl] using h (k, w) List.mem_cons_self
    rw [lookupEntry, if_neg hne]
    exact ih fun e he => h e (List.mem_cons_of_mem _ he)

theorem lookupEntry_filter (k : κ) (keep : κ → α → Bool) {entries : List (κ × α)}
    (h : Increasing entries) :
    lookupEntry k (entries.filter fun e => keep e.1 e.2) =
      (lookupEntry k entries).filter (keep k) := by
  induction entries with
  | nil => rfl
  | cons head rest ih =>
    obtain ⟨j, w⟩ := head
    obtain ⟨first, others⟩ := List.pairwise_cons.mp h
    by_cases hk : k = j
    · subst hk
      have gone : lookupEntry k (rest.filter fun e => keep e.1 e.2) = none :=
        lookupEntry_eq_none fun e he => first e ((List.mem_filter.mp he).1)
      by_cases hw : keep k w
      · simp [lookupEntry, Option.filter, hw]
      · simp [lookupEntry, Option.filter, hw, gone]
    · by_cases hw : keep j w
      · simp [lookupEntry, hw, hk, ih others]
      · simp [lookupEntry, hw, hk, ih others]

/-- After filtering, a key is mapped to what it was if that passes the test. -/
theorem find?_filter (d : Dict κ α) (keep : κ → α → Bool) (k : κ) :
    (d.filter keep).find? k = (d.find? k).filter (keep k) :=
  lookupEntry_filter k keep d.increasing

/-- After an erasure the key is mapped to nothing and every other key to what it was. -/
theorem find?_erase (d : Dict κ α) (k j : κ) :
    (d.erase k).find? j = if j = k then none else d.find? j := by
  rw [erase, find?_filter]
  cases d.find? j <;> by_cases h : j = k <;> simp [h]

end Dict

end StorageGateway
