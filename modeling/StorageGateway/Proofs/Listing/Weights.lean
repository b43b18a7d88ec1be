import Mathlib.Algebra.BigOperators.Group.List.Basic
import Mathlib.Algebra.GroupWithZero.Nat
import StorageGateway.Proofs.Listing.Folding

/-!
# The weight of a listing

A weight gives every entry a size, such as its own, or its own only if it is a directory of a certain
name. Where a directory takes over the weight of those that are folded into it, a listing weighs as much
as all that was pushed, in whichever order it came. Main statement: `weigh_extend`. Both ways to add sizes
are told by the bytes that there are (`bytes_sum`, `bytes_total`).
-/

namespace StorageGateway

namespace Size

instance : Zero Size := ⟨0⟩

/-- Sizes add up in any order. -/
instance : AddCommMonoid Size where
  add_assoc := Size.add_assoc
  zero_add := Size.zero_add
  add_zero := Size.add_zero
  add_comm := Size.add_comm
  nsmul := nsmulRec

/-- The size of several lists together is the sum of their sizes. -/
theorem sum_append (sizes others : List Size) : sum (sizes ++ others) = sum sizes + sum others :=
  List.sum_append

variable {α : Type} (xs : List α)

/-- What counts under a condition is what counts of those that meet it. -/
theorem sum_map_ite (p : α → Prop) [DecidablePred p] (f : α → Size) :
    sum (xs.map fun x => if p x then f x else 0) = sum ((xs.filter p).map f) := by
  have split := List.sum_map_ite p f (fun _ => 0) xs
  have nothing : ((xs.filter fun x => ¬ p x).map fun _ => (0 : Size)).sum = 0 := by simp
  exact split.trans ((congrArg _ nothing).trans (Size.add_zero _))

theorem sum_map_add (f g : α → Size) :
    sum (xs.map fun x => f x + g x) = sum (xs.map f) + sum (xs.map g) :=
  List.sum_map_add

/-! ## Sums in bytes -/

theorem bytes_sum (sizes : List Size) : (sum sizes).bytes = min (sizes.map bytes).sum limit := by
  induction sizes with
  | nil => rfl
  | cons first rest ih =>
    change (first + sum rest).bytes = _
    rw [bytes_add, ih, List.map_cons, List.sum_cons]
    omega

theorem bytes_total (sizes : List Size) : (total sizes).bytes = (sizes.map bytes).sum % (limit + 1) := by
  induction sizes with
  | nil => rfl
  | cons first rest ih =>
    change (first.bytes + (total rest).bytes) % (limit + 1) = _
    rw [ih, Nat.add_mod_mod, List.map_cons, List.sum_cons]

variable {sizes others : List Size}

theorem bytes_total_of_le (fits : (sizes.map bytes).sum ≤ limit) :
    (total sizes).bytes = (sizes.map bytes).sum :=
  (bytes_total sizes).trans (Nat.mod_eq_of_lt (Nat.lt_succ_of_le fits))

/-- Below the limit there is only one way to add. -/
theorem total_eq_sum (fits : (sizes.map bytes).sum ≤ limit) : total sizes = sum sizes := by
  apply Size.ext
  rw [bytes_total_of_le fits, bytes_sum, Nat.min_eq_left fits]

theorem total_perm (same : sizes.Perm others) : total sizes = total others := by
  apply Size.ext
  rw [bytes_total, bytes_total, (same.map bytes).sum_eq]

end Size

/-! ## Weights -/

/-- What entries weigh together. -/
def weigh (weight : Entry → Size) (es : List Entry) : Size := .sum (es.map weight)

/-- A directory takes over the weight of those that are folded into it. -/
def Folds (weight : Entry → Size) : Prop :=
  ∀ {d e : Entry}, d.isDirectory = true → e.isDirectory = true → d.name = e.name →
    weight (Listing.absorb d e) = weight d + weight e

/-- The size of directories of a name, and nothing of other entries. -/
def sizeUnder (name : String) (e : Entry) : Size :=
  if e.isDirectory = true ∧ e.name = name then e.size else 0

theorem folds_size : Folds Entry.size := fun _ _ _ => rfl

theorem folds_sizeUnder (name : String) : Folds (sizeUnder name) := by
  intro d e directory also named
  have absorbed : (Listing.absorb d e).isDirectory = true := directory
  by_cases here : d.name = name
  · have there : e.name = name := named ▸ here
    have under : (Listing.absorb d e).name = name := here
    simp only [sizeUnder, directory, also, absorbed, here, there, under, and_self, if_true]
    rfl
  · have there : e.name ≠ name := named ▸ here
    have apart : (Listing.absorb d e).name ≠ name := here
    simp only [sizeUnder, here, there, apart, and_false, if_false]
    rfl

section Weigh

variable {weight : Entry → Size} {es fs : List Entry}

theorem weigh_append (weight : Entry → Size) (es fs : List Entry) :
    weigh weight (es ++ fs) = weigh weight es + weigh weight fs := by
  rw [weigh, List.map_append, Size.sum_append]
  rfl

theorem weigh_singleton (weight : Entry → Size) (e : Entry) : weigh weight [e] = weight e :=
  Size.add_zero (weight e)

theorem weigh_perm (weight : Entry → Size) (same : es.Perm fs) : weigh weight es = weigh weight fs :=
  (same.map weight).sum_eq

theorem weigh_eq_zero (nothing : ∀ e ∈ es, weight e = 0) : weigh weight es = 0 := by
  have none : es.map weight = es.map fun _ => 0 := List.map_congr_left nothing
  rw [weigh, none]
  exact List.sum_map_zero

theorem weigh_flatMap {α : Type} (weight : Entry → Size) (xs : List α) (f : α → List Entry) :
    weigh weight (xs.flatMap f) = .sum (xs.map fun x => weigh weight (f x)) := by
  induction xs with
  | nil => rfl
  | cons x rest ih =>
    rw [List.flatMap_cons, weigh_append, ih]
    rfl

end Weigh

namespace Listing.Indexed

variable {l : Listing} {weight : Entry → Size}

theorem weigh_push (indexed : l.Indexed) (folds : Folds weight) (e : Entry) :
    weigh weight (l.push e).entries = weigh weight l.entries + weight e := by
  cases directory : e.isDirectory with
  | false => rw [push_file directory, weigh_append, weigh_singleton]
  | true =>
    cases found : l.firstAt.find? e.name with
    | none => rw [push_new directory found, weigh_append, weigh_singleton]
    | some n =>
      obtain ⟨d, present, isDirectory, named⟩ := indexed.leads found
      obtain ⟨inside, rfl⟩ := List.getElem?_eq_some_iff.mp present
      have shape : l.entries = l.entries.take n ++ l.entries[n] :: l.entries.drop (n + 1) := by
        rw [← List.drop_eq_getElem_cons inside, List.take_append_drop]
      rw [push_known directory found]
      calc
        weigh weight (l.entries.modify n (absorb · e)) =
            weigh weight (l.entries.take n) + (weight (absorb l.entries[n] e) +
              weigh weight (l.entries.drop (n + 1))) := by
          rw [List.modify_eq_take_cons_drop inside, weigh_append]
          rfl
        _ = weigh weight (l.entries.take n) + (weight l.entries[n] +
              weigh weight (l.entries.drop (n + 1))) + weight e := by
          rw [folds isDirectory directory named, add_right_comm, ← add_assoc]
        _ = weigh weight l.entries + weight e := by
          conv_rhs => rw [shape, weigh_append]
          rfl

/-- A listing weighs as much as what was there and all that was pushed. -/
theorem weigh_extend (indexed : l.Indexed) (folds : Folds weight) (es : List Entry) :
    weigh weight (l.extend es).entries = weigh weight l.entries + weigh weight es := by
  induction es generalizing l with
  | nil => exact (Size.add_zero _).symm
  | cons e rest ih =>
    rw [extend_cons, ih (indexed.push e), indexed.weigh_push folds, Size.add_assoc]
    rfl

end Listing.Indexed

/-- All that was listed weighs as much as all that was shown. -/
theorem weigh_listed {weight : Entry → Size} (folds : Folds weight) (es : List Entry) :
    weigh weight (Listing.empty.extend es).entries = weigh weight es :=
  (Listing.indexed_empty.weigh_extend folds es).trans (Size.zero_add _)

end StorageGateway
