/-!
# Sizes

A size counts bytes up to the largest 64-bit number. There are two ways to go on from there. Sizes that
are folded into one another stop at the largest, and so do `+` and `sum`; they do not depend on the order
in which they are taken (`add_comm`, `add_assoc`). Sizes that are counted together come round to zero, as
sums of 64 bits do: this is `total`.
-/

namespace StorageGateway

/-- The largest number of 64 bits. -/
def Size.limit : Nat := 0xFFFFFFFFFFFFFFFF

/-- A number of bytes that fits in 64 bits. -/
structure Size where
  /-- The number of bytes. -/
  bytes : Nat
  bytes_le_limit : bytes ≤ Size.limit

namespace Size

@[ext] theorem ext {a b : Size} (h : a.bytes = b.bytes) : a = b := by
  cases a; cases b; cases h; rfl

instance : DecidableEq Size := fun a b =>
  decidable_of_iff (a.bytes = b.bytes) ⟨Size.ext, fun h => h ▸ rfl⟩

/-- A number of bytes, or the largest size if it is larger. -/
def ofNat (n : Nat) : Size := ⟨min n limit, Nat.min_le_right n limit⟩

instance : OfNat Size 0 := ⟨⟨0, by decide⟩⟩
instance : Inhabited Size := ⟨0⟩
instance : Repr Size := ⟨fun s n => reprPrec s.bytes n⟩
instance : Add Size := ⟨fun a b => ofNat (a.bytes + b.bytes)⟩

/-- The sum of sizes, or the largest size if it is larger. -/
def sum (sizes : List Size) : Size := sizes.foldr (· + ·) 0

/-- A number of bytes, counted from zero again after the largest size. -/
def wrap (n : Nat) : Size :=
  ⟨n % (limit + 1), Nat.le_of_lt_succ (Nat.mod_lt n (Nat.succ_pos limit))⟩

/-- The sum of sizes, where every step is taken in 64 bits. -/
def total (sizes : List Size) : Size := sizes.foldr (fun s rest => wrap (s.bytes + rest.bytes)) 0

theorem bytes_zero : (0 : Size).bytes = 0 := rfl

theorem bytes_add (a b : Size) : (a + b).bytes = min (a.bytes + b.bytes) limit := rfl

protected theorem add_comm (a b : Size) : a + b = b + a := by
  apply Size.ext; simp only [bytes_add]; omega

protected theorem add_assoc (a b c : Size) : a + b + c = a + (b + c) := by
  apply Size.ext; simp only [bytes_add]; omega

protected theorem add_zero (a : Size) : a + 0 = a := by
  apply Size.ext
  have := a.bytes_le_limit
  simp only [bytes_add, bytes_zero]
  omega

protected theorem zero_add (a : Size) : 0 + a = a := by
  rw [Size.add_comm, Size.add_zero]

end Size

end StorageGateway
