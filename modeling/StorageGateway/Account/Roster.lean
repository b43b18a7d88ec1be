import StorageGateway.Account.Id

/-!
# Numbered records

A `Roster` keeps records by number and gives a number to each new one. Numbers are counted without
end or with 32 bits. Without end a number is given once: the next number lies above every number
that was ever taken. A count of 32 bits comes round to zero after its last number, and then gives
numbers again that are in use.
-/

namespace StorageGateway

/-- Records by number. -/
structure Roster (ρ : Type) where
  records : Dict Nat ρ
  /-- The number for the next record that comes without one. -/
  next : Nat
deriving DecidableEq

namespace Roster

variable {ρ : Type}

/-- The roster without records whose first number is `first`. -/
def new (first : Nat) : Roster ρ := ⟨Dict.empty, first⟩

/-- The record of a number. -/
def get? (r : Roster ρ) (n : Nat) : Option ρ := r.records.find? n

/-- The first record that passes a test, with its number. -/
def find? (r : Roster ρ) (test : ρ → Bool) : Option (Nat × ρ) :=
  r.records.entries.find? fun e => test e.2

/-- The number of a record that asks for `wanted`, where zero asks for a new number. -/
def number (r : Roster ρ) (wanted : Nat) : Nat := if wanted = 0 then r.next else wanted

/-- The roster after a number was taken, where numbers are counted without end. -/
def take (r : Roster ρ) (n : Nat) : Roster ρ := { r with next := max r.next (n + 1) }

/-- The roster after `wanted` was asked for, where numbers are counted with 32 bits. A new number
moves the count on, even past its end; a number that comes along never moves it back. -/
def takeId (r : Roster ρ) (wanted : Nat) : Roster ρ :=
  { r with next := if wanted = 0 then idAfter r.next else max r.next (idAfter wanted) }

/-- Whether a record of another number passes a test. -/
def isElsewhere (r : Roster ρ) (n : Nat) (test : ρ → Bool) : Bool :=
  r.records.entries.any fun e => e.1 != n && test e.2

/-- The roster with a record under a number. -/
def put (r : Roster ρ) (n : Nat) (record : ρ) : Roster ρ :=
  { r with records := r.records.insert n record }

/-- The roster with the record of a number changed, if there is one. -/
def adjust (r : Roster ρ) (n : Nat) (f : ρ → ρ) : Roster ρ :=
  match r.get? n with
  | some record => r.put n (f record)
  | none => r

/-- The roster without the record of a number. -/
def erase (r : Roster ρ) (n : Nat) : Roster ρ := { r with records := r.records.erase n }

end Roster

end StorageGateway
