import StorageGateway.Dict.Basic
import StorageGateway.Text

/-!
# Identifiers

Roles and users are known by numbers of 32 bits. An identifier is read from decimal text with an
optional plus sign and blanks around it.
-/

namespace StorageGateway

/-- Why a text names no 32-bit number. -/
inductive NumberError where
  | empty
  | invalidDigit
  | tooLarge
deriving DecidableEq, Repr

/-- The text shown for a number that cannot be read. -/
def NumberError.message : NumberError → String
  | .empty => "cannot parse integer from empty string"
  | .invalidDigit => "invalid digit found in string"
  | .tooLarge => "number too large to fit in target type"

namespace Number

/-- The digits of a number below `limit`, after digits that made `soFar`. Of two faults the one
further left counts. -/
def readDigits (limit soFar : Nat) : List Char → Except NumberError Nat
  | [] => .ok soFar
  | c :: rest =>
    if !c.isDigit then .error .invalidDigit
    else
      let next := soFar * 10 + (c.toNat - '0'.toNat)
      if next < limit then readDigits limit next rest else .error .tooLarge

/-- A number below `limit`, written in decimal with an optional plus sign. -/
def read (limit : Nat) : List Char → Except NumberError Nat
  | [] => .error .empty
  | ['+'] => .error .invalidDigit
  | '+' :: rest => readDigits limit 0 rest
  | cs => readDigits limit 0 cs

end Number

/-- An id has 32 bits: the numbers that can be told as ids lie below this one. -/
def idLimit : Nat := 0x100000000

/-- The id that is counted after another. The last one is followed by zero. -/
def idAfter (n : Nat) : Nat := (n + 1) % idLimit

/-- The number of a role. -/
structure RoleId where
  val : Nat
deriving DecidableEq, Repr

/-- The number of a user. -/
structure UserId where
  val : Nat
deriving DecidableEq, Repr

namespace RoleId

/-- The role of visitors. -/
def guest : RoleId := ⟨1⟩

/-- The role of the administrator. -/
def admin : RoleId := ⟨2⟩

/-- Read an identifier from text. -/
def parse (text : String) : Except NumberError RoleId :=
  (Number.read idLimit (Text.trim text.toList)).map RoleId.mk

instance : ToString RoleId := ⟨fun id => toString id.val⟩

/-- The identifier for a log. -/
def describe (id : RoleId) : String := s!"RoleId({id.val})"

instance : KeyOrder RoleId := KeyOrder.along RoleId.val fun {a b} h => by
  cases a; cases b; cases h; rfl

end RoleId

namespace UserId

/-- Read an identifier from text. -/
def parse (text : String) : Except NumberError UserId :=
  (Number.read idLimit (Text.trim text.toList)).map UserId.mk

instance : ToString UserId := ⟨fun id => toString id.val⟩

/-- The identifier for a log. -/
def describe (id : UserId) : String := s!"UserId({id.val})"

instance : KeyOrder UserId := KeyOrder.along UserId.val fun {a b} h => by
  cases a; cases b; cases h; rfl

end UserId

end StorageGateway
