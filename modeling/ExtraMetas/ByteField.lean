import ExtraMetas.Bytes

/-!
# ExtraMetas.ByteField

**Byte fields**: a truth value or a whole number that a caller hands over where one byte is
written. A truth value is written as 0 or 1, a number as itself if it fits.
-/

namespace ExtraMetas

/-- A value meant for one byte. -/
inductive ByteField
  | bool (b : Bool)
  | int (n : Int)
deriving DecidableEq

namespace ByteField

/-- The number that the field stands for. -/
def toInt : ByteField → Int
  | bool b => if b then 1 else 0
  | int n => n

/-- The byte that the field is written as, if there is one. -/
def toByte? (f : ByteField) : Option UInt8 :=
  if 0 ≤ f.toInt ∧ f.toInt ≤ 255 then some (UInt8.ofNat f.toInt.toNat) else none

/-- Does the field count as set? -/
def isSet (f : ByteField) : Bool :=
  f.toInt != 0

/-- The literal of the field in a message. -/
def literal : ByteField → String
  | bool b => if b then "True" else "False"
  | int n => toString n

@[simp] theorem isSet_bool (b : Bool) : (bool b).isSet = b := by
  cases b <;> rfl

@[simp] theorem toByte?_bool (b : Bool) : (bool b).toByte? = some (if b then 1 else 0) := by
  cases b <;> rfl

end ByteField

end ExtraMetas
