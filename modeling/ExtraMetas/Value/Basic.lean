import ExtraMetas.Decimal.Extended
import ExtraMetas.Text.Quoted

/-!
# ExtraMetas.Value.Basic

**Values of any kind.** A ledger may answer with anything, and a caller may put anything into
a field; what a value counts as is decided here, once: the name of its kind, whether it is set
(`isSet`), and the literal that stands for it in a message.
-/

namespace ExtraMetas

/-- A value of any kind. -/
inductive Value
  /-- Nothing. -/
  | null
  /-- A truth value. -/
  | bool (b : Bool)
  /-- A whole number of any size. -/
  | int (n : Int)
  /-- A number written with a fraction, as it is kept. -/
  | fraction (x : Extended)
  /-- A text. -/
  | text (s : String)
  /-- A sequence. -/
  | list (items : List Value)
  /-- Named fields. -/
  | record (fields : List (String × Value))

instance : Inhabited Value := ⟨.null⟩

namespace Value

/-- The name of a value's kind, as messages give it. -/
def kind : Value → String
  | null => "NoneType"
  | bool _ => "bool"
  | int _ => "int"
  | fraction _ => "float"
  | text _ => "str"
  | list _ => "list"
  | record _ => "dict"

/-- Does a value count as set? Nothing, zero and everything empty do not. -/
def isSet : Value → Bool
  | null => false
  | bool b => b
  | int n => n != 0
  | fraction x => !x.isZero
  | text s => !s.isEmpty
  | list items => !items.isEmpty
  | record fields => !fields.isEmpty

/-- The whole number that a value is, where a truth value is 0 or 1. -/
def integer? : Value → Option Int
  | int n => some n
  | bool b => some (if b then 1 else 0)
  | _ => none

/-- The number that a value is, whole or not. -/
def number? : Value → Option Extended
  | fraction x => some x
  | v => v.integer?.map fun n => .finite n

mutual

/-- The literal that stands for a value in a message. -/
def literal : Value → String
  | null => "None"
  | bool b => if b then "True" else "False"
  | int n => toString n
  | fraction x => x.text
  | text s => Text.Quoted.encode s
  | list items => "[" ++ ", ".intercalate (itemLiterals items) ++ "]"
  | record fields => "\x7b" ++ ", ".intercalate (fieldLiterals fields) ++ "\x7d"

/-- The literals of the items of a list. -/
def itemLiterals : List Value → List String
  | [] => []
  | v :: rest => v.literal :: itemLiterals rest

/-- The literals of the fields of a record, each `name: value`. -/
def fieldLiterals : List (String × Value) → List String
  | [] => []
  | (name, v) :: rest => (Text.Quoted.encode name ++ ": " ++ v.literal) :: fieldLiterals rest

end

@[simp] theorem integer?_int (n : Int) : (int n).integer? = some n := rfl

end Value

end ExtraMetas
