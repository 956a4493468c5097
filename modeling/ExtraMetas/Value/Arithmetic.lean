import ExtraMetas.Value.Basic

/-!
# ExtraMetas.Value.Arithmetic

What can be **computed with values of any kind**: order against a whole number, sums, and use as a
position. Numbers behave as numbers, truth values as 0 and 1; everything else is refused with an
`OperandError` that says which kinds met. A whole number may also be too large, for a sum with a
fraction or for being written down.
-/

namespace ExtraMetas

/-- Why an operation does not apply to its operands. -/
inductive OperandError
  /-- `left` and `right` have no order. -/
  | unordered (comparison left right : String)
  /-- `left` and `right` have no sum. -/
  | noSum (left right : String)
  /-- Only its own kind can be put behind a sequence of kind `left`. -/
  | noConcat (left right : String)
  /-- A position in a list is a whole number. -/
  | listPosition (kind : String)
  /-- A bound of a slice is a whole number. -/
  | sliceBound
  /-- A byte is a whole number. -/
  | notInteger (kind : String)
  /-- No number with a fraction is as large as the whole number. -/
  | tooLarge
  /-- The whole number has more digits than are written. -/
  | tooLong
deriving DecidableEq

/-- The most digits of a whole number that is written down. -/
def maxDigits : Nat := 4300

/-- The wording of a refusal. -/
def OperandError.message : OperandError → String
  | unordered comparison left right =>
    "'" ++ comparison ++ "' not supported between instances of '" ++ left ++ "' and '" ++ right
      ++ "'"
  | noSum left right =>
    "unsupported operand type(s) for +: '" ++ left ++ "' and '" ++ right ++ "'"
  | noConcat left right =>
    "can only concatenate " ++ left ++ " (not \"" ++ right ++ "\") to " ++ left
  | listPosition kind => "list indices must be integers or slices, not " ++ kind
  | sliceBound => "slice indices must be integers or None or have an __index__ method"
  | notInteger kind => "'" ++ kind ++ "' object cannot be interpreted as an integer"
  | tooLarge => "int too large to convert to float"
  | tooLong =>
    s!"Exceeds the limit ({maxDigits} digits) for integer string conversion; "
      ++ "use sys.set_int_max_str_digits() to increase the limit"

namespace Value

/-- The number that `v` is, where `comparison` with a whole number asks for one. -/
def comparable (comparison : String) (v : Value) : Except OperandError Extended :=
  match v.number? with
  | some x => .ok x
  | none => .error (.unordered comparison v.kind "int")

/-- Is `v` a whole number that is an infinity where fractions are kept? -/
def isTooLarge (v : Value) : Bool :=
  v.integer?.any fun n => (Extended.ofRat n).isInfinite

/-- The sum of two numbers, or two sequences of one kind put together. Whole numbers have an exact
sum; where a fraction is involved, the summands and the sum are kept as fractions are. -/
def add (a b : Value) : Except OperandError Value :=
  match a, b with
  | .text s, .text t => .ok (.text (s ++ t))
  | .text _, _ => .error (.noConcat a.kind b.kind)
  | .list s, .list t => .ok (.list (s ++ t))
  | .list _, _ => .error (.noConcat a.kind b.kind)
  | _, _ =>
    match a.integer?, b.integer? with
    | some m, some n => .ok (.int (m + n))
    | _, _ =>
      match a.number?, b.number? with
      | some x, some y =>
        if a.isTooLarge || b.isTooLarge then .error .tooLarge
        else .ok (.fraction (x.round.add y.round))
      | _, _ => .error (.noSum a.kind b.kind)

@[simp] theorem add_int (m n : Int) : add (.int m) (.int n) = .ok (.int (m + n)) := rfl

/-- The least number that has too many digits to be written down. -/
def unwritten : Nat := Nat.pow 10 maxDigits

theorem lt_unwritten : 1000000000 < unwritten := by
  decide +kernel

/-- Can `v` be written down? -/
def isWritable : Value → Bool
  | int n => n.natAbs < unwritten
  | _ => true

theorem isWritable_int {n : Int} (h : n.natAbs ≤ 1000000000) : (int n).isWritable = true := by
  simp only [isWritable, decide_eq_true_eq]
  exact Nat.lt_of_le_of_lt h lt_unwritten

end Value

end ExtraMetas
