import ExtraMetas.Pubkey

/-!
# ExtraMetas.Curve

The **curve test** of a key: do its 32 bytes encode a point of the Edwards curve
`-x² + y² = 1 + d x² y²` over the field of `p = 2 ^ 255 - 19` elements?

The bytes hold the coordinate `y` in little-endian order and, in the top bit, the sign of `x`. The
sign decides only which of two roots is meant, so it is masked off; a `y` of `p` or more is taken
modulo `p`. The point exists iff `x² = (y² - 1) / (d y² + 1)` has a root. As `-1/d` is not a
square the denominator is never zero, so that quotient is a square iff the product of its two
parts is, which Euler's criterion decides (`isSquare`).
-/

namespace ExtraMetas.Curve

/-- The number of elements of the field. -/
def p : Nat := Nat.pow 2 255 - 19

/-- The coefficient of the curve, `-121665 / 121666` in the field. -/
def d : Nat := 37095705934669439343138083508754565189542113879843219016388785533085940283555

example : (d * 121666 + 121665) % p = 0 := by decide +kernel

/-- `base ^ exponent` modulo `m`, for an exponent of at most `bits` bits. -/
def powMod (m : Nat) : (bits : Nat) → (base exponent : Nat) → Nat
  | 0, _, _ => 1 % m
  | bits + 1, base, exponent =>
    let rest := powMod m bits (base * base % m) (exponent / 2)
    if exponent % 2 = 1 then base * rest % m else rest

/-- Is `a` a square in the field, zero included? -/
def isSquare (a : Nat) : Bool :=
  powMod p 255 (a % p) ((p - 1) / 2) ≤ 1

/-- The coordinate that 32 bytes encode: the little-endian number without its top bit, in the
field. -/
def coordinate (b : Bytes) : Nat :=
  Bytes.toNatLE b % Nat.pow 2 255 % p

/-- Is there a point of the curve with the coordinate `y`? -/
def hasPoint (y : Nat) : Bool :=
  let yy := y * y % p
  isSquare ((yy + p - 1) * (d * yy + 1))

/-- Does the key encode a point of the curve? -/
def contains (key : Pubkey) : Bool :=
  hasPoint (coordinate key.bytes)

end ExtraMetas.Curve
