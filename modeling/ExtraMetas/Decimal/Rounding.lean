/-!
# ExtraMetas.Decimal.Rounding

**Rounding to the nearest**, with a half going to the even neighbour: of a quotient to a whole
number, of a number to the nearest binary fraction with 53 significant bits (`nearestBinary`), and
of a number to a fixed count of decimal places (`fixed`).
-/

namespace ExtraMetas.Decimal

/-- The whole number nearest to `n / d`; halfway between two, the even one. -/
def roundEven (n d : Nat) : Nat :=
  let q := n / d
  let r := n % d
  if 2 * r < d then q
  else if d < 2 * r then q + 1
  else if q % 2 = 0 then q else q + 1

/-- A rounded quotient is within half a unit of the quotient. -/
theorem roundEven_within (n : Nat) {d : Nat} (hd : 0 < d) :
    2 * n ≤ (2 * roundEven n d + 1) * d ∧ (2 * roundEven n d) * d ≤ 2 * n + d := by
  have hr := Nat.mod_lt n hd
  have hq := Nat.div_add_mod n d
  rw [Nat.mul_comm] at hq
  simp only [roundEven]
  split
  · constructor <;> grind
  · split
    · constructor <;> grind
    · split <;> constructor <;> grind

/-- The numerator and the denominator of `q / base ^ e`, for `q ≥ 0`. -/
def overPower (base : Nat) (q : Rat) (e : Int) : Nat × Nat :=
  if 0 ≤ e then (q.num.toNat, q.den * Nat.pow base e.toNat)
  else (q.num.toNat * Nat.pow base (-e).toNat, q.den)

/-- The exponent of the last of the 53 significant bits of `q`, for `q > 0`; binary fractions go
no finer than `2 ^ -1074`. -/
def lastBit (q : Rat) : Int :=
  let e : Int := q.num.toNat.log2 - q.den.log2 - 52
  let (n, d) := overPower 2 q e
  max (-1074) (if n < d * Nat.pow 2 52 then e - 1 else e)

/-- The binary fraction with 53 significant bits nearest to `q`, for `q > 0`. -/
def nearestPositive (q : Rat) : Rat :=
  let e := lastBit q
  let (n, d) := overPower 2 q e
  let m := roundEven n d
  if 0 ≤ e then ((m * Nat.pow 2 e.toNat : Nat) : Rat) else mkRat m (Nat.pow 2 (-e).toNat)

/-- The binary fraction with 53 significant bits nearest to `q`. The sign stays out of it. -/
def nearestBinary (q : Rat) : Rat :=
  if q.num = 0 then 0
  else if q.num < 0 then -nearestPositive (-q)
  else nearestPositive q

theorem nearestBinary_neg (q : Rat) : nearestBinary (-q) = -nearestBinary q := by
  unfold nearestBinary
  rw [Rat.neg_num, Rat.neg_neg]
  rcases Int.lt_trichotomy q.num 0 with h | h | h
  · rw [if_neg (by omega), if_neg (by omega), if_neg (by omega), if_pos h, Rat.neg_neg]
  · rw [if_pos (by omega), if_pos h]
    rfl
  · rw [if_neg (by omega), if_pos (by omega), if_neg (by omega), if_neg (by omega)]

/-- The text of `q`, for `q ≥ 0`, with exactly `places` places after the point. -/
def fixed (places : Nat) (q : Rat) : String :=
  let count := roundEven (q.num.toNat * Nat.pow 10 places) q.den
  let whole := Nat.toDigits 10 (count / Nat.pow 10 places)
  let part := Nat.toDigits 10 (count % Nat.pow 10 places)
  String.ofList (whole ++ '.' :: List.replicate (places - part.length) '0' ++ part)

end ExtraMetas.Decimal
