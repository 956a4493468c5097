import ExtraMetas.Decimal.Shortest

/-!
# ExtraMetas.Decimal.Extended

**Extended numbers**: the rational numbers, and what stands beside them where numbers are kept in a
fixed count of bits. These are a zero with a minus sign, the two infinities, and a value that is no
number.

Numbers are kept with 53 significant bits (`ofRat`), so a number far from zero becomes an infinity
and one close to it a zero of its sign. Sums are exact sums that are rounded once. No order holds
of what is no number.
-/

namespace ExtraMetas

/-- A rational number or what stands beside it. -/
inductive Extended
  | finite (q : Rat)
  /-- A zero that was reached from below. It is zero in every comparison. -/
  | negativeZero
  | infinity (negative : Bool)
  /-- No number. -/
  | undefined
deriving DecidableEq

namespace Extended

/-! ### Keeping a number -/

/-- A rounded number of this size is an infinity. -/
def limit : Rat := (Nat.pow 2 1024 : Nat)

/-- The zero of the given sign. -/
def zero (negative : Bool) : Extended :=
  if negative then negativeZero else finite 0

/-- The number `q` as it is kept. -/
def ofRat (q : Rat) : Extended :=
  let kept := Decimal.nearestBinary q
  if limit ≤ kept then infinity false
  else if kept ≤ -limit then infinity true
  else if kept = 0 then zero (q < 0)
  else finite kept

/-- The number `digits * 10 ^ exponent` of the given sign as it is kept. A number of more than 310
digits is an infinity, and one with 330 zeros behind the point is zero, so their powers of ten are
not looked at. -/
def ofDecimal (negative : Bool) (digits : Nat) (exponent : Int) : Extended :=
  let point : Int := (Nat.toDigits 10 digits).length + exponent
  if digits = 0 ∨ point < -330 then zero negative
  else if 310 < point then infinity negative
  else
    let size : Rat := if 0 ≤ exponent then ((digits * Nat.pow 10 exponent.toNat : Nat) : Rat)
      else mkRat digits (Nat.pow 10 (-exponent).toNat)
    ofRat (if negative then -size else size)

/-- A number as it is kept. -/
def round : Extended → Extended
  | finite q => ofRat q
  | x => x

/-! ### Order -/

/-- The rational number that `x` is, if it is one. -/
def rational? : Extended → Option Rat
  | finite q => some q
  | negativeZero => some 0
  | _ => none

/-- Is `x` zero, of either sign? -/
def isZero (x : Extended) : Bool :=
  x.rational? == some 0

/-- Is `x` an infinity? -/
def isInfinite : Extended → Bool
  | infinity _ => true
  | _ => false

/-- Is `x` below `q`? -/
def below (x : Extended) (q : Rat) : Bool :=
  match x with
  | infinity negative => negative
  | x => x.rational?.any (· < q)

/-- Is `x` above `q`? -/
def above (x : Extended) (q : Rat) : Bool :=
  match x with
  | infinity negative => !negative
  | x => x.rational?.any (q < ·)

/-- Is `x` below zero, or not below `size`? -/
def isOutside (x : Extended) (size : Nat) : Bool :=
  x.below 0 || x.above size || x.rational? == some (size : Rat)

/-! ### Arithmetic -/

/-- The sum of two numbers as it is kept. Two infinities of different signs have none. -/
def add : Extended → Extended → Extended
  | finite p, finite q => ofRat (p + q)
  | undefined, _ | _, undefined => undefined
  | infinity s, infinity t => if s = t then infinity s else undefined
  | infinity s, _ | _, infinity s => infinity s
  | negativeZero, y => y
  | x, negativeZero => x

/-- The exact product with a power of two. -/
def timesTwoTo (x : Extended) (n : Nat) : Extended :=
  match x with
  | finite q => finite (q * 2 ^ n)
  | x => x

/-! ### Text -/

/-- The shortest text that reads back as the kept number `x`. -/
def text : Extended → String
  | finite q => Decimal.textOf q
  | negativeZero => "-0.0"
  | infinity negative => if negative then "-inf" else "inf"
  | undefined => "nan"

/-- The text of the kept number `x` with exactly `places` places after the point. -/
def fixed (places : Nat) : Extended → String
  | finite q => if q < 0 then "-" ++ Decimal.fixed places (-q) else Decimal.fixed places q
  | negativeZero => "-" ++ Decimal.fixed places 0
  | x => x.text

end Extended

end ExtraMetas
