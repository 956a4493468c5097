/-!
# ExtraMetas.Bytes

Byte strings, and the readings that account data is given: little-endian numbers, slices with
signed bounds, and hexadecimal text.

Design points:

* A byte string is a list, so that layouts are concatenations and a parser takes the front off.
* `Bytes.slice` accepts bounds of any sign and size. A negative bound counts from the end, and
  every bound is then moved into the string, so a slice is always a contiguous part of it
  (`slice_eq_take_drop`).
* `Bytes.window?` looks at its upper end only: a window that ends inside the string is a slice,
  whatever its lower end is.
-/

namespace ExtraMetas

/-- A byte string, first byte first. -/
abbrev Bytes := List UInt8

namespace Bytes

/-! ### Little-endian numbers -/

/-- The number whose base-256 digits are `b`, least significant first. -/
def toNatLE : Bytes → Nat
  | [] => 0
  | x :: rest => x.toNat + 256 * toNatLE rest

/-- The `width` low base-256 digits of `n`, least significant first. -/
def ofNatLE : (width : Nat) → (n : Nat) → Bytes
  | 0, _ => []
  | width + 1, n => UInt8.ofNat (n % 256) :: ofNatLE width (n / 256)

@[simp] theorem length_ofNatLE (width n : Nat) : (ofNatLE width n).length = width := by
  induction width generalizing n with
  | zero => rfl
  | succ width ih => simp [ofNatLE, ih]

theorem toNatLE_ofNatLE (width n : Nat) : toNatLE (ofNatLE width n) = n % Nat.pow 256 width := by
  induction width generalizing n with
  | zero => simp [ofNatLE, toNatLE, Nat.mod_one]
  | succ width ih =>
    have h : (UInt8.ofNat (n % 256)).toNat = n % 256 := by simp [UInt8.toNat_ofNat']
    rw [ofNatLE, toNatLE, ih, h, Nat.pow_eq, Nat.pow_eq, Nat.pow_succ', Nat.mod_mul]

theorem ofNatLE_toNatLE (b : Bytes) : ofNatLE b.length (toNatLE b) = b := by
  induction b with
  | nil => rfl
  | cons x rest ih =>
    have hx := x.toNat_lt
    have hlow : (x.toNat + 256 * toNatLE rest) % 256 = x.toNat := by omega
    have hhigh : (x.toNat + 256 * toNatLE rest) / 256 = toNatLE rest := by omega
    rw [List.length_cons, ofNatLE, toNatLE, hlow, hhigh, ih, UInt8.ofNat_toNat]

theorem toNatLE_lt (b : Bytes) : toNatLE b < Nat.pow 256 b.length := by
  induction b with
  | nil => simp [toNatLE]
  | cons x rest ih =>
    have hx := x.toNat_lt
    rw [Nat.pow_eq] at ih
    rw [toNatLE, List.length_cons, Nat.pow_eq, Nat.pow_succ]
    omega

/-! ### Slices -/

/-- Where the bound `i` lies in a string of `size` bytes: a negative bound counts from the end,
and a bound outside the string is moved to the nearer end. -/
def bound (size : Nat) (i : Int) : Nat :=
  if i < 0 then (size + i).toNat else min i.toNat size

theorem bound_le (size : Nat) (i : Int) : bound size i ≤ size := by
  unfold bound
  split <;> omega

theorem bound_of_le {size : Nat} {i : Nat} (h : i ≤ size) : bound size i = i := by
  unfold bound
  split <;> omega

/-- The bytes from `start` up to `stop`, each placed by `bound`; none if they cross. -/
def slice (b : Bytes) (start stop : Int) : Bytes :=
  (b.take (bound b.length stop)).drop (bound b.length start)

theorem slice_eq_take_drop (b : Bytes) {i j : Nat} (hi : i ≤ b.length) (hj : j ≤ b.length) :
    b.slice i j = (b.take j).drop i := by
  rw [slice, bound_of_le hi, bound_of_le hj]

/-- The `length` bytes at `offset`, or nothing when they end beyond the string. -/
def window? (b : Bytes) (offset length : Int) : Option Bytes :=
  if offset + length > b.length then none else some (b.slice offset (offset + length))

/-- The little-endian number in the four bytes at `offset`; fewer bytes make a shorter number. -/
def readU32 (b : Bytes) (offset : Int) : Nat :=
  toNatLE (b.slice offset (offset + 4))

/-! ### Hexadecimal -/

/-- The lower-case hexadecimal digit of `n`, which is below 16. -/
def hexDigit (n : Nat) : Char :=
  "0123456789abcdef".toList.getD n '0'

/-- Two lower-case hexadecimal digits for each byte. -/
def toHex (b : Bytes) : String :=
  String.ofList (b.flatMap fun x => [hexDigit (x.toNat / 16), hexDigit (x.toNat % 16)])

/-- The value of a hexadecimal digit of either case. -/
def hexValue? (c : Char) : Option Nat :=
  if '0' ≤ c ∧ c ≤ '9' then some (c.toNat - '0'.toNat)
  else if 'a' ≤ c ∧ c ≤ 'f' then some (c.toNat - 'a'.toNat + 10)
  else if 'A' ≤ c ∧ c ≤ 'F' then some (c.toNat - 'A'.toNat + 10)
  else none

/-- The bytes `before`, last byte first, followed by those that a text of hexadecimal digit pairs
spells. -/
def ofHexDigits? (before : Bytes) : List Char → Option Bytes
  | [] => some before.reverse
  | [_] => none
  | hi :: lo :: rest =>
    match hexValue? hi, hexValue? lo with
    | some h, some l => ofHexDigits? (UInt8.ofNat (16 * h + l) :: before) rest
    | _, _ => none

/-- The bytes that the hexadecimal text `s` spells. -/
def ofHex? (s : String) : Option Bytes :=
  ofHexDigits? [] s.toList

/-- The bytes of an ASCII text. -/
def ofAscii (s : String) : Bytes :=
  s.toList.map fun c => UInt8.ofNat c.toNat

end Bytes

end ExtraMetas
