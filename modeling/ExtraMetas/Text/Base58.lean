import ExtraMetas.Bytes

/-!
# ExtraMetas.Text.Base58

The **base-58 text** of a byte string: the number that the bytes spell, most significant first,
in the alphabet without `0`, `O`, `I` and `l`, with one `1` in front for each leading zero byte.
It is the form in which keys stand inside messages.
-/

namespace ExtraMetas.Text.Base58

/-- The 58 digits in order of value. -/
def alphabet : List Char :=
  "123456789ABCDEFGHJKLMNPQRSTUVWXYZabcdefghijkmnopqrstuvwxyz".toList

/-- The digit of value `n`, which is below 58. -/
def digit (n : Nat) : Char :=
  alphabet.getD n '1'

/-- The digits of `n`, most significant first, in front of `tail`; zero has none. -/
def digits (n : Nat) (tail : List Char) : List Char :=
  if n = 0 then tail else digits (n / 58) (digit (n % 58) :: tail)
termination_by n
decreasing_by omega

/-- The base-58 text of `b`. -/
def encode (b : Bytes) : String :=
  let zeros := b.takeWhile (· == 0)
  let number := b.foldl (fun n x => 256 * n + x.toNat) 0
  String.ofList (zeros.map (fun _ => '1') ++ digits number [])

end ExtraMetas.Text.Base58
