import ExtraMetas.Bytes
import ExtraMetas.Text.Printable

/-!
# ExtraMetas.Text.Quoted

The **quoted** form in which a text stands inside a message: single quotes, or double quotes when
the text holds a single quote and no double quote; backslashes, the surrounding quote and
characters without a glyph are escaped.
-/

namespace ExtraMetas.Text.Quoted

/-- The quote that surrounds `s`. -/
def quoteFor (s : List Char) : Char :=
  if s.contains '\'' && !s.contains '"' then '"' else '\''

/-- The `width` low hexadecimal digits of `n`, most significant first. -/
def hexDigits : (width : Nat) → (n : Nat) → List Char
  | 0, _ => []
  | width + 1, n => hexDigits width (n / 16) ++ [Bytes.hexDigit (n % 16)]

/-- The characters that stand for `c` between two `quote`s. -/
def escape (quote c : Char) : List Char :=
  if c = quote ∨ c = '\\' then ['\\', c]
  else if c = '\n' then ['\\', 'n']
  else if c = '\r' then ['\\', 'r']
  else if c = '\t' then ['\\', 't']
  else if isPrintable c then [c]
  else if c.toNat < 0x100 then '\\' :: 'x' :: hexDigits 2 c.toNat
  else if c.toNat < 0x10000 then '\\' :: 'u' :: hexDigits 4 c.toNat
  else '\\' :: 'U' :: hexDigits 8 c.toNat

/-- The quoted form of `s`. -/
def encode (s : String) : String :=
  let quote := quoteFor s.toList
  String.ofList (quote :: s.toList.flatMap (escape quote) ++ [quote])

end ExtraMetas.Text.Quoted
