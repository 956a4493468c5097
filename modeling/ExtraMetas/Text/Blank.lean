/-!
# ExtraMetas.Text.Blank

**Blank** characters: the white space of Unicode together with the four information separators
U+001C to U+001F. Settings are trimmed of them. The zero-width characters U+200B, U+2060, U+180E
and U+FEFF are not blank.
-/

namespace ExtraMetas.Text

/-- The blank characters, as inclusive ranges of code points. -/
def blankRanges : List (Nat × Nat) :=
  [(0x09, 0x0D), (0x1C, 0x20), (0x85, 0x85), (0xA0, 0xA0), (0x1680, 0x1680), (0x2000, 0x200A),
   (0x2028, 0x2029), (0x202F, 0x202F), (0x205F, 0x205F), (0x3000, 0x3000)]

/-- Is `c` a blank character? -/
def isBlank (c : Char) : Bool :=
  blankRanges.any fun (lo, hi) => lo ≤ c.toNat && c.toNat ≤ hi

/-- What remains of `s` once the characters that satisfy `p` are taken off both ends. -/
def trimEnds (p : Char → Bool) (s : List Char) : List Char :=
  ((s.dropWhile p).reverse.dropWhile p).reverse

/-- `s` without the blank characters at its two ends. -/
def trim (s : List Char) : List Char :=
  trimEnds isBlank s

theorem isBlank_of_isWhitespace {c : Char} (h : c.isWhitespace = true) : isBlank c = true := by
  simp only [Char.isWhitespace, Bool.or_eq_true, decide_eq_true_eq] at h
  rcases h with ((rfl | rfl) | rfl) | rfl <;> decide

end ExtraMetas.Text
