/-!
# ExtraMetas.Text.Lines

Cutting a text into **lines**. Reading a file first makes every line ending a line feed
(`unifyNewlines`); the lines of a configuration text end at any of ten characters (`lines`), among
them the form feed, the next-line control and the two Unicode separators.
-/

namespace ExtraMetas.Text

/-- Every carriage return, with the line feed after it if there is one, becomes one line feed. -/
def unifyNewlines : List Char → List Char
  | '\r' :: '\n' :: rest => '\n' :: unifyNewlines rest
  | '\r' :: rest => '\n' :: unifyNewlines rest
  | c :: rest => c :: unifyNewlines rest
  | [] => []

/-- The characters that end a line. -/
def lineBreaks : List Nat :=
  [0x0A, 0x0B, 0x0C, 0x0D, 0x1C, 0x1D, 0x1E, 0x85, 0x2028, 0x2029]

/-- Does `c` end a line? -/
def isLineBreak (c : Char) : Bool :=
  lineBreaks.contains c.toNat

/-- Cut `s` at every line break; `line` is the start of the current line, last character first.
What follows the last break is a line only if it is not empty. -/
def linesFrom (line : List Char) : List Char → List (List Char)
  | '\r' :: '\n' :: rest => line.reverse :: linesFrom [] rest
  | c :: rest =>
    if isLineBreak c then line.reverse :: linesFrom [] rest else linesFrom (c :: line) rest
  | [] => if line.isEmpty then [] else [line.reverse]

/-- The lines of `s`, without the characters that end them. -/
def lines (s : List Char) : List (List Char) :=
  linesFrom [] s

end ExtraMetas.Text
