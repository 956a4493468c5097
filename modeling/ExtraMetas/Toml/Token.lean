import ExtraMetas.Bytes
import ExtraMetas.Toml.Value

/-!
# ExtraMetas.Toml.Token

The **tokens of a TOML document** that are not punctuation: strings, keys, numbers and times. Every
reader takes the characters from where the token starts and answers with what it read and what is
left, or with nothing if no such token starts there.
-/

namespace ExtraMetas.Toml

/-- A reader of tokens with values in `α`. -/
abbrev Reader (α : Type) := List Char → Option (α × List Char)

/-- What is left after the spaces and tabs in front. -/
def skipSpaces (s : List Char) : List Char :=
  s.dropWhile fun c => c = ' ' || c = '\t'

/-- May `c` not stand in a string or a comment? All ASCII controls but the tab. -/
def isControl (c : Char) : Bool :=
  (c.toNat < 0x20 && c != '\t') || c.toNat = 0x7F

/-! ### Strings -/

/-- The character that an escape of hexadecimal digits stands for, if it is one. -/
def scalar? (digits : List Char) : Option Char := do
  let values ← digits.mapM Bytes.hexValue?
  let n := values.foldl (fun n d => 16 * n + d) 0
  if n.isValidChar then some (Char.ofNat n) else none

/-- The character that an escape of one letter stands for. -/
def escape? : Char → Option Char
  | 'b' => some '\x08'
  | 't' => some '\t'
  | 'n' => some '\n'
  | 'f' => some '\x0c'
  | 'r' => some '\r'
  | '"' => some '"'
  | '\\' => some '\\'
  | _ => none

/-- Put a character in front of what a reader read. -/
def consChar (c : Char) : Option (List Char × List Char) → Option (List Char × List Char) :=
  Option.map fun (s, rest) => (c :: s, rest)

/-- A basic string after its opening quote. -/
def basicString : Reader (List Char)
  | '"' :: rest => some ([], rest)
  | '\\' :: 'u' :: a :: b :: c :: d :: rest =>
    (scalar? [a, b, c, d]).bind fun x => consChar x (basicString rest)
  | '\\' :: 'U' :: a :: b :: c :: d :: e :: f :: g :: h :: rest =>
    (scalar? [a, b, c, d, e, f, g, h]).bind fun x => consChar x (basicString rest)
  | '\\' :: c :: rest => (escape? c).bind fun x => consChar x (basicString rest)
  | c :: rest => if isControl c || c = '\\' then none else consChar c (basicString rest)
  | [] => none

/-- A literal string after its opening quote. -/
def literalString : Reader (List Char)
  | '\'' :: rest => some ([], rest)
  | c :: rest => if isControl c then none else consChar c (literalString rest)
  | [] => none

/-- The quotes that belong to a string of several lines although they stand behind the three that
end it, which are at most two. -/
def extraQuotes (quote : Char) (s : List Char) : List Char × List Char :=
  let quotes := (s.take 2).takeWhile (· = quote)
  (quotes, s.drop quotes.length)

/-- A basic string of several lines after its opening quotes. A backslash at the end of a line takes
all blanks and line feeds behind it away (`trimming`). -/
def basicBlock : (trimming : Bool) → Reader (List Char)
  | _, '"' :: '"' :: '"' :: rest => some (extraQuotes '"' rest)
  | _, '\\' :: 'u' :: a :: b :: c :: d :: rest =>
    (scalar? [a, b, c, d]).bind fun x => consChar x (basicBlock false rest)
  | _, '\\' :: 'U' :: a :: b :: c :: d :: e :: f :: g :: h :: rest =>
    (scalar? [a, b, c, d, e, f, g, h]).bind fun x => consChar x (basicBlock false rest)
  | _, '\\' :: c :: rest =>
    if (skipSpaces (c :: rest)).head? = some '\n' then basicBlock true (c :: rest)
    else (escape? c).bind fun x => consChar x (basicBlock false rest)
  | trimming, c :: rest =>
    if trimming && (c = ' ' || c = '\t' || c = '\n') then basicBlock true rest
    else if (isControl c && c != '\n') || c = '\\' then none
    else consChar c (basicBlock false rest)
  | _, [] => none

/-- A literal string of several lines after its opening quotes. -/
def literalBlock : Reader (List Char)
  | '\'' :: '\'' :: '\'' :: rest => some (extraQuotes '\'' rest)
  | c :: rest => if isControl c && c != '\n' then none else consChar c (literalBlock rest)
  | [] => none

/-- A string of one line, of either kind. -/
def string : Reader String
  | '"' :: rest => (basicString rest).map fun (s, rest) => (String.ofList s, rest)
  | '\'' :: rest => (literalString rest).map fun (s, rest) => (String.ofList s, rest)
  | _ => none

/-- What is left after the line feed in front, if there is one. -/
def skipLineFeed : List Char → List Char
  | '\n' :: rest => rest
  | s => s

/-- A string of one line or of several, of either kind. -/
def text : Reader String
  | '"' :: '"' :: '"' :: rest =>
    (basicBlock false (skipLineFeed rest)).map fun (s, rest) => (String.ofList s, rest)
  | '\'' :: '\'' :: '\'' :: rest =>
    (literalBlock (skipLineFeed rest)).map fun (s, rest) => (String.ofList s, rest)
  | s => string s

/-! ### Keys -/

/-- May `c` stand in a bare key? -/
def isBareKeyChar (c : Char) : Bool :=
  c.isAlphanum || c = '-' || c = '_'

/-- One part of a key, bare or quoted. -/
def keyPart : Reader String := fun s =>
  match s.takeWhile isBareKeyChar with
  | [] => string s
  | name => some (String.ofList name, s.drop name.length)

/-- At most `fuel` parts of a key, with points between them and spaces around. -/
def keyParts : (fuel : Nat) → Reader Path
  | 0, _ => none
  | fuel + 1, s => do
    let (part, rest) ← keyPart s
    match skipSpaces rest with
    | '.' :: rest =>
      let (parts, rest) ← keyParts fuel (skipSpaces rest)
      return (part :: parts, rest)
    | rest => return ([part], rest)

/-- A dotted key, and the spaces after it. -/
def key : Reader Path := fun s =>
  keyParts (s.length + 1) s

/-! ### Numbers -/

/-- What follows the first digit of a number: digits that satisfy `p`, with at most one underscore
between two of them. -/
def digitsAfter (p : Char → Bool) : List Char → List Char × List Char
  | '_' :: c :: rest =>
    if p c then
      let (ds, rest) := digitsAfter p rest
      (c :: ds, rest)
    else ([], '_' :: c :: rest)
  | c :: rest =>
    if p c then
      let (ds, rest) := digitsAfter p rest
      (c :: ds, rest)
    else ([], c :: rest)
  | [] => ([], [])

/-- A run of digits that satisfy `p`. -/
def digits (p : Char → Bool) : Reader (List Char)
  | c :: rest =>
    if p c then
      let (ds, rest) := digitsAfter p rest
      some (c :: ds, rest)
    else none
  | [] => none

/-- The number that digits spell in a base. -/
def numeral (base : Nat) (ds : List Char) : Nat :=
  ds.foldl (fun n c => base * n + (Bytes.hexValue? c).getD 0) 0

/-- A whole number in the base that a letter after its leading zero names. -/
def basedInteger : Reader Value
  | '0' :: letter :: rest => do
    let base ← match letter with
      | 'x' => some 16
      | 'o' => some 8
      | 'b' => some 2
      | _ => none
    let (ds, rest) ← digits (fun c => (Bytes.hexValue? c).any (· < base)) rest
    return (.integer (numeral base ds), rest)
  | _ => none

/-- The fraction of a number, if it has one. -/
def fraction (s : List Char) : Option (List Char) × List Char :=
  match s with
  | '.' :: rest =>
    match digits Char.isDigit rest with
    | some (ds, rest) => (some ds, rest)
    | none => (none, s)
  | _ => (none, s)

/-- The exponent of a number, if it has one. -/
def exponent : Reader Int
  | c :: rest =>
    if c = 'e' || c = 'E' then
      match rest with
      | '+' :: rest => size rest
      | '-' :: rest => (size rest).map fun (n, rest) => (-n, rest)
      | _ => size rest
    else none
  | [] => none
where
  /-- The exponent without its sign. -/
  size (s : List Char) : Option (Int × List Char) :=
    (digits Char.isDigit s).map fun (ds, rest) => (numeral 10 ds, rest)

/-- The whole part of a decimal number: zero, or digits that start with another. -/
def wholePart : Reader (List Char)
  | '0' :: rest => some (['0'], rest)
  | s => digits Char.isDigit s

/-- A decimal number without its sign. -/
def unsignedNumber (negative : Bool) : Reader Value
  | 'i' :: 'n' :: 'f' :: rest => some (.float (.infinity negative), rest)
  | 'n' :: 'a' :: 'n' :: rest => some (.float .undefined, rest)
  | s => do
    let (whole, afterWhole) ← wholePart s
    let (part?, afterPart) := fraction afterWhole
    match part?, exponent afterPart with
    | none, none =>
      let n : Int := numeral 10 whole
      return (.integer (if negative then -n else n), afterPart)
    | _, exponent? =>
      let part := part?.getD []
      let (e, rest) := exponent?.getD (0, afterPart)
      return (.float (.ofDecimal negative (numeral 10 (whole ++ part)) (e - part.length)), rest)

/-- A number. -/
def number : Reader Value := fun s =>
  (basedInteger s).or (match s with
    | '+' :: rest => unsignedNumber false rest
    | '-' :: rest => unsignedNumber true rest
    | _ => unsignedNumber false s)

/-! ### Dates and times -/

/-- Two digits that spell a number from `least` to `most`. -/
def twoDigits (least most : Nat) : Reader Nat
  | tens :: ones :: rest =>
    let n := numeral 10 [tens, ones]
    if tens.isDigit && ones.isDigit && least ≤ n && n ≤ most then some (n, rest) else none
  | _ => none

/-- A year of four digits, a month and a day, with dashes between them. Every month is taken to have
31 days. -/
def date : Reader (Nat × Nat × Nat) := fun s => do
  let year := s.take 4
  if year.length < 4 || !year.all Char.isDigit then none
  let '-' :: rest := s.drop 4 | none
  let (month, rest) ← twoDigits 1 12 rest
  let '-' :: rest := rest | none
  let (day, rest) ← twoDigits 1 31 rest
  return ((numeral 10 year, month, day), rest)

/-- The days of a month. -/
def daysIn (year month : Nat) : Nat :=
  if month = 2 then
    if year % 4 = 0 && (year % 100 != 0 || year % 400 = 0) then 29 else 28
  else if [4, 6, 9, 11].contains month then 30
  else 31

/-- Is there such a day? There is no year 0. -/
def isDay (year month day : Nat) : Bool :=
  year != 0 && day ≤ daysIn year month

/-- Hours and minutes with a colon between them. -/
def hourMinute : Reader (Nat × Nat) := fun s => do
  let (hour, rest) ← twoDigits 0 23 s
  let ':' :: rest := rest | none
  let (minute, rest) ← twoDigits 0 59 rest
  return ((hour, minute), rest)

/-- What is left after a time of day in front. The seconds may have a fraction. -/
def skipTime (s : List Char) : Option (List Char) := do
  let (_, rest) ← hourMinute s
  let ':' :: rest := rest | none
  let (_, rest) ← twoDigits 0 59 rest
  return match rest with
    | '.' :: digit :: more => if digit.isDigit then more.dropWhile Char.isDigit else rest
    | _ => rest

/-- What is left after the offset of a time in front, if there is one. -/
def skipOffset (s : List Char) : List Char :=
  match s with
  | 'Z' :: rest | 'z' :: rest => rest
  | '+' :: rest | '-' :: rest => ((hourMinute rest).map Prod.snd).getD s
  | _ => s

/-- What is left after the time of day behind a date, if there is one. -/
def skipTimeOfDate (s : List Char) : List Char :=
  match s with
  | 'T' :: rest | 't' :: rest | ' ' :: rest => ((skipTime rest).map skipOffset).getD s
  | _ => s

/-- A date, a time, or a number. What looks like a date has to be one. -/
def momentOrNumber : Reader Value := fun s =>
  match date s with
  | some ((year, month, day), rest) =>
    if isDay year month day then some (.moment, skipTimeOfDate rest) else none
  | none =>
    match skipTime s with
    | some rest => some (.moment, rest)
    | none => number s

end ExtraMetas.Toml
