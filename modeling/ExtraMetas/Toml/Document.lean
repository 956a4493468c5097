import ExtraMetas.Toml.Token

/-!
# ExtraMetas.Toml.Document

Reading a **TOML document** into its root table: values with their nesting, then statements line by
line. The forms read are tables and arrays of tables, dotted keys, strings on one line or several,
numbers, dates and times, truth values, arrays and inline tables.

Design points:

* A document either has a root table or none; which rule it breaks is not told.
* What may not be written twice is kept as paths (`Marks`). A *declared* table cannot be declared
  again, and a *frozen* value, one that was written as an array or an inline table, cannot be
  extended from outside, nor can anything below it.
-/

namespace ExtraMetas.Toml

/-! ### Comments -/

/-- What is left after the comment in front, if there is one; the line feed is left. -/
def skipComment (s : List Char) : Option (List Char) :=
  match s with
  | '#' :: rest =>
    if (rest.takeWhile (· != '\n')).any isControl then none
    else some (rest.dropWhile (· != '\n'))
  | _ => some s

/-- What is left after spaces, line feeds and at most `fuel` comments. -/
def skipFiller : (fuel : Nat) → (s : List Char) → Option (List Char)
  | 0, s => some s
  | fuel + 1, s =>
    match s.dropWhile (fun c => c = ' ' || c = '\t' || c = '\n') with
    | '#' :: rest => (skipComment ('#' :: rest)).bind (skipFiller fuel)
    | rest => some rest

/-! ### Values -/

/-- Was the value written as an array or an inline table? -/
def Value.isContainer : Value → Bool
  | .array _ | .table _ => true
  | _ => false

/-- Is `path` at or below one of `roots`? -/
def isBelow (roots : List Path) (path : Path) : Bool :=
  roots.any (·.isPrefixOf path)

/-- The last key of a path and the path to its table. -/
def splitLast : Path → Option (Path × String)
  | [] => none
  | [key] => some ([], key)
  | key :: path => (splitLast path).map fun (front, last) => (key :: front, last)

mutual

/-- A value, nested at most `fuel` deep. -/
def value : (fuel : Nat) → Reader Value
  | 0, _ => none
  | _ + 1, '"' :: rest => (text ('"' :: rest)).map fun (s, rest) => (.text s, rest)
  | _ + 1, '\'' :: rest => (text ('\'' :: rest)).map fun (s, rest) => (.text s, rest)
  | _ + 1, 't' :: 'r' :: 'u' :: 'e' :: rest => some (.boolean true, rest)
  | _ + 1, 'f' :: 'a' :: 'l' :: 's' :: 'e' :: rest => some (.boolean false, rest)
  | fuel + 1, '[' :: rest => do
    match ← skipFiller rest.length rest with
    | ']' :: rest => return (.array [], rest)
    | rest =>
      let (items, rest) ← arrayItems fuel rest
      return (.array items, rest)
  | fuel + 1, '\x7b' :: rest =>
    match skipSpaces rest with
    | '\x7d' :: rest => some (.table [], rest)
    | rest => inlineEntries fuel [] [] rest
  | _ + 1, s => momentOrNumber s

/-- At most `fuel` items of an array, from the first of them to the closing bracket. -/
def arrayItems : (fuel : Nat) → Reader (List Value)
  | 0, _ => none
  | fuel + 1, s => do
    let (item, rest) ← value fuel s
    match ← skipFiller rest.length rest with
    | ']' :: rest => return ([item], rest)
    | ',' :: rest =>
      match ← skipFiller rest.length rest with
      | ']' :: rest => return ([item], rest)
      | rest =>
        let (items, rest) ← arrayItems fuel rest
        return (item :: items, rest)
    | _ => none

/-- At most `fuel` more entries of an inline table, up to the closing brace. `t` holds the entries
so far, and `frozen` the paths of those that are containers. -/
def inlineEntries : (fuel : Nat) → (frozen : List Path) → (t : Table) → Reader Value
  | 0, _, _, _ => none
  | fuel + 1, frozen, t, s => do
    let (path, rest) ← key s
    let '=' :: rest := rest | none
    let (v, rest) ← value fuel (skipSpaces rest)
    if isBelow frozen path then none
    let (front, last) ← splitLast path
    let t ← Table.update false (Table.add · last v) front t
    match skipSpaces rest with
    | '\x7d' :: rest => return (.table t, rest)
    | ',' :: rest =>
      inlineEntries fuel (if v.isContainer then path :: frozen else frozen) t (skipSpaces rest)
    | _ => none

end

/-! ### Statements -/

/-- The paths that a document may not write again. -/
structure Marks where
  declared : List Path
  frozen : List Path

/-- What has been read of a document: the root table, the path of the current table, the marks,
and the paths of the tables that dotted keys of the current table went through. -/
structure Builder where
  root : Table
  current : Path
  marks : Marks
  dotted : List Path

/-- The builder of an empty document. -/
def Builder.empty : Builder :=
  ⟨[], [], ⟨[], []⟩, []⟩

namespace Builder

/-- The next header begins: what dotted keys went through counts as declared. -/
def closeTable (d : Builder) : Builder :=
  { d with marks := { d.marks with declared := d.dotted ++ d.marks.declared }, dotted := [] }

/-- A table header. -/
def openTable (path : Path) (d : Builder) : Option Builder :=
  if d.marks.declared.contains path || isBelow d.marks.frozen path then none
  else do
    let root ← Table.update true some path d.root
    return { d with root, current := path,
                    marks := { d.marks with declared := path :: d.marks.declared } }

/-- A header of an array of tables: a new table, below which nothing is marked yet. -/
def openArrayTable (path : Path) (d : Builder) : Option Builder :=
  if isBelow d.marks.frozen path then none
  else do
    let (front, last) ← splitLast path
    let root ← Table.update true (Table.appendTable last) front d.root
    let keep := fun other : Path => !path.isPrefixOf other
    return { d with root, current := path,
                    marks := ⟨path :: d.marks.declared.filter keep, d.marks.frozen.filter keep⟩ }

/-- The paths from `base` to the tables that a dotted key goes through. -/
def through (base : Path) : Path → List Path
  | [] | [_] => []
  | key :: path => (base ++ [key]) :: through (base ++ [key]) path

/-- A key with its value. -/
def addValue (path : Path) (v : Value) (d : Builder) : Option Builder := do
  let steps := through d.current path
  if steps.any d.marks.declared.contains then none
  let (front, last) ← splitLast path
  let parent := d.current ++ front
  if isBelow d.marks.frozen parent then none
  let root ← Table.update true (Table.add · last v) parent d.root
  let frozen := if v.isContainer then (d.current ++ path) :: d.marks.frozen else d.marks.frozen
  return { d with root, marks := { d.marks with frozen }, dotted := steps ++ d.dotted }

end Builder

/-- One statement, from its first character to its last. -/
def statement (d : Builder) : Reader Builder
  | '[' :: '[' :: rest => do
    let (path, rest) ← key (skipSpaces rest)
    let ']' :: ']' :: rest := rest | none
    return (← d.closeTable.openArrayTable path, rest)
  | '[' :: rest => do
    let (path, rest) ← key (skipSpaces rest)
    let ']' :: rest := rest | none
    return (← d.closeTable.openTable path, rest)
  | s => do
    let (path, rest) ← key s
    let '=' :: rest := rest | none
    let (v, rest) ← value (2 * rest.length + 1) (skipSpaces rest)
    return (← d.addValue path v, rest)

/-- At most `fuel` lines, each empty, a comment, or a statement with an optional comment. -/
def statements : (fuel : Nat) → Builder → (s : List Char) → Option Builder
  | 0, _, _ => none
  | fuel + 1, d, s => do
    let (d, rest) ← match skipSpaces s with
      | [] => some (d, [])
      | '\n' :: rest => some (d, '\n' :: rest)
      | '#' :: rest => some (d, '#' :: rest)
      | rest => statement d rest
    match ← skipComment (skipSpaces rest) with
    | [] => return d
    | '\n' :: rest => statements fuel d rest
    | _ => none

/-- The root table of a document. -/
def parse (text : List Char) : Option Table :=
  (statements (text.length + 1) .empty text).map Builder.root

end ExtraMetas.Toml
