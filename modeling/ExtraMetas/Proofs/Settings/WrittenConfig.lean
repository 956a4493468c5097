import ExtraMetas.Proofs.Settings.ConfigFile
import ExtraMetas.Proofs.Text.Lines
import ExtraMetas.Proofs.Text.Trimming
import Mathlib.Data.List.Nodup

/-!
# ExtraMetas.Proofs.Settings.WrittenConfig

**Writing a configuration** of the command line tools, and reading it back. A document
(`CliConfig.Document`) is made of lines. A line sets a key to a value or says nothing; the blanks
around its parts, the quotes around a value and the break at its end are the writer's choice.

Reading takes a text apart at its line breaks (`CliConfig.said_append_cons`), and each line says
what was written on it (`CliConfig.parseLine_chars`). So the bindings of a written document are its
settings, of which the last for each key counts (`CliConfig.load_document`).
-/

namespace ExtraMetas

/-! ### Bindings -/

namespace Bindings

variable {b : Bindings} {name s : String}

theorem nodup_put (h : (b.map Prod.fst).Nodup) : ((b.put name s).map Prod.fst).Nodup := by
  rw [put, List.map_append, List.map_singleton, ← List.concat_eq_append]
  refine List.Nodup.concat ?_ ((List.filter_sublist.map Prod.fst).nodup h)
  simp

/-- The bindings with the entries put one after the other. -/
def putAll (b : Bindings) (entries : List (String × String)) : Bindings :=
  entries.foldl (fun b entry => b.put entry.1 entry.2) b

/-- Of several texts for a name, the last one is bound to it. -/
theorem lookup_putAll (b : Bindings) (entries : List (String × String)) (name : String) :
    (b.putAll entries).lookup name = (entries.reverse.lookup name).or (b.lookup name) := by
  induction entries generalizing b with
  | nil => simp [putAll]
  | cons entry entries ih =>
      obtain ⟨key, s⟩ := entry
      rw [putAll, List.foldl_cons, ← putAll, ih, List.reverse_cons, List.lookup_append,
        Option.or_assoc]
      by_cases hkey : name = key
      · simp [hkey, lookup_put_self]
      · have hother : (name == key) = false := by simp [hkey]
        rw [lookup_put_of_ne b s hkey, List.lookup_cons, hother, List.lookup_nil, Option.none_or]

theorem nodup_putAll (entries : List (String × String)) (h : (b.map Prod.fst).Nodup) :
    ((b.putAll entries).map Prod.fst).Nodup := by
  induction entries generalizing b with
  | nil => exact h
  | cons entry entries ih => exact ih (nodup_put h)

end Bindings

namespace CliConfig

open Text (IsInLine IsTrimmed isBlank isLineBreak)

/-! ### What stands on a line -/

/-- A text within a line. -/
structure Fragment where
  chars : List Char
  inLine : IsInLine chars

/-- Blanks within a line. -/
structure Blanks extends Fragment where
  blank : ∀ c ∈ chars, isBlank c = true

/-- A text that can be a key. -/
structure Key extends Fragment where
  ne_nil : chars ≠ []
  trimmed : IsTrimmed isBlank chars
  colon_notMem : ':' ∉ chars
  not_comment : chars.head? ≠ some '#'

/-- A text that can be a value. -/
structure Value extends Fragment where
  trimmed : IsTrimmed isBlank chars
  unquoted : IsTrimmed isQuote chars

/-- The quotes around a value, if there are any. -/
inductive Quotes
  | none
  | single
  | double

/-- The value between its quotes. -/
def Quotes.surround : Quotes → List Char → List Char
  | none, s => s
  | single, s => ['\''] ++ s ++ ['\'']
  | double, s => ['"'] ++ s ++ ['"']

/-- A line of a document. -/
inductive Line
  /-- A key, a colon and a value. -/
  | setting (indent : Blanks) (key : Key) (gap : Blanks) (quotes : Quotes) (value : Value)
      (trailing : Blanks)
  | blank (blanks : Blanks)
  | comment (indent : Blanks) (text : Fragment)
  | noColon (text : Fragment) (colon_notMem : ':' ∉ text.chars)

/-- What ends a line. -/
inductive LineBreak
  | char (c : Char) (isLineBreak : isLineBreak c = true)
  /-- A carriage return with a line feed. -/
  | pair

/-- The lines of a document, the last of which has no break at its end. -/
structure Document where
  lines : List (Line × LineBreak)
  last : Line

/-- The characters of a line. -/
def Line.chars : Line → List Char
  | setting indent key gap quotes value trailing =>
    indent.chars ++
      (key.chars ++ ':' :: (gap.chars ++ quotes.surround value.chars ++ trailing.chars))
  | blank blanks => blanks.chars
  | comment indent text => indent.chars ++ '#' :: text.chars
  | noColon text _ => text.chars

/-- The key and the value that a line sets, if it sets one. -/
def Line.setting? : Line → Option (List Char × List Char)
  | setting _ key _ _ value _ => some (key.chars, value.chars)
  | _ => none

/-- The characters of a line break. -/
def LineBreak.chars : LineBreak → List Char
  | char c _ => [c]
  | pair => ['\r', '\n']

/-- The text of a document. -/
def Document.chars (d : Document) : List Char :=
  (d.lines.flatMap fun (line, lineBreak) => line.chars ++ lineBreak.chars) ++ d.last.chars

/-- The settings of a document, in the order in which they are written. -/
def Document.settings (d : Document) : List (String × String) :=
  ((d.lines.map Prod.fst ++ [d.last]).filterMap Line.setting?).map
    fun (key, value) => (String.ofList key, String.ofList value)

/-! ### Reading a line -/

theorem Quotes.isTrimmed_surround (quotes : Quotes) (value : Value) :
    IsTrimmed isBlank (quotes.surround value.chars) := by
  have hquoted : ∀ quote, isBlank quote = false →
      IsTrimmed isBlank ([quote] ++ value.chars ++ [quote]) := by
    intro quote hquote
    constructor
    · intro c hc
      obtain rfl : quote = c := by simpa using hc
      exact hquote
    · intro c hc
      rw [List.getLast?_concat] at hc
      cases hc
      exact hquote
  cases quotes with
  | none => exact value.trimmed
  | single => exact hquoted '\'' (by decide)
  | double => exact hquoted '"' (by decide)

theorem Quotes.trimEnds_surround (quotes : Quotes) (value : Value) :
    Text.trimEnds isQuote (quotes.surround value.chars) = value.chars := by
  have hquoted : ∀ quote, isQuote quote = true →
      Text.trimEnds isQuote ([quote] ++ value.chars ++ [quote]) = value.chars := by
    intro quote hquote
    rw [Text.trimEnds_append_right (by simpa using hquote),
      Text.trimEnds_append_left (by simpa using hquote), value.unquoted.trimEnds_eq]
  cases quotes with
  | none => exact value.unquoted.trimEnds_eq
  | single => exact hquoted '\'' (by decide)
  | double => exact hquoted '"' (by decide)

/-- A line is split at its first colon. -/
theorem parseLine_of_trim {line value : List Char} (key : Key)
    (h : Text.trim line = key.chars ++ ':' :: value) :
    parseLine line = some (key.chars, Text.trimEnds isQuote (Text.trim value)) := by
  have hhead : key.chars.head?.getD ':' ≠ '#' := by
    obtain ⟨c, rest, hchars⟩ := List.exists_cons_of_ne_nil key.ne_nil
    simpa [hchars] using key.not_comment
  have hstays : ∀ c ∈ key.chars, (c != ':') = true := by
    intro c hc
    rw [bne_iff_ne]
    rintro rfl
    exact key.colon_notMem hc
  have htake : (key.chars ++ ':' :: value).takeWhile (· != ':') = key.chars := by
    rw [List.takeWhile_append_of_pos hstays]
    simp
  have hdrop : (key.chars ++ ':' :: value).dropWhile (· != ':') = ':' :: value := by
    rw [List.dropWhile_append_of_pos hstays]
    simp
  have hkey : Text.trim key.chars = key.chars := key.trimmed.trimEnds_eq
  unfold parseLine
  simp [h, hhead, htake, hdrop, hkey, key.ne_nil]

theorem parseLine_of_colon_notMem {line : List Char} (h : ':' ∉ line) : parseLine line = none := by
  have htrim : ':' ∉ Text.trim line := fun hmem => h (Text.mem_of_mem_trimEnds hmem)
  simp [parseLine, htrim]

/-- Each line says what was written on it. -/
theorem parseLine_chars (line : Line) : parseLine line.chars = line.setting? := by
  cases line with
  | setting indent key gap quotes value trailing =>
      have htrim : Text.trim (Line.setting indent key gap quotes value trailing).chars
          = key.chars ++ ':' :: (gap.chars ++ quotes.surround value.chars ++
              trailing.chars).rdropWhile isBlank := by
        rw [Line.chars, Text.trim, Text.trimEnds_append_left indent.blank,
          Text.trimEnds_append_cons key.trimmed (by decide)]
      rw [parseLine_of_trim key htrim, Text.trim, Text.trimEnds_rdropWhile,
        Text.trimEnds_append_right trailing.blank, Text.trimEnds_append_left gap.blank,
        (quotes.isTrimmed_surround value).trimEnds_eq, quotes.trimEnds_surround, Line.setting?]
  | blank blanks =>
      refine parseLine_of_colon_notMem fun hcolon => ?_
      exact absurd (blanks.blank ':' hcolon) (by decide)
  | comment indent text =>
      have htrim : Text.trim (Line.comment indent text).chars
          = '#' :: text.chars.rdropWhile isBlank := by
        rw [Line.chars, Text.trim, Text.trimEnds_append_left indent.blank]
        exact Text.trimEnds_append_cons (s := []) (by decide) (by decide)
      simp [parseLine, htrim, Line.setting?]
  | noColon text colon_notMem => exact parseLine_of_colon_notMem colon_notMem

theorem Quotes.inLine_surround (quotes : Quotes) (value : Value) :
    IsInLine (quotes.surround value.chars) := by
  cases quotes with
  | none => exact value.inLine
  | single => exact (value.inLine.cons (by decide)).append (by decide)
  | double => exact (value.inLine.cons (by decide)).append (by decide)

theorem Line.inLine_chars (line : Line) : IsInLine line.chars := by
  cases line with
  | setting indent key gap quotes value trailing =>
      refine indent.inLine.append (key.inLine.append (.cons (by decide) ?_))
      exact (gap.inLine.append (quotes.inLine_surround value)).append trailing.inLine
  | blank blanks => exact blanks.inLine
  | comment indent text => exact indent.inLine.append (.cons (by decide) text.inLine)
  | noColon text _ => exact text.inLine

/-! ### Reading a document -/

/-- The settings that the lines of a text say. -/
def said (text : List Char) : List (List Char × List Char) :=
  (Text.lines (Text.unifyNewlines text)).filterMap parseLine

theorem parseLine_nil : parseLine [] = none := by
  decide

theorem filterMap_cons_eq_append {α β : Type} (f : α → Option β) (x : α) (xs : List α) :
    (x :: xs).filterMap f = (f x).toList ++ xs.filterMap f := by
  cases h : f x <;> simp [h]

theorem said_of_isInLine {s : List Char} (hs : IsInLine s) : said s = (parseLine s).toList := by
  have hunify : Text.unifyNewlines s = s := by
    have happend : Text.unifyNewlines (s ++ []) = s ++ Text.unifyNewlines [] :=
      Text.unifyNewlines_append hs
    rwa [List.append_nil, Text.unifyNewlines, List.append_nil] at happend
  rw [said, hunify, Text.lines_of_isInLine hs]
  cases s with
  | nil => simp [parseLine_nil]
  | cons c s =>
      rw [if_neg (by simp), filterMap_cons_eq_append, List.filterMap_nil, List.append_nil]

/-- The settings of a text are those of its first line and those of what follows the line break. -/
theorem said_append_cons {s rest : List Char} {c : Char} (hs : IsInLine s)
    (hc : isLineBreak c = true) : said (s ++ c :: rest) = (parseLine s).toList ++ said rest := by
  by_cases hpair : c = '\r' ∧ rest.head? = some '\n'
  · -- the line feed ends the same line, as if it ended an empty one
    obtain ⟨rfl, hrest⟩ := hpair
    obtain ⟨rest, rfl⟩ := List.head?_eq_some_iff.1 hrest
    have hempty : Text.lines (Text.unifyNewlines ('\n' :: rest))
        = [] :: Text.lines (Text.unifyNewlines rest) :=
      Text.lines_unifyNewlines_append (s := []) (by decide) (by decide) (by simp)
    rw [said, said, Text.lines_unifyNewlines_append_pair hs, hempty, filterMap_cons_eq_append,
      filterMap_cons_eq_append, parseLine_nil, Option.toList_none, List.nil_append]
  · rw [said, Text.lines_unifyNewlines_append hs hc fun hreturn hrest => hpair ⟨hreturn, hrest⟩,
      filterMap_cons_eq_append, said]

/-- A line says the same whatever ends it. -/
theorem said_append_chars (line : Line) (lineBreak : LineBreak) (rest : List Char) :
    said (line.chars ++ lineBreak.chars ++ rest) = line.setting?.toList ++ said rest := by
  rw [← parseLine_chars, List.append_assoc]
  cases lineBreak with
  | char c hc => exact said_append_cons line.inLine_chars hc
  | pair =>
      have hfeed : said ('\n' :: rest) = (parseLine []).toList ++ said rest :=
        said_append_cons (s := []) (by decide) (by decide)
      have hreturn : said (line.chars ++ '\r' :: '\n' :: rest)
          = (parseLine line.chars).toList ++ said ('\n' :: rest) :=
        said_append_cons line.inLine_chars (by decide)
      rw [hfeed, parseLine_nil, Option.toList_none, List.nil_append] at hreturn
      exact hreturn

/-- A document says the settings of its lines. -/
theorem said_chars (d : Document) :
    said d.chars = (d.lines.map Prod.fst ++ [d.last]).filterMap Line.setting? := by
  obtain ⟨lines, last⟩ := d
  unfold Document.chars
  induction lines with
  | nil =>
      rw [List.flatMap_nil, List.nil_append, said_of_isInLine last.inLine_chars, parseLine_chars,
        List.map_nil, List.nil_append, filterMap_cons_eq_append, List.filterMap_nil,
        List.append_nil]
  | cons entry lines ih =>
      obtain ⟨line, lineBreak⟩ := entry
      dsimp only at ih ⊢
      rw [List.flatMap_cons, List.append_assoc, said_append_chars, ih, List.map_cons,
        List.cons_append, filterMap_cons_eq_append]

theorem parse_unifyNewlines_chars (d : Document) :
    parse (Text.unifyNewlines d.chars) = Bindings.putAll [] d.settings := by
  rw [Document.settings, Bindings.putAll, List.foldl_map, ← said_chars]
  rfl

/-- **Reading a written configuration.** Whatever document is written to the place of the
configuration, reading it binds each name once, to the value of the last setting for it, and binds
no name that the document does not set. -/
theorem load_document {files : FileTree} {env : Bindings} {p : FilePath} (d : Document)
    (hplace : PlacedAt files.home env p)
    (hread : files.read p = .ok (String.ofList d.chars).toUTF8.data.toList) :
    ∃ b, load files env = .ok b ∧ (b.map Prod.fst).Nodup ∧
      ∀ name, b.lookup name = d.settings.reverse.lookup name := by
  have hload : load files env = .ok (Bindings.putAll [] d.settings) := by
    have htext := FileTree.readText_of_read hread
    rw [load_of_readText_eq_ok hplace htext, String.toList_ofList, parse_unifyNewlines_chars]
  refine ⟨_, hload, Bindings.nodup_putAll d.settings (by simp), ?_⟩
  intro name
  rw [Bindings.lookup_putAll, List.lookup_nil, Option.or_none]

/-- A URL is set twice, with a comment in between that looks like a setting. The second value holds
the characters that divide a line and begin a comment, and the form feed in front of it is blank as
well as a line break. -/
theorem load_document_second_url :
    let noBlanks : Blanks := ⟨⟨[], by decide⟩, List.all_eq_true.1 (by decide)⟩
    let tab : Blanks := ⟨⟨['\t'], by decide⟩, List.all_eq_true.1 (by decide)⟩
    let url : Key := ⟨⟨"url".toList, by decide⟩, by decide, by decide, by decide, by decide⟩
    let first : Value := ⟨⟨"a".toList, by decide⟩, by decide, by decide⟩
    let second : Value := ⟨⟨"b:2#c".toList, by decide⟩, by decide, by decide⟩
    let d : Document :=
      ⟨[(.setting tab url noBlanks .single first tab, .pair),
        (.comment noBlanks ⟨" x: y".toList, by decide⟩, .char '\x0c' (by decide))],
        .setting noBlanks url tab .double second noBlanks⟩
    let files (config : Bytes) : FileTree :=
      { files := [(["c.yml"], config)], home := .ofText "/home" }
    let env : Bindings := [("SOLANA_CONFIG", "./c.yml")]
    d.chars = "\turl:'a'\t\r\n# x: y\x0curl:\t\"b:2#c\"".toList ∧
      ∃ b, load (files (String.ofList d.chars).toUTF8.data.toList) env = .ok b ∧
        b.lookup "url" = some "b:2#c" ∧ b.lookup "# x" = none := by
  intro noBlanks tab url first second d files env
  have hplace : ∀ home, PlacedAt home env (.ofText "./c.yml") := by
    intro home
    exact .first rfl (by decide)
  have hread : ∀ bytes, (files bytes).read (.ofText "./c.yml") = .ok bytes := fun _ => rfl
  obtain ⟨b, hload, -, hlookup⟩ := load_document d (hplace _) (hread _)
  refine ⟨by decide, b, hload, ?_, ?_⟩
  · rw [hlookup]
    decide
  · rw [hlookup]
    decide

end CliConfig

end ExtraMetas
