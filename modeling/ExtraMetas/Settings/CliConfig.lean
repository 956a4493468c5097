import ExtraMetas.Settings.FileTree
import ExtraMetas.Text.Blank

/-!
# ExtraMetas.Settings.CliConfig

The **configuration of the command line tools**: lines of a key, a colon and a value, of which the
last line for a key counts. A value may stand between quotes. Empty lines, lines that start with
`#`, lines without a colon and lines without a key say nothing.

The file is the one that the environment names, or else the one in its usual place below the home
directory. A file that the system does not give says nothing either; only bytes that are no text and
a path that the system is not asked for are errors.
-/

namespace ExtraMetas

/-- Nothing is bound to a name whose entries were dropped. -/
theorem lookup_filter_bne_self {α : Type} (entries : List (String × α)) (name : String) :
    (entries.filter (·.1 != name)).lookup name = none := by
  rw [List.lookup_eq_none_iff]
  intro entry hentry
  have hother := (List.mem_filter.1 hentry).2
  rw [bne_iff_ne] at hother
  simpa using Ne.symm hother

/-- What is bound to another name stays. -/
theorem lookup_filter_bne_of_ne {α : Type} (entries : List (String × α)) {name other : String}
    (h : other ≠ name) : (entries.filter (·.1 != name)).lookup other = entries.lookup other := by
  induction entries with
  | nil => rfl
  | cons entry entries ih =>
      obtain ⟨key, v⟩ := entry
      by_cases hkey : key = name
      · have hskip : (other == key) = false := by simp [hkey, h]
        rw [List.filter_cons_of_neg (by simp [hkey]), ih, List.lookup_cons, hskip]
      · rw [List.filter_cons_of_pos (by simp [hkey]), List.lookup_cons, List.lookup_cons, ih]

/-- Names with texts, each name once. -/
abbrev Bindings := List (String × String)

namespace Bindings

/-- The bindings with `name` bound to `s`. -/
def put (b : Bindings) (name s : String) : Bindings :=
  b.filter (·.1 != name) ++ [(name, s)]

/-- The text bound to `name`, unless it is empty. -/
def nonEmpty? (b : Bindings) (name : String) : Option String :=
  (b.lookup name).filter (· != "")

theorem lookup_put_self (b : Bindings) (name s : String) : (b.put name s).lookup name = some s := by
  simp [put, List.lookup_append, lookup_filter_bne_self]

theorem lookup_put_of_ne (b : Bindings) {name other : String} (s : String) (h : other ≠ name) :
    (b.put name s).lookup other = b.lookup other := by
  have hother : (other == name) = false := by simp [h]
  have hnew : List.lookup other [(name, s)] = none := by
    rw [List.lookup_cons, hother, List.lookup_nil]
  rw [put, List.lookup_append, lookup_filter_bne_of_ne b h, hnew, Option.or_none]

end Bindings

namespace CliConfig

/-- Is `c` a quote that may surround a value? -/
def isQuote (c : Char) : Bool :=
  c = '"' || c = '\''

/-- The key and the value of a line, if it has them. -/
def parseLine (line : List Char) : Option (List Char × List Char) :=
  let line := Text.trim line
  if line.head? = some '#' || !line.contains ':' then none
  else
    let key := Text.trim (line.takeWhile (· != ':'))
    let value := (line.dropWhile (· != ':')).drop 1
    if key.isEmpty then none
    else some (key, Text.trimEnds isQuote (Text.trim value))

/-- The bindings of a configuration text. -/
def parse (text : List Char) : Bindings :=
  ((Text.lines text).filterMap parseLine).foldl
    (fun b (key, value) => b.put (String.ofList key) (String.ofList value)) []

/-- The text that names the file, if the environment has one. -/
def chosen? (env : Bindings) : Option String :=
  (env.nonEmpty? "SOLANA_CONFIG").or (env.nonEmpty? "SOLANA_CONFIG_FILE")

/-- The usual path of the file. -/
def defaultPath (home : FilePath) : FilePath :=
  home.join [".config", "solana", "cli", "config.yml"]

/-- The path of the file. -/
def path (home : FilePath) (env : Bindings) : FilePath :=
  match chosen? env with
  | some s => .ofText s
  | none => defaultPath home

/-- The bindings of the configuration file. -/
def load (files : FileTree) (env : Bindings) : Except ReadError Bindings :=
  match files.readText (path files.home env) with
  | .ok text => .ok (parse text)
  | .error e => if e.isOfSystem then .ok [] else .error e

end CliConfig

end ExtraMetas
