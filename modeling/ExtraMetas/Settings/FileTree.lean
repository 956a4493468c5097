import ExtraMetas.Bytes
import ExtraMetas.Text.Lines

/-!
# ExtraMetas.Settings.FileTree

The **files** that settings are read from, as a process meets them. A place is given by the names of
the directories and the file on the way to it from the root. A path (`FilePath`) is what a text says
of the way: where it starts and the names that follow, of which an empty one and `.` stay in place
and are dropped, and `..` goes up. At the root there is nothing to go up to.

Text is read strictly: bytes that are no UTF-8 are an error of their own, not an unreadable file,
and every line ending is read as a line feed.
-/

namespace ExtraMetas

/-! ### Paths -/

/-- No piece of a text that was cut at `x` holds `x`. -/
theorem notMem_of_mem_splitOn {α : Type} [BEq α] [LawfulBEq α] {x : α} {s piece : List α}
    (h : piece ∈ s.splitOn x) : x ∉ piece := by
  rw [List.splitOn_eq_splitOnP] at h
  induction s generalizing piece with
  | nil =>
      obtain rfl : piece = [] := by simpa [List.splitOnP_nil] using h
      simp
  | cons c s ih =>
      rw [List.splitOnP_cons_eq_if_modifyHead] at h
      by_cases hc : (c == x) = true
      · rw [if_pos hc] at h
        rcases List.mem_cons.1 h with rfl | hmem
        · simp
        · exact ih hmem
      · obtain ⟨first, rest, hs⟩ := List.exists_cons_of_ne_nil (List.splitOnP_ne_nil (· == x) s)
        rw [if_neg hc, hs, List.modifyHead_cons] at h
        rw [hs] at ih
        rcases List.mem_cons.1 h with rfl | hmem
        · have hx : x ≠ c := fun heq => hc (by simp [heq])
          simpa [hx] using ih (List.mem_cons_self ..)
        · exact ih (List.mem_cons_of_mem first hmem)

/-- Where a path starts. -/
inductive FilePath.Anchor
  /-- The directory that the process works in. -/
  | here
  /-- The root. -/
  | root
  /-- The root, written with two slashes. A system may take this for something else, so it is kept
  apart. -/
  | doubleRoot
deriving DecidableEq

/-- A path: where it starts and the names on the way. -/
structure FilePath where
  anchor : FilePath.Anchor
  names : List String
deriving DecidableEq

/-- The text in front of the names. -/
def FilePath.Anchor.text : FilePath.Anchor → String
  | here => ""
  | root => "/"
  | doubleRoot => "//"

/-- Where the path of a text starts. More than two slashes say no more than one. -/
def FilePath.Anchor.ofChars : List Char → FilePath.Anchor
  | '/' :: '/' :: '/' :: _ => root
  | '/' :: '/' :: _ => doubleRoot
  | '/' :: _ => root
  | _ => here

namespace FilePath

/-- Does a name in a text lead on? -/
def leadsOn (name : List Char) : Bool :=
  name != [] && name != ['.']

/-- The names in a text, without those that stay in place. -/
def namesIn (s : List Char) : List String :=
  ((s.splitOn '/').filter leadsOn).map String.ofList

/-- The path that a text names. -/
def ofText (s : String) : FilePath :=
  ⟨.ofChars s.toList, namesIn s.toList⟩

/-- The text of a path. -/
def text (p : FilePath) : String :=
  if p = ⟨.here, []⟩ then "." else p.anchor.text ++ "/".intercalate p.names

/-- The path that goes on with `names`. -/
def join (p : FilePath) (names : List String) : FilePath :=
  { p with names := p.names ++ names }

/-- Does a path hold a name that is none, because of a zero character in it? -/
def hasZero (p : FilePath) : Bool :=
  p.names.any (·.toList.contains '\x00')

/-- A name that a path can go through. -/
structure IsName (name : String) : Prop where
  leadsOn : leadsOn name.toList = true
  slash_notMem : '/' ∉ name.toList

theorem namesIn_slash (s : List Char) : namesIn ('/' :: s) = namesIn s := by
  rfl

theorem isName_of_mem_namesIn {s : List Char} {name : String} (h : name ∈ namesIn s) :
    IsName name := by
  obtain ⟨piece, hpiece, rfl⟩ := List.mem_map.1 h
  obtain ⟨hmem, hleads⟩ := List.mem_filter.1 hpiece
  constructor
  · rwa [String.toList_ofList]
  · rw [String.toList_ofList]
    exact notMem_of_mem_splitOn hmem

/-- The names that were put together with slashes are the names in the text. -/
theorem namesIn_intercalate {names : List String} (h : ∀ name ∈ names, IsName name) :
    namesIn ("/".intercalate names).toList = names := by
  by_cases hnames : names = []
  · subst hnames
    rfl
  · have hsplit : ("/".intercalate names).toList.splitOn '/' = names.map String.toList := by
      rw [String.toList_intercalate]
      refine List.splitOn_intercalate '/' ?_ (by simpa using hnames)
      intro l hl
      obtain ⟨name, hname, rfl⟩ := List.mem_map.1 hl
      exact (h name hname).slash_notMem
    have hkept : (names.map String.toList).filter leadsOn = names.map String.toList := by
      rw [List.filter_eq_self]
      intro l hl
      obtain ⟨name, hname, rfl⟩ := List.mem_map.1 hl
      exact (h name hname).leadsOn
    rw [namesIn, hsplit, hkept, List.map_map]
    simp [Function.comp_def]

/-- The first name on the way does not begin with a slash. -/
theorem head?_intercalate {names : List String} (h : ∀ name ∈ names, IsName name) :
    ("/".intercalate names).toList.head? ≠ some '/' := by
  cases names with
  | nil => simp
  | cons name names =>
      have hname := h name (by simp)
      have hslash := hname.slash_notMem
      obtain ⟨c, rest, hchars⟩ : ∃ c rest, name.toList = c :: rest := by
        refine List.exists_cons_of_ne_nil ?_
        have hleads := hname.leadsOn
        simp only [leadsOn, Bool.and_eq_true, bne_iff_ne] at hleads
        exact hleads.1
      have hc : c ≠ '/' := by
        rintro rfl
        simp [hchars] at hslash
      cases names with
      | nil => simpa [hchars] using hc
      | cons other names => simpa [hchars, List.intercalate] using hc

/-- What stands in front of the names says where a path starts, and holds no name. -/
theorem ofChars_append (anchor : Anchor) {s : List Char} (h : s.head? ≠ some '/') :
    Anchor.ofChars (anchor.text.toList ++ s) = anchor := by
  cases s with
  | nil => cases anchor <;> rfl
  | cons c s =>
      have hc : c ≠ '/' := by simpa using h
      cases anchor with
      | here => simp [Anchor.text, Anchor.ofChars, hc]
      | root => simp [Anchor.text, Anchor.ofChars, hc]
      | doubleRoot => simp [Anchor.text, Anchor.ofChars, hc]

theorem namesIn_append (anchor : Anchor) (s : List Char) :
    namesIn (anchor.text.toList ++ s) = namesIn s := by
  cases anchor with
  | here => rfl
  | root => exact namesIn_slash s
  | doubleRoot => exact (namesIn_slash ('/' :: s)).trans (namesIn_slash s)

/-- A path is the one that its text names. -/
theorem ofText_text {p : FilePath} (h : ∀ name ∈ p.names, IsName name) : ofText p.text = p := by
  by_cases hempty : p = ⟨.here, []⟩
  · subst hempty
    decide
  · rw [text, if_neg hempty, ofText, String.toList_append, ofChars_append _ (head?_intercalate h),
      namesIn_append, namesIn_intercalate h]

/-- What a path keeps of a text names the same path. -/
theorem ofText_text_ofText (s : String) : ofText (ofText s).text = ofText s :=
  ofText_text fun _ hname => isName_of_mem_namesIn hname

end FilePath

/-! ### Files -/

/-- The names on the way from the root to a file or a directory. -/
abbrev Place := List String

/-- The files of a system, and what a process has to find them by. Directories are those named and
those that something lies in. -/
structure FileTree where
  files : List (Place × Bytes)
  directories : List Place := []
  /-- The files that the process is not let read. -/
  denied : List Place := []
  /-- The directory that the process works in. -/
  workingDirectory : Place := []
  /-- The home directory of the user. -/
  home : FilePath

/-- Why a file gives no text. -/
inductive ReadError
  /-- There is nothing to read at that place. -/
  | missing
  /-- The place is a directory. -/
  | directory
  /-- The process is not let read the file. -/
  | denied
  /-- A name on the way is longer than names are. -/
  | nameTooLong
  /-- A name on the way holds a zero character, which no name does. -/
  | zeroInName
  /-- The bytes are no UTF-8. -/
  | encoding
deriving DecidableEq

/-- The wording of an error. -/
def ReadError.message : ReadError → String
  | missing => "[Errno 2] No such file or directory"
  | directory => "[Errno 21] Is a directory"
  | denied => "[Errno 13] Permission denied"
  | nameTooLong => "[Errno 36] File name too long"
  | zeroInName => "embedded null byte"
  | encoding => "the file is no UTF-8 text"

/-- Is it the system that gives no bytes? Bytes that are no text were read, and for a name with a
zero character in it the system is not asked. -/
def ReadError.isOfSystem : ReadError → Bool
  | missing | directory | denied | nameTooLong => true
  | zeroInName | encoding => false

theorem ReadError.isOfSystem_iff {e : ReadError} :
    e.isOfSystem = true ↔ e ≠ .zeroInName ∧ e ≠ .encoding := by
  cases e <;> decide

namespace FileTree

/-- The bytes of the file at a place. -/
def file? (t : FileTree) (p : Place) : Option Bytes :=
  t.files.lookup p

/-- Is there a directory at a place? -/
def isDirectory (t : FileTree) (p : Place) : Bool :=
  p.isEmpty || (t.directories ++ t.files.map Prod.fst).any fun other =>
    p.isPrefixOf other && (p != other || t.directories.contains p)

/-- The most bytes of a name. -/
def maxNameSize : Nat := 255

/-- The place that names lead to from `here`. They lead through directories only. -/
def follow (t : FileTree) : (here : Place) → List String → Except ReadError Place
  | here, [] => .ok here
  | here, name :: rest =>
    if !t.isDirectory here then .error .missing
    else if name == ".." then follow t here.dropLast rest
    else if maxNameSize < name.utf8ByteSize then .error .nameTooLong
    else follow t (here ++ [name]) rest

/-- The place that a path starts from. -/
def start (t : FileTree) : FilePath.Anchor → Place
  | .here => t.workingDirectory
  | .root | .doubleRoot => []

/-- The bytes at the end of a path. -/
def read (t : FileTree) (p : FilePath) : Except ReadError Bytes :=
  if p.hasZero then .error .zeroInName
  else
    match t.follow (t.start p.anchor) p.names with
    | .error e => .error e
    | .ok place =>
      match t.file? place with
      | some b => if t.denied.contains place then .error .denied else .ok b
      | none => if t.isDirectory place then .error .directory else .error .missing

/-- The text of the file at the end of a path. -/
def readText (t : FileTree) (p : FilePath) : Except ReadError (List Char) :=
  match t.read p with
  | .error e => .error e
  | .ok b =>
    match String.fromUTF8? b.toByteArray with
    | some s => .ok (Text.unifyNewlines s.toList)
    | none => .error .encoding

/-- A text that was written to a file is read from it, with its line endings unified. -/
theorem readText_of_read {t : FileTree} {p : FilePath} {s : String}
    (h : t.read p = .ok s.toUTF8.data.toList) :
    t.readText p = .ok (Text.unifyNewlines s.toList) := by
  have hbytes : s.toUTF8.data.toList.toByteArray = s.toUTF8 :=
    ByteArray.ext (by rw [List.data_toByteArray, Array.toArray_toList])
  have htext : String.fromUTF8? s.toUTF8 = some s := by
    rw [String.fromUTF8?, String.toUTF8_eq_toByteArray, dif_pos s.isValidUTF8]
    rfl
  rw [readText, h]
  dsimp only
  rw [hbytes, htext]

end FileTree

end ExtraMetas
