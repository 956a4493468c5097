import ExtraMetas.Settings.Basic

/-!
# ExtraMetas.Proofs.Settings.Layers

**What a settings file counts for.** Once the layers are read, each of the two fields is chosen from
them (`Settings.ofLayers`). The settings file is asked first, but only for a value that counts as
set (`Toml.Value.isSet`), and only the type of the value that was chosen is looked at. So a value of
another type than a text is refused if it counts as set. If it does not, it is passed over, and the
layers below decide the field as if the file did not have it (`Settings.load_of_not_text`): a zero,
a `false` and everything empty are not found out.
-/

namespace ExtraMetas

/-- Is the value a text? -/
def Toml.Value.isText : Value → Bool
  | text _ => true
  | _ => false

/-! ### Tables without a field -/

namespace Toml.Table

variable (t : Table) (field : String)

/-- The table without the entries for a field. -/
def without : Table :=
  t.filter (·.1 != field)

theorem lookup_without_self : (t.without field).lookup field = none :=
  lookup_filter_bne_self t field

theorem lookup_without_of_ne {other : String} (h : other ≠ field) :
    (t.without field).lookup other = t.lookup other :=
  lookup_filter_bne_of_ne t h

end Toml.Table

/-- Is something refused for what it says? The other refusals are of a place where there is no
settings file to read. -/
def SettingsError.isOfValue : SettingsError → Bool
  | fileMissing _ | fileRefused .. => false
  | _ => true

namespace Settings

/-! ### Choosing a field -/

section Choice

variable {field : String} {file file' : Toml.Table} {lower : List (Option String)} {v : Toml.Value}

theorem choose_of_not_text (h : file.lookup field = some v) (htext : v.isText = false)
    (hset : v.isSet = true) : choose field file lower = .error (.notText field) := by
  rw [choose, h, Option.filter_some, if_pos hset]
  cases v with
  | text s => simp [Toml.Value.isText] at htext
  | _ => rfl

/-- A table counts for the value that it sets the field to, and for nothing else. -/
theorem choose_congr (h : (file.lookup field).filter Toml.Value.isSet
      = (file'.lookup field).filter Toml.Value.isSet) :
    choose field file lower = choose field file' lower := by
  rw [choose, choose, h]

/-- A value that does not count as set might as well not be there. -/
theorem choose_without (h : file.lookup field = some v) (hset : v.isSet = false)
    (other : String) (lower : List (Option String)) :
    choose other file lower = choose other (file.without field) lower := by
  by_cases hother : other = field
  · subst hother
    refine choose_congr ?_
    rw [h, Toml.Table.lookup_without_self, Option.filter_some, hset]
    rfl
  · exact choose_congr (by rw [Toml.Table.lookup_without_of_ne file field hother])

theorem eq_notText_of_choose {e : SettingsError} (h : choose field file lower = .error e) :
    e = .notText field := by
  unfold choose at h
  split at h
  · cases h
  · cases h
    rfl
  · cases h

end Choice

/-! ### Loading -/

/-- The settings that the layers make together once they are read. -/
def ofLayers (file : Toml.Table) (env cli : Bindings) : Except SettingsError Settings := do
  let url? ← choose "rpc_url" file
    [env.nonEmpty? "EBALTS_RPC_URL", cli.nonEmpty? "json_rpc_url"]
  let commitment? ← choose "commitment" file
    [env.nonEmpty? "EBALTS_COMMITMENT", cli.nonEmpty? "commitment"]
  let commitment ← match commitment? with
    | some s => commitmentOf s
    | none => .ok Settings.default.commitment
  return ⟨(url?.map resolveUrl).getD Settings.default.rpcUrl, commitment⟩

/-- The `[cluster]` table of the settings file, empty if no file is named. -/
def fileTable (files : FileTree) : Option FilePath → Except SettingsError Toml.Table
  | some path => readFile files path
  | none => .ok []

section Loading

variable {files : FileTree} {env : Bindings} {path : FilePath} {file : Toml.Table} {field : String}
  {v : Toml.Value}

/-- The sources are read from the highest to the lowest, and then the fields are chosen. -/
theorem load_eq (path? : Option FilePath) :
    load files env path? = (do
      let file ← fileTable files path?
      let cli ← (CliConfig.load files env).mapError ofCliError
      ofLayers file env cli) := by
  cases path? with
  | none => rfl
  | some path => rfl

/-- A settings file in which a `[cluster]` table was written, and nothing else, gives this table. -/
theorem readFile_of_read {s : String} (hread : files.read path = .ok s.toUTF8.data.toList)
    (hparse : Toml.parse (Text.unifyNewlines s.toList) = some [("cluster", .table file)]) :
    readFile files path = .ok file := by
  rw [readFile, FileTree.readText_of_read hread]
  dsimp only
  rw [hparse]
  rfl

theorem load_of_readFile (hfile : readFile files path = .ok file) :
    load files env (some path) = (do
      let cli ← (CliConfig.load files env).mapError ofCliError
      ofLayers file env cli) := by
  rw [load_eq, fileTable, hfile]
  rfl

/-- A file that sets one of the fields to something else than a text makes no settings. -/
theorem exists_ofLayers_of_not_text (hfield : field = "rpc_url" ∨ field = "commitment")
    (h : file.lookup field = some v) (htext : v.isText = false) (hset : v.isSet = true)
    (cli : Bindings) : ∃ other, ofLayers file env cli = .error (.notText other) := by
  cases hurl : choose "rpc_url" file
      [env.nonEmpty? "EBALTS_RPC_URL", cli.nonEmpty? "json_rpc_url"] with
  | error e =>
      refine ⟨"rpc_url", ?_⟩
      rw [ofLayers, hurl, eq_notText_of_choose hurl]
      rfl
  | ok url? =>
      rcases hfield with rfl | rfl
      · rw [choose_of_not_text h htext hset] at hurl
        cases hurl
      · refine ⟨"commitment", ?_⟩
        rw [ofLayers, hurl, choose_of_not_text h htext hset]
        rfl

/-- A value that does not count as set makes the settings that its absence makes. -/
theorem ofLayers_without (h : file.lookup field = some v) (hset : v.isSet = false)
    (cli : Bindings) : ofLayers file env cli = ofLayers (file.without field) env cli := by
  rw [ofLayers, ofLayers]
  simp only [← choose_without h hset]

/-- **Values of another type.** Where a settings file has something else than a text for one of the
fields, a value that counts as set is refused, whatever the other layers say. One that does not is
passed over: the other layers make the settings that they make where the file does not have it. -/
theorem load_of_not_text (hfile : readFile files path = .ok file)
    (hfield : field = "rpc_url" ∨ field = "commitment") (h : file.lookup field = some v)
    (htext : v.isText = false) :
    (v.isSet = true → ∃ e, load files env (some path) = .error e ∧ e.isOfValue = true) ∧
      (v.isSet = false → load files env (some path) = do
        let cli ← (CliConfig.load files env).mapError ofCliError
        ofLayers (file.without field) env cli) := by
  rw [load_of_readFile hfile]
  constructor
  · intro hset
    cases CliConfig.load files env with
    | error r => exact ⟨ofCliError r, rfl, by cases r <;> rfl⟩
    | ok cli =>
        obtain ⟨other, hother⟩ := exists_ofLayers_of_not_text hfield h htext hset cli
        exact ⟨.notText other, hother, rfl⟩
  · intro hset
    simp only [ofLayers_without h hset]

/-- A port in the place of a URL is refused, and the port 0 is passed over. -/
theorem load_of_not_text_port :
    let files (port : String) : FileTree :=
      { files := [(["s.toml"], ("[cluster]\nrpc_url = " ++ port ++ "\n").toUTF8.data.toList)]
        home := .ofText "/home" }
    (∃ e, load (files "8899") [] (some (.ofText "s.toml")) = .error e ∧ e.isOfValue = true) ∧
      load (files "0") [] (some (.ofText "s.toml")) = ofLayers [] [] [] := by
  intro files
  have hread : ∀ port, (files port).read (.ofText "s.toml")
      = .ok ("[cluster]\nrpc_url = " ++ port ++ "\n").toUTF8.data.toList := fun _ => rfl
  have hport : readFile (files "8899") (.ofText "s.toml") = .ok [("rpc_url", .integer 8899)] :=
    readFile_of_read (hread _) (by decide +kernel)
  have hzero : readFile (files "0") (.ofText "s.toml") = .ok [("rpc_url", .integer 0)] :=
    readFile_of_read (hread _) (by decide +kernel)
  have hcli : CliConfig.load (files "0") [] = .ok [] := rfl
  constructor
  · exact (load_of_not_text hport (.inl rfl) rfl rfl).1 rfl
  · rw [(load_of_not_text hzero (.inl rfl) rfl rfl).2 rfl, hcli]
    rfl

/-- A URL of 0 leaves the default in force, and a level of `false` the one of the environment. -/
theorem load_not_text_passed_over :
    let files (line : String) : FileTree :=
      { files := [(["s.toml"], ("[cluster]\n" ++ line ++ "\n").toUTF8.data.toList)]
        home := .ofText "/home" }
    (readFile (files "rpc_url = 0") (.ofText "s.toml") = .ok [("rpc_url", .integer 0)] ∧
        load (files "rpc_url = 0") [] (some (.ofText "s.toml")) = .ok Settings.default) ∧
      readFile (files "commitment = false") (.ofText "s.toml")
          = .ok [("commitment", .boolean false)] ∧
        load (files "commitment = false") [("EBALTS_COMMITMENT", "finalized")]
            (some (.ofText "s.toml"))
          = .ok { Settings.default with commitment := .finalized } := by
  intro files
  have hread : ∀ line, (files line).read (.ofText "s.toml")
      = .ok ("[cluster]\n" ++ line ++ "\n").toUTF8.data.toList := fun _ => rfl
  have hurl : readFile (files "rpc_url = 0") (.ofText "s.toml")
      = .ok [("rpc_url", .integer 0)] :=
    readFile_of_read (hread _) (by decide +kernel)
  have hlevel : readFile (files "commitment = false") (.ofText "s.toml")
      = .ok [("commitment", .boolean false)] :=
    readFile_of_read (hread _) (by decide +kernel)
  refine ⟨⟨hurl, ?_⟩, hlevel, ?_⟩
  · rw [load_of_readFile hurl]
    rfl
  · rw [load_of_readFile hlevel]
    rfl

end Loading

end Settings

end ExtraMetas
