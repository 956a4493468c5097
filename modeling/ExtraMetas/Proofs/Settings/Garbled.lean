import ExtraMetas.Proofs.Settings.Precedence

/-!
# ExtraMetas.Proofs.Settings.Garbled

A configuration of the command line tools that **decides nothing**. It is read before any field is
chosen. If the settings file and the environment set both fields, nothing that it says matters, nor
does it matter whether there is such a file (`Settings.load_of_not_garbled`). But bytes that are no
text end the loading all the same, so a file that nobody needs can be in the way
(`Settings.load_eq_iff_garbled`).
-/

namespace ExtraMetas

/-! ### Reading the configuration -/

theorem FileTree.follow_ne_zeroInName (files : FileTree) (here : Place) (names : List String) :
    files.follow here names ≠ .error .zeroInName := by
  fun_induction follow files here names <;> simp_all

/-- Whether a path can be asked for does not depend on the files. -/
theorem FileTree.readText_eq_zeroInName_iff {files : FileTree} {p : FilePath} :
    files.readText p = .error .zeroInName ↔ p.hasZero = true := by
  rw [readText, read]
  by_cases hzero : p.hasZero = true
  · simp [hzero]
  · have hfollow := files.follow_ne_zeroInName (files.start p.anchor) p.names
    grind

namespace CliConfig

variable {files : FileTree} {env : Bindings}

/-- There are bytes at the place of the configuration, and they are no text. -/
def IsGarbled (files : FileTree) (env : Bindings) : Prop :=
  ∃ p, PlacedAt files.home env p ∧ files.readText p = .error .encoding

theorem isGarbled_iff {p : FilePath} (hplace : PlacedAt files.home env p) :
    IsGarbled files env ↔ files.readText p = .error .encoding := by
  obtain rfl := hplace.eq_path
  simp [IsGarbled, placedAt_iff]

/-- Is the path of the configuration one that cannot be asked for? -/
def hasNoPlace (home : FilePath) (env : Bindings) : Bool :=
  (path home env).hasZero

theorem load_of_isGarbled (h : IsGarbled files env) : load files env = .error .encoding := by
  obtain ⟨p, hplace, hread⟩ := h
  exact load_of_readText_eq_error hplace hread

theorem load_of_hasNoPlace (h : hasNoPlace files.home env = true) :
    load files env = .error .zeroInName :=
  load_of_readText_eq_error (placedAt_path ..) (FileTree.readText_eq_zeroInName_iff.2 h)

/-- In every other case the configuration says something, if only nothing. -/
theorem exists_load (hgarbled : ¬ IsGarbled files env)
    (hplace : hasNoPlace files.home env = false) : ∃ cli, load files env = .ok cli := by
  have hpath := placedAt_path files.home env
  cases hread : files.readText (path files.home env) with
  | ok s => exact ⟨parse s, load_of_readText_eq_ok hpath hread⟩
  | error e =>
      have hname : e ≠ .zeroInName := by
        intro hname
        subst hname
        have hzero := FileTree.readText_eq_zeroInName_iff.1 hread
        simp [hasNoPlace, hzero] at hplace
      have htext : e ≠ .encoding := by
        intro htext
        subst htext
        exact hgarbled ⟨_, hpath, hread⟩
      exact ⟨[], load_eq_ok_iff.2 (.absent hpath hread hname htext)⟩

end CliConfig

namespace Settings

variable {files files' : FileTree} {env : Bindings} {path? : Option FilePath} {file : Toml.Table}

/-- The settings file or the environment sets the field to a text. -/
def SetAboveCli (file : Toml.Table) (env : Bindings) (f : Field) : Prop :=
  ∃ s, s ≠ "" ∧ (file.lookup f.fileKey = some (.text s) ∨ env.lookup f.envName = some s)

/-- A field that is set above the configuration of the command line tools is chosen without it. -/
theorem SetAboveCli.choose_eq {f : Field} (h : SetAboveCli file env f)
    (cli? cli'? : Option String) :
    choose f.fileKey file [env.nonEmpty? f.envName, cli?]
      = choose f.fileKey file [env.nonEmpty? f.envName, cli'?] := by
  obtain ⟨s, hs, hfile | henv⟩ := h
  · have hset : (Toml.Value.text s).isSet = true := by simp [Toml.Value.isSet, hs]
    rw [choose, choose, hfile, Option.filter_some, if_pos hset]
  · have hnonEmpty : env.nonEmpty? f.envName = some s :=
      Bindings.nonEmpty?_eq_some_iff.2 ⟨henv, hs⟩
    rw [choose, choose, hnonEmpty]
    rfl

theorem ofLayers_eq_of_setAboveCli (h : ∀ f, SetAboveCli file env f) (cli cli' : Bindings) :
    ofLayers file env cli = ofLayers file env cli' := by
  have hurl := (h .rpcUrl).choose_eq (cli.nonEmpty? "json_rpc_url")
    (cli'.nonEmpty? "json_rpc_url")
  have hlevel := (h .commitment).choose_eq (cli.nonEmpty? "commitment")
    (cli'.nonEmpty? "commitment")
  simp only [Field.fileKey, Field.envName] at hurl hlevel
  rw [ofLayers, ofLayers, hurl, hlevel]

/-- No choice of fields ends in the error of a garbled file. -/
theorem ofLayers_ne_encoding (cli : Bindings) : ofLayers file env cli ≠ .error .encoding := by
  rcases Sources.ofLayers_eq_or ⟨file, env, cli⟩ with heq | ⟨f, v, -, -, herror⟩
  · intro h
    have hlevel := (Sources.settings_eq_error_iff.1 (heq.symm.trans h)).2
    cases hlevel
  · simp [herror]

/-- What settings are made without the configuration of the command line tools. -/
def withoutCli (home : FilePath) (file : Toml.Table) (env : Bindings) :
    Except SettingsError Settings :=
  if CliConfig.hasNoPlace home env then .error .zeroInName else ofLayers file env []

theorem load_of_isGarbled (hfile : fileTable files path? = .ok file)
    (h : CliConfig.IsGarbled files env) : load files env path? = .error .encoding := by
  rw [load_eq, hfile, CliConfig.load_of_isGarbled h]
  rfl

theorem load_of_not_garbled (hfile : fileTable files path? = .ok file)
    (hset : ∀ f, SetAboveCli file env f) (h : ¬ CliConfig.IsGarbled files env) :
    load files env path? = withoutCli files.home file env := by
  rw [load_eq, hfile, withoutCli]
  cases hplace : CliConfig.hasNoPlace files.home env with
  | true =>
      rw [CliConfig.load_of_hasNoPlace hplace]
      rfl
  | false =>
      obtain ⟨cli, hcli⟩ := CliConfig.exists_load h hplace
      rw [hcli, ← ofLayers_eq_of_setAboveCli hset cli]
      rfl

theorem withoutCli_ne_encoding {home : FilePath} :
    withoutCli home file env ≠ .error .encoding := by
  unfold withoutCli
  split
  · simp
  · exact ofLayers_ne_encoding []

/-- **A configuration that decides nothing.** If the settings file and the environment set both
fields, two states of the files make the same settings, or the same error, iff the configuration of
the command line tools is garbled in both or in neither, wherever the environment has it. If it is
garbled, no settings are made. -/
theorem load_eq_iff_garbled (hfile : fileTable files path? = .ok file)
    (hfile' : fileTable files' path? = .ok file) (hhome : files'.home = files.home)
    (hset : ∀ f, SetAboveCli file env f) :
    (load files env path? = load files' env path? ↔
      (CliConfig.IsGarbled files env ↔ CliConfig.IsGarbled files' env)) ∧
    (CliConfig.IsGarbled files env → load files env path? = .error .encoding) := by
  refine ⟨?_, load_of_isGarbled hfile⟩
  by_cases h : CliConfig.IsGarbled files env
  · by_cases h' : CliConfig.IsGarbled files' env
    · simp [load_of_isGarbled hfile h, load_of_isGarbled hfile' h', h, h']
    · simp [load_of_isGarbled hfile h, load_of_not_garbled hfile' hset h', h, h',
        withoutCli_ne_encoding.symm]
  · by_cases h' : CliConfig.IsGarbled files' env
    · simp [load_of_not_garbled hfile hset h, load_of_isGarbled hfile' h', h, h',
        withoutCli_ne_encoding]
    · simp [load_of_not_garbled hfile hset h, load_of_not_garbled hfile' hset h', h, h', hhome]

/-- Where the environment sets both fields and names the configuration, one with other values makes
the settings that none makes, and a single byte that begins no character makes none. -/
theorem load_eq_iff_garbled_set_in_environment :
    let files (config : Bytes) : FileTree :=
      { files := [(["etc", "solana.yml"], config)], home := .ofText "/home" }
    let empty : FileTree := { files := [], home := .ofText "/home" }
    let env : Bindings :=
      [("SOLANA_CONFIG", "/etc/solana.yml"), ("EBALTS_RPC_URL", "devnet"),
        ("EBALTS_COMMITMENT", "finalized")]
    let config := "json_rpc_url: mainnet\ncommitment: recent\n".toUTF8.data.toList
    (∀ f, SetAboveCli [] env f) ∧ load (files config) env none = load empty env none ∧
      load (files [0xFF]) env none = .error .encoding := by
  intro files empty env config
  have hset : ∀ f, SetAboveCli [] env f := by
    intro f
    cases f with
    | rpcUrl => exact ⟨"devnet", by decide, .inr rfl⟩
    | commitment => exact ⟨"finalized", by decide, .inr rfl⟩
  have hplace : ∀ home, CliConfig.PlacedAt home env (.ofText "/etc/solana.yml") := by
    intro home
    exact .first rfl (by decide)
  have hread : ∀ bytes, (files bytes).read (.ofText "/etc/solana.yml") = .ok bytes := fun _ => rfl
  have hconfig : ¬ CliConfig.IsGarbled (files config) env := by
    simp [CliConfig.isGarbled_iff (hplace _), FileTree.readText_of_read (hread config)]
  have hnone : ¬ CliConfig.IsGarbled empty env := by
    have hmissing : empty.readText (.ofText "/etc/solana.yml") = .error .missing := rfl
    simp [CliConfig.isGarbled_iff (hplace _), hmissing]
  have hgarbled : CliConfig.IsGarbled (files [0xFF]) env := by
    rw [CliConfig.isGarbled_iff (hplace _)]
    rfl
  have htable : ∀ tree : FileTree, fileTable tree none = .ok [] := fun _ => rfl
  refine ⟨hset, ?_, ?_⟩
  · have hiff := (load_eq_iff_garbled (htable (files config)) (htable empty) rfl hset).1
    exact hiff.2 (by simp only [hconfig, hnone])
  · exact (load_eq_iff_garbled (htable (files [0xFF])) (htable empty) rfl hset).2 hgarbled

/-- A file of one byte, which nothing asks for, ends the loading of settings that are complete
without it. -/
theorem load_garbled_ne_missing :
    let tree (files : List (Place × Bytes)) : FileTree := { files, home := .ofText "/home" }
    let place : Place := ["home", ".config", "solana", "cli", "config.yml"]
    let env : Bindings := [("EBALTS_RPC_URL", "devnet"), ("EBALTS_COMMITMENT", "finalized")]
    (∀ f, SetAboveCli [] env f) ∧
      load (tree []) env none = .ok ⟨"https://api.devnet.solana.com", .finalized⟩ ∧
      load (tree [(place, [0xFF])]) env none = .error .encoding := by
  intro tree place env
  refine ⟨?_, ?_, ?_⟩
  · intro f
    cases f with
    | rpcUrl => exact ⟨"devnet", by decide, .inr rfl⟩
    | commitment => exact ⟨"finalized", by decide, .inr rfl⟩
  · rfl
  · rfl

end Settings

end ExtraMetas
