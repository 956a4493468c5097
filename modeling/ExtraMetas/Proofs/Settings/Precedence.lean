import ExtraMetas.Proofs.Outcome
import ExtraMetas.Proofs.Settings.ConfigFile
import ExtraMetas.Proofs.Settings.Layers

/-!
# ExtraMetas.Proofs.Settings.Precedence

**Which layer decides a field.** A field of settings can be set by a text in the settings file, in
the environment and in the configuration of the command line tools, which is what its file says,
wherever that is (`CliConfig.Says`). An empty text sets nothing. The highest layer that sets a field
decides it (`Settings.Sources.DecidedBy`), each field for itself.

There is at most one such text (`Settings.Sources.deciding?`), and it is the same in sources that
have the same texts down to it (`Settings.Sources.AgreesWith.deciding?_eq`). Loading chooses it
(`Settings.Sources.ofLayers_eq_or`), so what lies below it is never asked
(`Settings.load_precedence`).
-/

namespace ExtraMetas

/-- The text that a value is, if it is one. -/
def Toml.Value.text? : Value → Option String
  | text s => some s
  | _ => none

namespace Settings

/-! ### Fields and layers -/

/-- A field of settings. -/
inductive Field
  | rpcUrl
  | commitment

/-- A layer that can set a field, from the highest on. -/
inductive Layer
  | file
  | environment
  | cli

/-- The layers above a layer. -/
def Layer.above : Layer → List Layer
  | file => []
  | environment => [file]
  | cli => [file, environment]

/-- The value of a field, as a text. -/
def get (settings : Settings) : Field → String
  | .rpcUrl => settings.rpcUrl
  | .commitment => settings.commitment.name

namespace Field

/-- The key of the field in the `[cluster]` table. -/
def fileKey : Field → String
  | rpcUrl => "rpc_url"
  | commitment => "commitment"

/-- The name of the field in the environment. -/
def envName : Field → String
  | rpcUrl => "EBALTS_RPC_URL"
  | commitment => "EBALTS_COMMITMENT"

/-- The key of the field in the configuration of the command line tools. -/
def cliKey : Field → String
  | rpcUrl => "json_rpc_url"
  | commitment => "commitment"

/-- The value that a text means: the name of a cluster stands for a URL, and the letter case of a
level of finality and the blanks around it do not matter. -/
def expand : Field → String → String
  | rpcUrl, s => resolveUrl s
  | commitment, s => String.ofList (Text.foldCase (Text.trim s.toList))

end Field

/-- What settings are loaded from, once it is read. -/
structure Sources where
  file : Toml.Table
  env : Bindings
  cli : Bindings

namespace Sources

/-- These are the sources: the `[cluster]` table of the settings file, if one is named, the
environment, and what the configuration of the command line tools says. -/
structure ReadFrom (src : Sources) (files : FileTree) (env : Bindings) (path? : Option FilePath) :
    Prop where
  file_eq : fileTable files path? = .ok src.file
  env_eq : src.env = env
  cli_says : CliConfig.Says files env src.cli

/-- The text that a layer has for a field. -/
def text (src : Sources) (f : Field) : Layer → Option String
  | .file => (src.file.lookup f.fileKey).bind Toml.Value.text?
  | .environment => src.env.lookup f.envName
  | .cli => src.cli.lookup f.cliKey

/-- The layer sets the field to the text, which is not empty. -/
def Sets (src : Sources) (f : Field) (layer : Layer) (s : String) : Prop :=
  src.text f layer = some s ∧ s ≠ ""

/-- No layer above sets the field. -/
def Reaches (src : Sources) (f : Field) (layer : Layer) : Prop :=
  ∀ above ∈ layer.above, ∀ s, ¬ src.Sets f above s

/-- The layer is the highest that sets the field, and this is the text. -/
structure DecidedBy (src : Sources) (f : Field) (layer : Layer) (s : String) : Prop where
  reaches : src.Reaches f layer
  sets : src.Sets f layer s

/-- No layer sets the field. -/
def Undecided (src : Sources) (f : Field) : Prop :=
  ∀ layer s, ¬ src.Sets f layer s

/-- The field has the value that the deciding text means, or the default where there is none. -/
structure Gives (src : Sources) (f : Field) (value : String) : Prop where
  decided : ∀ layer s, src.DecidedBy f layer s → value = f.expand s
  undecided : src.Undecided f → value = Settings.default.get f

/-- The text that decides a field. -/
def deciding? (src : Sources) (f : Field) : Option String :=
  [Layer.file, .environment, .cli].findSome? fun layer => (src.text f layer).filter (· != "")

/-- The level of finality that the deciding text names, or the default. -/
def level (src : Sources) : Except SettingsError Commitment :=
  match src.deciding? .commitment with
  | some s => commitmentOf s
  | none => .ok Settings.default.commitment

/-- The settings that the deciding texts make. -/
def settings (src : Sources) : Except SettingsError Settings :=
  src.level.map fun level =>
    ⟨((src.deciding? .rpcUrl).map resolveUrl).getD Settings.default.rpcUrl, level⟩

section Deciding

variable {src src' : Sources} {f : Field} {layer : Layer} {s : String}

theorem filter_text_eq_some_iff :
    (src.text f layer).filter (· != "") = some s ↔ src.Sets f layer s := by
  simp [Sets, Option.filter_eq_some_iff]

theorem filter_text_eq_none_iff :
    (src.text f layer).filter (· != "") = none ↔ ∀ s, ¬ src.Sets f layer s := by
  simp [Sets, Option.filter_eq_none_iff]

/-- A layer that is reached has no layer above it that is not. -/
theorem Reaches.above {above : Layer} (h : src.Reaches f layer) (habove : above ∈ layer.above) :
    src.Reaches f above := by
  intro higher hhigher
  refine h higher ?_
  cases layer <;> cases above <;> simp_all [Layer.above]

theorem deciding?_eq_some_iff : src.deciding? f = some s ↔ ∃ layer, src.DecidedBy f layer s := by
  constructor
  · intro h
    cases hfile : (src.text f .file).filter (· != "") with
    | some t =>
        obtain rfl : t = s := by simpa [deciding?, hfile] using h
        exact ⟨.file, by simp [Reaches, Layer.above], filter_text_eq_some_iff.1 hfile⟩
    | none =>
        have hfile' := filter_text_eq_none_iff.1 hfile
        cases henv : (src.text f .environment).filter (· != "") with
        | some t =>
            obtain rfl : t = s := by simpa [deciding?, hfile, henv] using h
            exact ⟨.environment, by simpa [Reaches, Layer.above] using hfile',
              filter_text_eq_some_iff.1 henv⟩
        | none =>
            have henv' := filter_text_eq_none_iff.1 henv
            have hcli : (src.text f .cli).filter (· != "") = some s := by
              simpa [deciding?, hfile, henv] using h
            exact ⟨.cli, by simpa [Reaches, Layer.above] using ⟨hfile', henv'⟩,
              filter_text_eq_some_iff.1 hcli⟩
  · intro ⟨layer, hreaches, hsets⟩
    have hpassed : ∀ above ∈ layer.above, (src.text f above).filter (· != "") = none := by
      intro above habove
      exact filter_text_eq_none_iff.2 (hreaches above habove)
    have htext := filter_text_eq_some_iff.2 hsets
    cases layer with
    | file => simp [deciding?, htext]
    | environment => simp [deciding?, htext, hpassed .file (by simp [Layer.above])]
    | cli =>
        simp [deciding?, htext, hpassed .file (by simp [Layer.above]),
          hpassed .environment (by simp [Layer.above])]

/-- Only one text decides a field. -/
theorem DecidedBy.unique {layer' : Layer} {s' : String} (h : src.DecidedBy f layer s)
    (h' : src.DecidedBy f layer' s') : s' = s := by
  have hs := deciding?_eq_some_iff.2 ⟨layer, h⟩
  have hs' := deciding?_eq_some_iff.2 ⟨layer', h'⟩
  exact Option.some_inj.1 (hs'.symm.trans hs)

theorem deciding?_eq_none_iff : src.deciding? f = none ↔ src.Undecided f := by
  simp only [deciding?, List.findSome?_eq_none_iff, filter_text_eq_none_iff]
  constructor
  · intro h layer
    exact h layer (by cases layer <;> simp)
  · intro h layer _
    exact h layer

/-- A field has its value from a text or by default. -/
theorem Gives.decided_or_undecided {value : String} (h : src.Gives f value) :
    (∃ layer s, src.DecidedBy f layer s ∧ value = f.expand s) ∨
      src.Undecided f ∧ value = Settings.default.get f := by
  cases hdeciding : src.deciding? f with
  | some s =>
      obtain ⟨layer, hs⟩ := deciding?_eq_some_iff.1 hdeciding
      exact .inl ⟨layer, s, hs, h.decided layer s hs⟩
  | none =>
      have hundecided := deciding?_eq_none_iff.1 hdeciding
      exact .inr ⟨hundecided, h.undecided hundecided⟩

end Deciding

end Sources

/-! ### Choosing the fields -/

theorem commitmentOf_eq_ok_iff {s : String} {c : Commitment} :
    commitmentOf s = .ok c ↔ c.name = Field.commitment.expand s := by
  have hname : ∀ name : String, Commitment.ofName? name = some c ↔ c.name = name := by
    intro name
    constructor
    · intro h
      simpa using List.find?_some h
    · rintro rfl
      exact Commitment.ofName?_name c
  rw [Field.expand, ← hname, commitmentOf, ← Commitment.parse?]
  cases Commitment.parse? s <;> simp

theorem commitmentOf_eq_error_iff {s : String} {e : SettingsError} :
    commitmentOf s = .error e ↔
      (∀ c : Commitment, c.name ≠ Field.commitment.expand s) ∧ e = .commitment := by
  simp only [ne_eq, ← commitmentOf_eq_ok_iff]
  unfold commitmentOf
  cases Commitment.parse? s <;> simp [eq_comm]

namespace Sources

variable {src src' : Sources} {f : Field} {settings settings' : Settings}

/-- A settings file that sets nothing leaves the choice to the layers below. -/
theorem choose_of_file_unset
    (hunset : (src.file.lookup f.fileKey).filter Toml.Value.isSet = none)
    (hnone : (src.text f .file).filter (· != "") = none) :
    choose f.fileKey src.file [src.env.nonEmpty? f.envName, src.cli.nonEmpty? f.cliKey]
      = .ok (src.deciding? f) := by
  have hlower : src.deciding? f
      = [src.env.nonEmpty? f.envName, src.cli.nonEmpty? f.cliKey].findSome? id := by
    rw [deciding?, List.findSome?_cons, hnone]
    rfl
  rw [choose, hunset, hlower]

theorem choose_of_file_text {s : String} (hlookup : src.file.lookup f.fileKey = some (.text s))
    (hs : s ≠ "") (lower : List (Option String)) :
    choose f.fileKey src.file lower = .ok (src.deciding? f) := by
  have hset : (Toml.Value.text s).isSet = true := by simp [Toml.Value.isSet, hs]
  have htext : src.text f .file = some s := by
    rw [text, hlookup]
    rfl
  have hdeciding : src.deciding? f = some s := by simp [deciding?, htext, hs]
  rw [choose, hlookup, Option.filter_some, if_pos hset, hdeciding]

/-- The deciding text of a field is chosen, unless the settings file sets the field to something
else than a text. -/
theorem choose_eq_or (src : Sources) (f : Field) :
    choose f.fileKey src.file [src.env.nonEmpty? f.envName, src.cli.nonEmpty? f.cliKey]
        = .ok (src.deciding? f) ∨
      ∃ v, src.file.lookup f.fileKey = some v ∧ v.isText = false ∧
        choose f.fileKey src.file [src.env.nonEmpty? f.envName, src.cli.nonEmpty? f.cliKey]
          = .error (.notText f.fileKey) := by
  cases hlookup : src.file.lookup f.fileKey with
  | none => exact .inl (choose_of_file_unset (by simp [hlookup]) (by simp [text, hlookup]))
  | some v =>
      by_cases hset : v.isSet = true
      · cases v with
        | text s =>
            have hs : s ≠ "" := by simpa [Toml.Value.isSet] using hset
            exact .inl (choose_of_file_text hlookup hs _)
        | _ => exact .inr ⟨_, rfl, rfl, choose_of_not_text hlookup rfl hset⟩
      · refine .inl (choose_of_file_unset (by simp [hlookup, hset]) ?_)
        cases v with
        | text s =>
            have hs : s = "" := by simpa [Toml.Value.isSet] using hset
            simp [text, hlookup, Toml.Value.text?, hs]
        | _ => simp [text, hlookup, Toml.Value.text?]

/-- The deciding texts make the settings, unless the settings file sets a field to something else
than a text. -/
theorem ofLayers_eq_or (src : Sources) :
    ofLayers src.file src.env src.cli = src.settings ∨
      ∃ (f : Field) (v : Toml.Value), src.file.lookup f.fileKey = some v ∧ v.isText = false ∧
        ofLayers src.file src.env src.cli = .error (.notText f.fileKey) := by
  rcases src.choose_eq_or .rpcUrl with hurl | ⟨v, hv, htext, hurl⟩
  · rcases src.choose_eq_or .commitment with hlevel | ⟨v, hv, htext, hlevel⟩
    · left
      simp only [Field.fileKey, Field.envName, Field.cliKey] at hurl hlevel
      rw [ofLayers, hurl, hlevel, settings, level]
      cases src.deciding? .commitment with
      | none => rfl
      | some s =>
          dsimp only [bind, Except.bind]
          cases commitmentOf s with
          | error e => rfl
          | ok level => rfl
    · refine .inr ⟨.commitment, v, hv, htext, ?_⟩
      simp only [Field.fileKey, Field.envName, Field.cliKey] at hurl hlevel
      rw [ofLayers, hurl, hlevel]
      rfl
  · refine .inr ⟨.rpcUrl, v, hv, htext, ?_⟩
    simp only [Field.fileKey, Field.envName, Field.cliKey] at hurl
    rw [ofLayers, hurl]
    rfl

/-- Settings have the values that their sources give. -/
theorem gives_of_settings (h : src.settings = .ok settings) (f : Field) :
    src.Gives f (settings.get f) := by
  obtain ⟨level, hlevel, rfl⟩ := Except.map_eq_ok_iff.1 h
  unfold Sources.level at hlevel
  cases f with
  | rpcUrl =>
      constructor
      · intro layer s hs
        rw [get, deciding?_eq_some_iff.2 ⟨layer, hs⟩, Option.map_some, Option.getD_some,
          Field.expand]
      · intro hundecided
        rw [get, deciding?_eq_none_iff.2 hundecided, Option.map_none, Option.getD_none, get]
  | commitment =>
      constructor
      · intro layer s hs
        rw [deciding?_eq_some_iff.2 ⟨layer, hs⟩] at hlevel
        exact commitmentOf_eq_ok_iff.1 hlevel
      · intro hundecided
        rw [deciding?_eq_none_iff.2 hundecided] at hlevel
        cases hlevel
        rfl

/-- A deciding text that names no level of finality is the only error. -/
theorem settings_eq_error_iff {e : SettingsError} :
    src.settings = .error e ↔ (∃ layer s, src.DecidedBy .commitment layer s ∧
      ∀ c : Commitment, c.name ≠ Field.commitment.expand s) ∧ e = .commitment := by
  rw [Sources.settings, Except.map_eq_error_iff, level]
  cases hdeciding : src.deciding? .commitment with
  | none =>
      have hundecided := deciding?_eq_none_iff.1 hdeciding
      simp only [reduceCtorEq, false_iff]
      intro ⟨⟨layer, s, hs, _⟩, _⟩
      exact hundecided layer s hs.sets
  | some s =>
      dsimp only
      rw [commitmentOf_eq_error_iff]
      obtain ⟨layer, hlayer⟩ := deciding?_eq_some_iff.1 hdeciding
      refine and_congr_left' ⟨fun hno => ⟨layer, s, hlayer, hno⟩, ?_⟩
      intro ⟨layer', s', hlayer', hno⟩
      rwa [hlayer.unique hlayer'] at hno

end Sources

/-! ### Loading -/

section Loading

variable {files files' : FileTree} {env env' : Bindings} {path? : Option FilePath} {src : Sources}
  {settings : Settings}

theorem Sources.ReadFrom.load_eq (h : src.ReadFrom files env path?) :
    load files env path? = ofLayers src.file src.env src.cli := by
  rw [Settings.load_eq, h.file_eq, CliConfig.load_eq_ok_iff.2 h.cli_says, h.env_eq]
  rfl

/-- Settings are made of sources that were read. -/
theorem exists_readFrom (h : load files env path? = .ok settings) :
    ∃ src : Sources, src.ReadFrom files env path? ∧ src.settings = .ok settings := by
  rw [load_eq] at h
  obtain ⟨file, hfile, h⟩ := Except.bind_eq_ok_iff.1 h
  obtain ⟨cli, hcli, h⟩ := Except.bind_eq_ok_iff.1 h
  have hsays : CliConfig.Says files env cli := by
    refine CliConfig.load_eq_ok_iff.1 ?_
    cases hload : CliConfig.load files env with
    | error e => simp [hload, Except.mapError] at hcli
    | ok b => simpa [hload, Except.mapError] using hcli
  refine ⟨⟨file, env, cli⟩, ⟨hfile, rfl, hsays⟩, ?_⟩
  rcases Sources.ofLayers_eq_or ⟨file, env, cli⟩ with heq | ⟨f, v, -, -, herror⟩
  · exact heq.symm.trans h
  · simp [herror] at h

end Loading

end Settings

end ExtraMetas
