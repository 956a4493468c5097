import ExtraMetas.Settings.CliConfig
import ExtraMetas.Settings.Commitment
import ExtraMetas.Text.Quoted
import ExtraMetas.Toml.Document

/-!
# ExtraMetas.Settings.Basic

**Settings** for talking to a cluster: the URL of a node and a level of finality. Each of the two is
taken from the first of these layers that sets it:

1. the `[cluster]` table of a settings file, if one is named,
2. the environment,
3. the configuration of the command line tools,
4. the defaults.

A text sets a field unless it is empty. In a settings file any value sets a field unless it counts
as not set (`Toml.Value.isSet`), and one that sets it must be a text.
-/

namespace ExtraMetas

/-- What is needed to talk to a cluster. -/
structure Settings where
  rpcUrl : String
  commitment : Commitment
deriving DecidableEq

/-- The clusters that have a name, with the URL of a node. -/
def clusterUrls : List (String × String) :=
  [("localnet", "http://127.0.0.1:8899"),
   ("devnet", "https://api.devnet.solana.com"),
   ("mainnet", "https://api.mainnet-beta.solana.com")]

/-- The settings that apply where no layer says otherwise. -/
def Settings.default : Settings :=
  ⟨"http://127.0.0.1:8899", .confirmed⟩

/-- The URL that a text means: the node of a cluster, if the text is the cluster's name in any
letter case, and otherwise the text itself, in either case without the blanks around it. -/
def resolveUrl (s : String) : String :=
  let trimmed := Text.trim s.toList
  (clusterUrls.lookup (String.ofList (Text.foldCase trimmed))).getD (String.ofList trimmed)

/-- Why settings cannot be loaded. -/
inductive SettingsError
  /-- There is no settings file at the end of the path. -/
  | fileMissing (path : FilePath)
  /-- The system does not give what is at the end of the path. -/
  | fileRefused (e : ReadError) (path : FilePath)
  /-- The path of the command line tools' configuration is none that the system is asked for. -/
  | zeroInName
  /-- A file is no UTF-8 text. -/
  | encoding
  /-- The settings file is no TOML document. -/
  | malformed
  /-- `cluster` is not a table. -/
  | clusterNotTable
  /-- A field is set to something else than a text. -/
  | notText (field : String)
  /-- A text is no level of finality. -/
  | commitment
deriving DecidableEq

/-- The wording of an error. -/
def SettingsError.message : SettingsError → String
  | fileMissing path => "Settings file not found: " ++ path.text
  | fileRefused e path => e.message ++ ": " ++ Text.Quoted.encode path.text
  | zeroInName => ReadError.zeroInName.message
  | encoding => "a settings file is no UTF-8 text"
  | malformed => "the settings file is no TOML document"
  | clusterNotTable => "[cluster] must be a table"
  | notText field => "cluster." ++ field ++ " must be a string"
  | commitment => "commitment must be processed, confirmed, or finalized"

namespace Settings

/-- The `[cluster]` table of a document, which is empty if there is none. -/
def clusterTable (root : Toml.Table) : Except SettingsError Toml.Table :=
  match root.lookup "cluster" with
  | none => .ok []
  | some (.table entries) => .ok entries
  | some _ => .error .clusterNotTable

/-- The `[cluster]` table of the settings file at the end of a path. -/
def readFile (files : FileTree) (path : FilePath) : Except SettingsError Toml.Table :=
  match files.readText path with
  | .error .missing | .error .zeroInName => .error (.fileMissing path)
  | .error .encoding => .error .encoding
  | .error e => .error (.fileRefused e path)
  | .ok text =>
    match Toml.parse text with
    | none => .error .malformed
    | some root => clusterTable root

/-- The error of a configuration of the command line tools. -/
def ofCliError : ReadError → SettingsError
  | .zeroInName => .zeroInName
  | _ => .encoding

/-- What the settings file, or else one of the lower layers, sets a field to. -/
def choose (field : String) (file : Toml.Table) (lower : List (Option String)) :
    Except SettingsError (Option String) :=
  match (file.lookup field).filter Toml.Value.isSet with
  | some (.text s) => .ok (some s)
  | some _ => .error (.notText field)
  | none => .ok (lower.findSome? id)

/-- The level that a text names. -/
def commitmentOf (s : String) : Except SettingsError Commitment :=
  match Commitment.parse? s with
  | some c => .ok c
  | none => .error .commitment

/-- The settings that the layers make together. -/
def load (files : FileTree) (env : Bindings) (path? : Option FilePath) :
    Except SettingsError Settings := do
  let file ← match path? with
    | some path => readFile files path
    | none => .ok []
  let cli ← (CliConfig.load files env).mapError ofCliError
  let url? ← choose "rpc_url" file
    [env.nonEmpty? "EBALTS_RPC_URL", cli.nonEmpty? "json_rpc_url"]
  let commitment? ← choose "commitment" file
    [env.nonEmpty? "EBALTS_COMMITMENT", cli.nonEmpty? "commitment"]
  let commitment ← match commitment? with
    | some s => commitmentOf s
    | none => .ok Settings.default.commitment
  return ⟨(url?.map resolveUrl).getD Settings.default.rpcUrl, commitment⟩

end Settings

end ExtraMetas
