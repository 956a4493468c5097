import ExtraMetas.Proofs.Settings.Precedence
import ExtraMetas.Proofs.Text.Trimming

/-!
# ExtraMetas.Proofs.Settings.NodeUrl

**The URL of loaded settings.** Whatever text sets the URL, the settings have one that stands for
itself (`IsPlainUrl`): it has no blanks around it and is no name of a cluster, so it means the same
when it is read once more (`isPlainUrl_resolveUrl`).

A layer sets the URL if its text is not empty, but only then are the blanks around the text taken
off. So a text of blanks alone sets the URL to the empty one, and nothing else does
(`Settings.isPlainUrl_of_load`).
-/

namespace ExtraMetas

/-- Is the text the name of a cluster, in any letter case? -/
def IsClusterName (s : String) : Prop :=
  String.ofList (Text.foldCase s.toList) ∈ clusterUrls.map Prod.fst

/-- A URL that stands for itself. -/
structure IsPlainUrl (url : String) : Prop where
  trimmed : Text.IsTrimmed Text.isBlank url.toList
  not_name : ¬ IsClusterName url

/-! ### Reading a URL -/

/-- A text means the node of a cluster, or else itself without the blanks around it. -/
theorem resolveUrl_cases (s : String) :
    (∃ name, (name, resolveUrl s) ∈ clusterUrls) ∨
      ¬ IsClusterName (String.ofList (Text.trim s.toList)) ∧
        resolveUrl s = String.ofList (Text.trim s.toList) := by
  unfold resolveUrl IsClusterName
  simp only [String.toList_ofList]
  cases hlookup : clusterUrls.lookup (String.ofList (Text.foldCase (Text.trim s.toList))) with
  | some url =>
      obtain ⟨before, after, hsplit, -⟩ := List.lookup_eq_some_iff.1 hlookup
      exact .inl ⟨_, by rw [hsplit]; exact List.mem_append_right before (List.mem_cons_self ..)⟩
  | none =>
      refine .inr ⟨?_, rfl⟩
      intro hname
      obtain ⟨entry, hentry, hname⟩ := List.mem_map.1 hname
      have hother := List.lookup_eq_none_iff.1 hlookup entry hentry
      simp [hname] at hother

theorem IsPlainUrl.resolveUrl_eq {url : String} (h : IsPlainUrl url) : resolveUrl url = url := by
  have htrim : Text.trim url.toList = url.toList := h.trimmed.trimEnds_eq
  have hlookup : clusterUrls.lookup (String.ofList (Text.foldCase url.toList)) = none := by
    rw [List.lookup_eq_none_iff]
    intro entry hentry
    rw [bne_iff_ne]
    intro hname
    refine h.not_name ?_
    rw [IsClusterName, hname]
    exact List.mem_map_of_mem hentry
  simp [resolveUrl, htrim, hlookup]

/-- The URLs of the clusters stand for themselves. -/
theorem isPlainUrl_of_mem {name url : String} (h : (name, url) ∈ clusterUrls) : IsPlainUrl url := by
  have hplain : ∀ entry ∈ clusterUrls, Text.IsTrimmed Text.isBlank entry.2.toList ∧
      String.ofList (Text.foldCase entry.2.toList) ∉ clusterUrls.map Prod.fst := by
    decide
  obtain ⟨htrimmed, hname⟩ := hplain (name, url) h
  exact ⟨htrimmed, hname⟩

theorem isPlainUrl_resolveUrl (s : String) : IsPlainUrl (resolveUrl s) := by
  rcases resolveUrl_cases s with ⟨name, hname⟩ | ⟨hname, heq⟩
  · exact isPlainUrl_of_mem hname
  · rw [heq]
    refine ⟨?_, hname⟩
    rw [String.toList_ofList]
    exact Text.isTrimmed_trimEnds Text.isBlank s.toList

/-- Only blanks mean the empty URL. -/
theorem resolveUrl_eq_empty_iff {s : String} :
    resolveUrl s = "" ↔ ∀ c ∈ s.toList, Text.isBlank c = true := by
  rw [← Text.trimEnds_eq_nil_iff, ← Text.trim]
  constructor
  · intro h
    rcases resolveUrl_cases s with ⟨name, hname⟩ | ⟨-, heq⟩
    · simp [h, clusterUrls] at hname
    · simpa [heq] using h
  · intro h
    rw [resolveUrl, h]
    decide

namespace Settings

/-! ### The URL of loaded settings -/

section Loading

variable {files : FileTree} {env : Bindings} {path? : Option FilePath} {src : Sources}
  {settings : Settings} {url : String}

theorem isPlainUrl_default : IsPlainUrl (Settings.default.get .rpcUrl) := by
  have hmem : ("localnet", Settings.default.get .rpcUrl) ∈ clusterUrls := by decide
  exact isPlainUrl_of_mem hmem

theorem Sources.Gives.isPlainUrl (h : src.Gives .rpcUrl url) : IsPlainUrl url := by
  rcases h.decided_or_undecided with ⟨layer, s, -, rfl⟩ | ⟨-, rfl⟩
  · exact isPlainUrl_resolveUrl s
  · exact isPlainUrl_default

/-- The default is not empty, so an empty URL was set. -/
theorem Sources.Gives.eq_empty_iff (h : src.Gives .rpcUrl url) :
    url = "" ↔ ∃ layer s, src.DecidedBy .rpcUrl layer s ∧
      ∀ c ∈ s.toList, Text.isBlank c = true := by
  constructor
  · intro hempty
    rcases h.decided_or_undecided with ⟨layer, s, hs, rfl⟩ | ⟨-, rfl⟩
    · exact ⟨layer, s, hs, resolveUrl_eq_empty_iff.1 hempty⟩
    · exact absurd hempty (by decide)
  · intro hblank
    obtain ⟨layer, s, hs, hblank⟩ := hblank
    rw [h.decided layer s hs, Field.expand]
    exact resolveUrl_eq_empty_iff.2 hblank

/-- **The URL of loaded settings.** Loaded settings have one of the levels of finality and a URL
that stands for itself. The URL is empty iff the text that decides it is made of blanks. -/
theorem isPlainUrl_of_load (h : load files env path? = .ok settings) :
    settings.commitment.name ∈ ["processed", "confirmed", "finalized"] ∧
    IsPlainUrl settings.rpcUrl ∧ resolveUrl settings.rpcUrl = settings.rpcUrl ∧
    ∃ src : Sources, src.ReadFrom files env path? ∧
      (settings.rpcUrl = "" ↔ ∃ layer s, src.DecidedBy .rpcUrl layer s ∧
        ∀ c ∈ s.toList, Text.isBlank c = true) := by
  obtain ⟨src, hread, hsettings⟩ := exists_readFrom h
  have hgives : src.Gives .rpcUrl settings.rpcUrl := Sources.gives_of_settings hsettings .rpcUrl
  have hlevel : settings.commitment.name ∈ ["processed", "confirmed", "finalized"] := by
    cases settings.commitment <;> decide
  have hplain := hgives.isPlainUrl
  exact ⟨hlevel, hplain, hplain.resolveUrl_eq, src, hread, hgives.eq_empty_iff⟩

/-- The name of a cluster with blanks around it and in mixed letter case. -/
theorem isPlainUrl_of_load_devnet :
    let files : FileTree := { files := [], home := .ofText "/home" }
    let env : Bindings := [("EBALTS_RPC_URL", " DevNet\n")]
    load files env none = .ok ⟨"https://api.devnet.solana.com", .confirmed⟩ ∧
      IsPlainUrl "https://api.devnet.solana.com" := by
  intro files env
  have hload : load files env none = .ok ⟨"https://api.devnet.solana.com", .confirmed⟩ := rfl
  obtain ⟨-, hplain, -⟩ := isPlainUrl_of_load hload
  exact ⟨hload, hplain⟩

/-- A text of blanks makes an empty URL in each of the layers. -/
theorem load_blank_url :
    let files (place : Place) (text : String) : FileTree :=
      { files := [(place, text.toUTF8.data.toList)], home := .ofText "/home" }
    let config : Place := ["home", ".config", "solana", "cli", "config.yml"]
    load (files ["s.toml"] "[cluster]\nrpc_url = ' '\n") [] (some (.ofText "s.toml"))
        = .ok ⟨"", .confirmed⟩ ∧
      load (files config "") [("EBALTS_RPC_URL", " ")] none = .ok ⟨"", .confirmed⟩ ∧
      load (files config "json_rpc_url: ' '\n") [] none = .ok ⟨"", .confirmed⟩ := by
  intro files config
  refine ⟨?_, ?_, ?_⟩
  · have hread : (files ["s.toml"] "[cluster]\nrpc_url = ' '\n").read (.ofText "s.toml")
        = .ok "[cluster]\nrpc_url = ' '\n".toUTF8.data.toList := rfl
    have hparse : Toml.parse (Text.unifyNewlines "[cluster]\nrpc_url = ' '\n".toList)
        = some [("cluster", .table [("rpc_url", .text " ")])] := by
      decide +kernel
    rw [load_of_readFile (readFile_of_read hread hparse)]
    rfl
  · rfl
  · have hread : (files config "json_rpc_url: ' '\n").read (CliConfig.path (.ofText "/home") [])
        = .ok "json_rpc_url: ' '\n".toUTF8.data.toList := rfl
    rw [load_eq, CliConfig.load_of_readText_eq_ok (CliConfig.placedAt_path ..)
      (FileTree.readText_of_read hread)]
    rfl

end Loading

end Settings

end ExtraMetas
