import ExtraMetas.Settings.CliConfig

/-!
# ExtraMetas.Proofs.Settings.ConfigFile

**The file of the command line tools' configuration.** Two variables of the environment can name it,
of which the first goes before the second, and if neither does, it is in its usual place below the
home directory (`CliConfig.PlacedAt`). So in any environment there is one path for it
(`CliConfig.placedAt_iff`).

What the configuration says (`CliConfig.Says`) is what is read at that path, or nothing where the
system gives no file. That is what loading it gives (`CliConfig.load_eq_ok_iff`).
-/

namespace ExtraMetas

namespace Bindings

variable {b : Bindings} {name s : String}

/-- Nothing but the empty text is bound to the name. -/
def Unset (b : Bindings) (name : String) : Prop :=
  ∀ s, b.lookup name = some s → s = ""

theorem nonEmpty?_eq_some_iff : b.nonEmpty? name = some s ↔ b.lookup name = some s ∧ s ≠ "" := by
  simp [nonEmpty?, Option.filter_eq_some_iff]

theorem nonEmpty?_eq_none_iff : b.nonEmpty? name = none ↔ b.Unset name := by
  simp [nonEmpty?, Unset, Option.filter_eq_none_iff]

end Bindings

namespace CliConfig

/-! ### The place of the file -/

/-- The path of the configuration file. -/
inductive PlacedAt (home : FilePath) (env : Bindings) : FilePath → Prop
  /-- The first variable names it. -/
  | first {s : String} (hlookup : env.lookup "SOLANA_CONFIG" = some s) (hs : s ≠ "") :
      PlacedAt home env (.ofText s)
  /-- The first variable names nothing, the second one does. -/
  | second {s : String} (hunset : env.Unset "SOLANA_CONFIG")
      (hlookup : env.lookup "SOLANA_CONFIG_FILE" = some s) (hs : s ≠ "") :
      PlacedAt home env (.ofText s)
  /-- Neither variable names anything. -/
  | usual (hunset : env.Unset "SOLANA_CONFIG") (hunset' : env.Unset "SOLANA_CONFIG_FILE") :
      PlacedAt home env
        ⟨home.anchor, home.names ++ [".config", "solana", "cli", "config.yml"]⟩

section

variable {home p : FilePath} {env : Bindings}

theorem PlacedAt.eq_path (h : PlacedAt home env p) : p = path home env := by
  cases h with
  | first hlookup hs =>
      rw [path, chosen?, Bindings.nonEmpty?_eq_some_iff.2 ⟨hlookup, hs⟩, Option.some_or]
  | second hunset hlookup hs =>
      rw [path, chosen?, Bindings.nonEmpty?_eq_none_iff.2 hunset,
        Bindings.nonEmpty?_eq_some_iff.2 ⟨hlookup, hs⟩, Option.none_or]
  | usual hunset hunset' =>
      rw [path, chosen?, Bindings.nonEmpty?_eq_none_iff.2 hunset,
        Bindings.nonEmpty?_eq_none_iff.2 hunset', Option.none_or]
      rfl

theorem placedAt_path (home : FilePath) (env : Bindings) : PlacedAt home env (path home env) := by
  rw [path, chosen?]
  cases hfirst : env.nonEmpty? "SOLANA_CONFIG" with
  | some s =>
      obtain ⟨hlookup, hs⟩ := Bindings.nonEmpty?_eq_some_iff.1 hfirst
      exact .first hlookup hs
  | none =>
      have hunset := Bindings.nonEmpty?_eq_none_iff.1 hfirst
      cases hsecond : env.nonEmpty? "SOLANA_CONFIG_FILE" with
      | some s =>
          obtain ⟨hlookup, hs⟩ := Bindings.nonEmpty?_eq_some_iff.1 hsecond
          exact .second hunset hlookup hs
      | none => exact .usual hunset (Bindings.nonEmpty?_eq_none_iff.1 hsecond)

/-- In any environment the file has one path. -/
theorem placedAt_iff : PlacedAt home env p ↔ p = path home env :=
  ⟨PlacedAt.eq_path, fun h => h ▸ placedAt_path home env⟩

end

/-! ### What the file says -/

variable {files : FileTree} {env cli : Bindings} {p : FilePath}

theorem load_of_readText_eq_ok {s : List Char} (hplace : PlacedAt files.home env p)
    (hread : files.readText p = .ok s) : load files env = .ok (parse s) := by
  obtain rfl := hplace.eq_path
  rw [load, hread]

theorem load_of_readText_eq_error {e : ReadError} (hplace : PlacedAt files.home env p)
    (hread : files.readText p = .error e) :
    load files env = if e.isOfSystem then .ok [] else .error e := by
  obtain rfl := hplace.eq_path
  rw [load, hread]

/-- What the configuration says: the bindings of its text, or nothing where there is no file that
the system gives. -/
inductive Says (files : FileTree) (env : Bindings) : Bindings → Prop
  | absent {p : FilePath} {e : ReadError} (hplace : PlacedAt files.home env p)
      (hread : files.readText p = .error e) (hname : e ≠ .zeroInName) (htext : e ≠ .encoding) :
      Says files env []
  | text {p : FilePath} {s : List Char} (hplace : PlacedAt files.home env p)
      (hread : files.readText p = .ok s) : Says files env (parse s)

theorem load_eq_ok_iff : load files env = .ok cli ↔ Says files env cli := by
  constructor
  · intro h
    have hplace := placedAt_path files.home env
    cases hread : files.readText (path files.home env) with
    | ok s =>
        rw [load_of_readText_eq_ok hplace hread] at h
        cases h
        exact .text hplace hread
    | error e =>
        rw [load_of_readText_eq_error hplace hread] at h
        by_cases hsystem : e.isOfSystem = true
        · rw [if_pos hsystem] at h
          cases h
          obtain ⟨hname, htext⟩ := ReadError.isOfSystem_iff.1 hsystem
          exact .absent hplace hread hname htext
        · rw [if_neg hsystem] at h
          cases h
  · intro h
    cases h with
    | absent hplace hread hname htext =>
        rw [load_of_readText_eq_error hplace hread,
          if_pos (ReadError.isOfSystem_iff.2 ⟨hname, htext⟩)]
    | text hplace hread => exact load_of_readText_eq_ok hplace hread

end CliConfig

end ExtraMetas
