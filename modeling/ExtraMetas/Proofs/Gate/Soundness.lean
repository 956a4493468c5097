import ExtraMetas.Proofs.Descriptor.Acceptance
import ExtraMetas.Proofs.Gate.Nesting
import ExtraMetas.Proofs.MintConfig
import ExtraMetas.Proofs.Resolution.Causality

/-!
# ExtraMetas.Proofs.Gate.Soundness

**The gate stays shut unless the mint's config opens it.** Accounts are listed for an operation only
if the mint has a config in which that operation's own flag is set, and the descriptor they come
from is one for that operation (`addExtraMetas_sound`). As long as the config does not call for a
gating program, nothing but the config is fetched.

`GateOutcome` says once how a run ends: there is no config to read, the config refuses, it names no
gating program, or it names one. Everything else is read off these four cases.
-/

namespace ExtraMetas

/-! ### What a config account says -/

/-- The account exists and holds a mint config. -/
structure Account.HoldsConfig (a : Account) : Prop where
  present : a.present = true
  size : a.data.length = 100
  tag : a.data[0]? = some 1

/-- The account holds a mint config in which the operation's own flag is set. -/
structure Account.Permits (a : Account) (op : Operation) : Prop extends a.HoldsConfig where
  flag : a.data[op.flagOffset]? ≠ some 0

/-- The mint config in an account, or why there is none. -/
def Account.readConfig (a : Account) (address : Pubkey) : Except GateError MintConfig :=
  if a.present then (MintConfig.decode a.data).mapError .config else .error (.configMissing address)

theorem Account.readConfig_eq_ok_iff {a : Account} {address : Pubkey} {c : MintConfig} :
    a.readConfig address = .ok c ↔ a.present = true ∧ c.Means a.data := by
  rw [← MintConfig.decode_eq_ok_iff, Account.readConfig]
  cases a.present with
  | false => simp
  | true => cases MintConfig.decode a.data <;> simp [Except.mapError]

theorem Account.exists_readConfig_iff {a : Account} (address : Pubkey) :
    (∃ c, a.readConfig address = .ok c) ↔ a.HoldsConfig := by
  simp only [Account.readConfig_eq_ok_iff, exists_and_left, ← MintConfig.decode_eq_ok_iff,
    MintConfig.exists_decode_iff]
  exact ⟨fun h => ⟨h.1, h.2.1, h.2.2⟩, fun h => ⟨h.present, h.size, h.tag⟩⟩

/-- The account at `mintConfig` holds the config `c`. -/
structure Port.Reads (port : Port) (mintConfig : Pubkey) (a : Account) (c : MintConfig) : Prop where
  account : (port []).account mintConfig = .ok a
  present : a.present = true
  means : c.Means a.data

namespace Port.Reads

variable {port : Port} {mintConfig : Pubkey} {a b : Account} {c : MintConfig}

theorem holdsConfig (h : port.Reads mintConfig a c) : a.HoldsConfig :=
  ⟨h.present, h.means.size, h.means.tag⟩

theorem permits_iff (h : port.Reads mintConfig a c) (op : Operation) :
    a.Permits op ↔ op.allowedBy c = true := by
  rw [h.means.allowedBy_iff]
  exact ⟨fun hpermits => hpermits.flag, fun hflag => ⟨h.holdsConfig, hflag⟩⟩

theorem eq_account (h : port.Reads mintConfig a c) (hb : (port []).account mintConfig = .ok b) :
    b = a :=
  Except.ok.inj (hb.symm.trans h.account)

end Port.Reads

/-! ### What is appended for a gating program -/

/-- The account at an address as a run sees it that has only read the one at `first`: that one
again, or what the ledger gives next. -/
def Port.accountAfter (port : Port) (first address : Pubkey) : Except FetchError Account :=
  if address = first then (port []).account first else (port [first]).account address

/-- The accounts that are appended for a gating program. They come from its descriptor for the
operation, which is missing or carries the operation's own discriminator. -/
structure Port.Forwards (port : Port) (op : Operation) (mintConfig : Pubkey) (target : Target)
    (gatingProgram descriptor : Pubkey) (metas : List Meta) : Prop where
  derived : ∃ bump, op.descriptorAddress target.mint gatingProgram = .ok (descriptor, bump)
  seen : ∃ a, port.accountAfter mintConfig descriptor = .ok a ∧
    (a.present = false ∨ a.data.take 8 = op.discriminator)
  shape : ∃ between, metas = [.readonly target.tokenAccountOwner, .readonly descriptor] ++ between
    ++ [.readonly gatingProgram, .readonly descriptor]

theorem Port.Forwards.four_le_length {port : Port} {op : Operation} {mintConfig : Pubkey}
    {target : Target} {gatingProgram descriptor : Pubkey} {metas : List Meta}
    (h : port.Forwards op mintConfig target gatingProgram descriptor metas) : 4 ≤ metas.length := by
  obtain ⟨between, rfl⟩ := h.shape
  simp only [List.length_append, List.length_cons, List.length_nil]
  omega

/-- An account whose entries are accepted under one discriminator is missing or carries it. -/
theorem Account.take_eq_of_entries {a : Account} {discriminator : Bytes} {entries : List Entry}
    (h : a.entries (some [discriminator]) = .ok entries) :
    a.present = false ∨ a.data.take 8 = discriminator := by
  rw [Account.entries] at h
  cases hpresent : a.present with
  | false => exact .inl rfl
  | true =>
      rw [hpresent, if_pos rfl, Except.map_eq_ok_iff] at h
      obtain ⟨content, hcontent, -⟩ := h
      have hmem := (Descriptor.header_of_decode hcontent).discriminator _ rfl
      exact .inr (List.mem_singleton.1 hmem)

/-- No descriptor is accepted for both operations. -/
theorem Operation.discriminator_injective : Function.Injective Operation.discriminator := by
  have hne : thaw.discriminator ≠ freeze.discriminator := by decide +kernel
  intro op other h
  cases op with
  | thaw =>
      cases other with
      | thaw => rfl
      | freeze => exact absurd h hne
  | freeze =>
      cases other with
      | thaw => exact absurd h.symm hne
      | freeze => rfl

/-- The session of a run that has read one account. -/
def Session.afterFirst (first : Pubkey) (a : Account) : Session :=
  (Session.empty.addCall first).addAccount first a

section OneRead

variable {port : Port} {first address : Pubkey} {a b : Account} {s : Session}

theorem Lookup.execute_first (h : (port []).account first = .ok a) :
    (Lookup.cachedOver (.ask port) first).execute .empty = (.ok a, .afterFirst first a) :=
  Lookup.execute_cachedOver_of_fetched rfl (Lookup.execute_ask_of_ok h)

theorem Port.accountAfter_of_lookup (hfirst : (port []).account first = .ok a)
    (h : (Lookup.cachedOver (.ask port) address).execute (.afterFirst first a) = (.ok b, s)) :
    port.accountAfter first address = .ok b := by
  have hfind : (Session.afterFirst first a).find? address
      = if address = first then some a else none :=
    Session.find?_addAccount _ first address a
  rw [Port.accountAfter]
  by_cases heq : address = first
  · rw [if_pos heq] at hfind
    rw [Lookup.execute_cachedOver_of_found hfind] at h
    cases h
    rw [if_pos heq, hfirst]
  · rw [if_neg heq] at hfind
    obtain ⟨t, ht⟩ := Lookup.exists_fetched_of_cachedOver hfind h
    rw [if_neg heq]
    exact Lookup.account_of_ask ht

/-- The same for a lookup of a nested run, whose own cache is still empty. -/
theorem Port.accountAfter_of_nested (hfirst : (port []).account first = .ok a)
    (h : (Lookup.cachedOver (Lookup.cachedOver (.ask port)).outside address).execute
      (Session.afterFirst first a).enter = (.ok b, s)) :
    port.accountAfter first address = .ok b := by
  obtain ⟨t, ht⟩ := Lookup.exists_fetched_of_cachedOver rfl h
  rcases hlookup : (Lookup.cachedOver (.ask port) address).execute (.afterFirst first a) with
    ⟨o, t'⟩
  rw [Lookup.execute_outside hlookup] at ht
  cases ht
  exact Port.accountAfter_of_lookup hfirst hlookup

/-- What the nested resolution of a check gives is appended as it should be: the check's base
accounts are known, and the instruction carries the first three. -/
theorem Port.forwards_of_nested {op : Operation} {target : Target} {gatingProgram descriptor : Pubkey}
    {bump : UInt8} {metas : List Meta} (hfirst : (port []).account first = .ok a)
    (hdescriptor : op.descriptorAddress target.mint gatingProgram = .ok (descriptor, bump))
    (h : (resolveNested (.cachedOver (.ask port)) descriptor
      (gateRequest op target gatingProgram descriptor)).execute (.afterFirst first a)
        = (.ok metas, s)) :
    port.Forwards op first target gatingProgram descriptor
      (metas.drop 3 ++ [.readonly gatingProgram, .readonly descriptor]) := by
  -- leaving the nested cache changes the session only
  rw [resolveNested, Run.execute_withOwnCache] at h
  obtain ⟨base, account, t, entries, extra, hbase, haccount, hentries, hmetas⟩ :=
    exists_of_resolveExtraMetas (Prod.ext (Prod.mk.inj h).1 rfl)
  cases hbase
  refine ⟨⟨bump, hdescriptor⟩, ⟨account, Port.accountAfter_of_nested hfirst haccount,
    Account.take_eq_of_entries hentries⟩, extra, ?_⟩
  rw [hmetas]
  rfl

end OneRead

/-! ### How a run ends -/

section Steps

variable {lookup : Lookup} {op : Operation} {mintConfig : Pubkey} {target : Target}
  {account : Account} {config : MintConfig} {s t : Session}

theorem execute_readMintConfig_of_read (h : (lookup mintConfig).execute s = (.ok account, t)) :
    (readMintConfig lookup mintConfig).execute s = (account.readConfig mintConfig, t) := by
  rw [readMintConfig, Run.execute_bind_ok (Run.execute_adapt_ok _ h), Account.readConfig]
  cases account.present with
  | false => rfl
  | true => cases MintConfig.decode account.data <;> rfl

theorem execute_addExtraMetas_of_unread {e : GateError}
    (h : (readMintConfig lookup mintConfig).execute s = (.error e, t)) :
    (addExtraMetas lookup op mintConfig target).execute s = (.error e, t) := by
  rw [addExtraMetas, Run.execute_bind_error h]

theorem execute_addExtraMetas_of_refused
    (h : (readMintConfig lookup mintConfig).execute s = (.ok config, t))
    (hallowed : op.allowedBy config = false) :
    (addExtraMetas lookup op mintConfig target).execute s
      = (.error (.disabled op config.mint), t) := by
  rw [addExtraMetas, Run.execute_bind_ok h, hallowed]
  rfl

theorem execute_addExtraMetas_of_ungated
    (h : (readMintConfig lookup mintConfig).execute s = (.ok config, t))
    (hallowed : op.allowedBy config = true) (hgating : config.hasGatingProgram = false) :
    (addExtraMetas lookup op mintConfig target).execute s
      = (.ok [], t.addReport (.noGatingProgram config.mint)) := by
  rw [addExtraMetas, Run.execute_bind_ok h, hallowed, hgating]
  rfl

/-- A gating program without a descriptor address. -/
theorem execute_addExtraMetas_of_underived {e : Address.Error}
    (h : (readMintConfig lookup mintConfig).execute s = (.ok config, t))
    (hallowed : op.allowedBy config = true) (hgating : config.hasGatingProgram = true)
    (hdescriptor : op.descriptorAddress target.mint config.gatingProgram = .error e) :
    (addExtraMetas lookup op mintConfig target).execute s
      = (.error (.resolve (.derivation e)), t) := by
  rw [Operation.descriptorAddress] at hdescriptor
  rw [addExtraMetas, Run.execute_bind_ok h, hallowed, hgating]
  dsimp only
  rw [hdescriptor]
  rfl

end Steps

/-- How the run for an operation ends. -/
inductive GateOutcome (port : Port) (op : Operation) (mintConfig : Pubkey) (target : Target) :
    Except GateError (List Meta) × Session → Prop
  /-- There is no config to read. -/
  | unread {e : GateError} {s : Session}
      (hconfig : ∀ a, (port []).account mintConfig = .ok a → ¬ a.HoldsConfig)
      (hcalls : s.calls = [mintConfig]) : GateOutcome port op mintConfig target (.error e, s)
  /-- The config refuses the operation. -/
  | refused {a : Account} {c : MintConfig} {s : Session} (hreads : port.Reads mintConfig a c)
      (hallowed : op.allowedBy c = false) (hcalls : s.calls = [mintConfig]) :
      GateOutcome port op mintConfig target (.error (.disabled op c.mint), s)
  /-- The config names no gating program. -/
  | ungated {a : Account} {c : MintConfig} {s : Session} (hreads : port.Reads mintConfig a c)
      (hallowed : op.allowedBy c = true) (hgating : c.hasGatingProgram = false)
      (hcalls : s.calls = [mintConfig]) : GateOutcome port op mintConfig target (.ok [], s)
  /-- The config names a gating program, whose check is resolved. -/
  | gated {a : Account} {c : MintConfig} {result : Except GateError (List Meta)} {s : Session}
      (hreads : port.Reads mintConfig a c) (hallowed : op.allowedBy c = true)
      (hgating : c.hasGatingProgram = true)
      (hforwards : ∀ metas, result = .ok metas →
        ∃ descriptor, port.Forwards op mintConfig target c.gatingProgram descriptor metas) :
      GateOutcome port op mintConfig target (result, s)

theorem addExtraMetas_outcome (port : Port) (op : Operation) (mintConfig : Pubkey)
    (target : Target) :
    GateOutcome port op mintConfig target
      ((addExtraMetas (.cachedOver (.ask port)) op mintConfig target).execute .empty) := by
  cases haccount : (port []).account mintConfig with
  | error e =>
      have hread := Run.execute_adapt_error GateError.resolve
        (Lookup.execute_cachedOver_of_failed (s := .empty) rfl
          (Lookup.execute_ask_of_error haccount))
      rw [execute_addExtraMetas_of_unread (Run.execute_bind_error hread)]
      exact .unread (fun a ha => nomatch haccount.symm.trans ha) rfl
  | ok a =>
      -- each case below that ends here has asked for nothing but the config
      have hlookup := Lookup.execute_first haccount
      have hread := execute_readMintConfig_of_read hlookup
      cases hconfig : a.readConfig mintConfig with
      | error e =>
          rw [hconfig] at hread
          rw [execute_addExtraMetas_of_unread hread]
          refine .unread (fun b hb hholds => ?_) rfl
          obtain rfl : b = a := Except.ok.inj (hb.symm.trans haccount)
          obtain ⟨c, hc⟩ := (Account.exists_readConfig_iff mintConfig).2 hholds
          cases hconfig.symm.trans hc
      | ok c =>
          rw [hconfig] at hread
          obtain ⟨hpresent, hmeans⟩ := Account.readConfig_eq_ok_iff.1 hconfig
          have hreads : port.Reads mintConfig a c := ⟨haccount, hpresent, hmeans⟩
          cases hallowed : op.allowedBy c with
          | false =>
              rw [execute_addExtraMetas_of_refused hread hallowed]
              exact .refused hreads hallowed rfl
          | true =>
              cases hgating : c.hasGatingProgram with
              | false =>
                  rw [execute_addExtraMetas_of_ungated hread hallowed hgating]
                  exact .ungated hreads hallowed hgating rfl
              | true =>
                  cases hdescriptor : op.descriptorAddress target.mint c.gatingProgram with
                  | error e =>
                      rw [execute_addExtraMetas_of_underived hread hallowed hgating hdescriptor]
                      exact .gated hreads hallowed hgating fun metas h => nomatch h
                  | ok found =>
                      obtain ⟨descriptor, bump⟩ := found
                      rw [execute_addExtraMetas hlookup hpresent
                        (MintConfig.decode_eq_ok_iff.2 hmeans) hallowed hgating hdescriptor]
                      refine .gated hreads hallowed hgating fun metas h => ⟨descriptor, ?_⟩
                      rcases hnested : (resolveNested (.cachedOver (.ask port)) descriptor
                        (gateRequest op target c.gatingProgram descriptor)).execute
                          (.afterFirst mintConfig a) with ⟨e | resolved, after⟩
                      · rw [hnested] at h
                        cases h
                      · rw [hnested] at h
                        cases h
                        exact Port.forwards_of_nested haccount hdescriptor hnested

namespace GateOutcome

variable {port : Port} {op : Operation} {mintConfig : Pubkey} {target : Target}
  {run : Except GateError (List Meta) × Session} {metas : List Meta} {a : Account}

theorem permits (h : GateOutcome port op mintConfig target run) (hrun : run.1 = .ok metas) :
    ∃ a, (port []).account mintConfig = .ok a ∧ a.Permits op := by
  cases h with
  | unread => cases hrun
  | refused => cases hrun
  | ungated hreads hallowed => exact ⟨_, hreads.account, (hreads.permits_iff op).2 hallowed⟩
  | gated hreads hallowed => exact ⟨_, hreads.account, (hreads.permits_iff op).2 hallowed⟩

theorem disabled (h : GateOutcome port op mintConfig target run)
    (ha : (port []).account mintConfig = .ok a) (hholds : a.HoldsConfig)
    (hzero : a.data[op.flagOffset]? = some 0) :
    ∃ mint : Pubkey, mint.bytes = (a.data.drop 1).take 32 ∧
      run.1 = .error (.disabled op mint) := by
  have hshut : ¬ a.Permits op := fun hpermits => hpermits.flag hzero
  cases h with
  | unread hconfig => exact absurd hholds (hconfig a ha)
  | refused hreads =>
      obtain rfl := hreads.eq_account ha
      exact ⟨_, hreads.means.mint, rfl⟩
  | ungated hreads hallowed =>
      obtain rfl := hreads.eq_account ha
      exact absurd ((hreads.permits_iff op).2 hallowed) hshut
  | gated hreads hallowed =>
      obtain rfl := hreads.eq_account ha
      exact absurd ((hreads.permits_iff op).2 hallowed) hshut

/-- A list for a gating program has its four accounts at least. -/
theorem forwards (h : GateOutcome port op mintConfig target run) (hrun : run.1 = .ok metas)
    (hne : metas ≠ []) :
    ∃ a gatingProgram descriptor, (port []).account mintConfig = .ok a ∧
      gatingProgram.bytes = (a.data.drop 65).take 32 ∧
      port.Forwards op mintConfig target gatingProgram descriptor metas ∧ 4 ≤ metas.length := by
  cases h with
  | unread => cases hrun
  | refused => cases hrun
  | ungated =>
      cases hrun
      exact absurd rfl hne
  | gated hreads _ _ hforwards =>
      obtain ⟨descriptor, hlist⟩ := hforwards metas hrun
      exact ⟨_, _, descriptor, hreads.account, hreads.means.gatingProgram, hlist,
        hlist.four_le_length⟩

theorem eq_nil_iff (h : GateOutcome port op mintConfig target run) :
    run.1 = .ok [] ↔ ∃ a, (port []).account mintConfig = .ok a ∧ a.Permits op ∧
      (a.data.drop 65).take 32 = List.replicate 32 0 := by
  constructor
  · intro hrun
    cases h with
    | unread => cases hrun
    | refused => cases hrun
    | ungated hreads hallowed hgating =>
        exact ⟨_, hreads.account, (hreads.permits_iff op).2 hallowed,
          hreads.means.hasGatingProgram_eq_false_iff.1 hgating⟩
    | gated _ _ _ hforwards =>
        obtain ⟨descriptor, hlist⟩ := hforwards [] hrun
        exact absurd hlist.four_le_length (by decide)
  · rintro ⟨a, ha, hpermits, hzero⟩
    cases h with
    | unread hconfig => exact absurd hpermits.toHoldsConfig (hconfig a ha)
    | refused hreads hallowed =>
        obtain rfl := hreads.eq_account ha
        rw [hreads.permits_iff, hallowed] at hpermits
        cases hpermits
    | ungated => rfl
    | gated hreads _ hgating =>
        obtain rfl := hreads.eq_account ha
        rw [← hreads.means.hasGatingProgram_eq_false_iff, hgating] at hzero
        cases hzero

theorem calls_eq (h : GateOutcome port op mintConfig target run)
    (hnone : ∀ a, (port []).account mintConfig = .ok a → a.Permits op →
      (a.data.drop 65).take 32 = List.replicate 32 0) :
    run.2.calls = [mintConfig] := by
  cases h with
  | unread _ hcalls => exact hcalls
  | refused _ _ hcalls => exact hcalls
  | ungated _ _ _ hcalls => exact hcalls
  | gated hreads hallowed hgating =>
      have hzero := hnone _ hreads.account ((hreads.permits_iff op).2 hallowed)
      rw [← hreads.means.hasGatingProgram_eq_false_iff, hgating] at hzero
      cases hzero

end GateOutcome

/-- **The gate is sound.** Whatever the ledger answers, and however its answers change:

* accounts are listed only if the mint's config exists and has the operation's own flag set;
* a config in which that flag is zero refuses the operation, whatever else it says;
* the list is empty iff the config allows the operation and names no gating program;
* any other list is what the operation's own descriptor calls for;
* unless the config allows the operation and names a gating program, the config is all that is
  asked for. -/
theorem addExtraMetas_sound (port : Port) (op : Operation) (mintConfig : Pubkey)
    (target : Target) :
    let run := (addExtraMetas (.cachedOver (.ask port)) op mintConfig target).execute .empty
    let config := (port []).account mintConfig
    (∀ metas, run.1 = .ok metas → ∃ a, config = .ok a ∧ a.Permits op) ∧
      (∀ a, config = .ok a → a.HoldsConfig → a.data[op.flagOffset]? = some 0 →
        ∃ mint : Pubkey, mint.bytes = (a.data.drop 1).take 32 ∧
          run.1 = .error (.disabled op mint)) ∧
      (run.1 = .ok [] ↔ ∃ a, config = .ok a ∧ a.Permits op ∧
        (a.data.drop 65).take 32 = List.replicate 32 0) ∧
      (∀ metas, run.1 = .ok metas → metas ≠ [] →
        ∃ a gatingProgram descriptor, config = .ok a ∧
          gatingProgram.bytes = (a.data.drop 65).take 32 ∧
          port.Forwards op mintConfig target gatingProgram descriptor metas ∧
          4 ≤ metas.length) ∧
      ((∀ a, config = .ok a → a.Permits op → (a.data.drop 65).take 32 = List.replicate 32 0) →
        run.2.calls = [mintConfig]) := by
  intro run config
  have houtcome := addExtraMetas_outcome port op mintConfig target
  exact ⟨fun _ => houtcome.permits, fun _ => houtcome.disabled, houtcome.eq_nil_iff,
    fun _ => houtcome.forwards, houtcome.calls_eq⟩

/-- A config that allows thawing and not freezing, and a gating program without a descriptor. Who
thaws is told the owner, the missing descriptor, and the program; who freezes is refused, and then
nothing but the config is asked for. -/
theorem addExtraMetas_sound_thaw_only :
    let key (n : UInt8) : Pubkey := ⟨List.replicate 32 n, List.length_replicate⟩
    let target : Target := ⟨key 1, key 2, key 3, key 4⟩
    let descriptor : Pubkey := ⟨[213, 50, 207, 253, 83, 105, 5, 252, 152, 141, 253, 225, 195, 157,
      74, 242, 20, 47, 5, 216, 2, 141, 230, 102, 24, 152, 190, 241, 254, 247, 143, 253], rfl⟩
    let config : MintConfig := ⟨key 3, key 7, key 9, 254, true, false⟩
    let account : Account := ⟨true, config.encode⟩
    let port : Port := fun _ address =>
      if address = key 1 then .ok (.account account) else .ok .missing
    let run (op : Operation) :=
      (addExtraMetas (.cachedOver (.ask port)) op (key 1) target).execute .empty
    let metas : List Meta := [key 4, descriptor, key 9, descriptor].map .readonly
    account.Permits .thaw ∧ (run .thaw).1 = .ok metas ∧
      port.Forwards .thaw (key 1) target (key 9) descriptor metas ∧
      account.HoldsConfig ∧ account.data[99]? = some 0 ∧
      (run .freeze).1 = .error (.disabled .freeze (key 3)) ∧ (run .freeze).2.calls = [key 1] := by
  intro key target descriptor config account port run metas
  have haccount : (port []).account (key 1) = .ok account := rfl
  have hconfig : MintConfig.decode config.encode = .ok config := by decide +kernel
  have hdescriptor : Operation.thaw.descriptorAddress target.mint config.gatingProgram
      = .ok (descriptor, 255) := by decide +kernel
  have hthaw : (run .thaw).1 = .ok metas := by
    show ((addExtraMetas _ _ _ _).execute _).1 = _
    rw [execute_addExtraMetas (Lookup.execute_first haccount) rfl hconfig rfl rfl hdescriptor]
    rfl
  obtain ⟨hopen, -, -, hlist, -⟩ := addExtraMetas_sound port .thaw (key 1) target
  obtain ⟨-, hrefused, -, -, hcalls⟩ := addExtraMetas_sound port .freeze (key 1) target
  obtain ⟨a, ha, hpermits⟩ := hopen metas hthaw
  obtain rfl : a = account := Except.ok.inj (ha.symm.trans haccount)
  have hzero : account.data[99]? = some 0 := by decide +kernel
  refine ⟨hpermits, hthaw, ?_, hpermits.toHoldsConfig, hzero, ?_, ?_⟩
  · obtain ⟨b, gating, found, hb, hgating, hforwards, -⟩ := hlist metas hthaw (by simp [metas])
    obtain rfl : b = account := Except.ok.inj (hb.symm.trans haccount)
    obtain rfl : gating = key 9 := Pubkey.eq_of_bytes_eq hgating
    obtain ⟨bump, hfound⟩ := hforwards.derived
    cases hfound.symm.trans hdescriptor
    exact hforwards
  · obtain ⟨mint, hmint, herror⟩ := hrefused account haccount hpermits.toHoldsConfig hzero
    obtain rfl : mint = key 3 := Pubkey.eq_of_bytes_eq hmint
    exact herror
  · exact hcalls fun b hb hallowed => by
      obtain rfl : b = account := Except.ok.inj (hb.symm.trans haccount)
      exact absurd hzero hallowed.flag

end ExtraMetas
