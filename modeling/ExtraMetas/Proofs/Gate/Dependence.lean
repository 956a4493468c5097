import ExtraMetas.Gate
import ExtraMetas.Proofs.Resolution.Dependence

/-!
# ExtraMetas.Proofs.Gate.Dependence

**What is appended to an instruction depends on the ledger only through the accounts that were
fetched.** The run in front of the gate reads the mint's config, which uses nothing but the content
of an account either, and then resolves behind a second cache. Both caches answer in lockstep where
the ledgers do, so the whole run does (`determinesRun_resolutions`).
-/

namespace ExtraMetas

section Gate

variable {A : Pubkey → Prop} {lookup₁ lookup₂ : Lookup}

theorem Lookup.Lockstep.readMintConfig (h : Lookup.Lockstep A lookup₁ lookup₂)
    (address : Pubkey) :
    Run.Lockstep A id (ExtraMetas.readMintConfig lookup₁ address)
      (ExtraMetas.readMintConfig lookup₂ address) := by
  refine (h address).adapt.bind fun a b hab => ?_
  obtain ⟨hpresent, hdata⟩ := Account.content?_eq_iff.1 hab
  rw [← hpresent]
  cases ha : a.present with
  | false => exact .throw _
  | true =>
      rw [hdata ha]
      exact .lift _ _

theorem Lookup.Lockstep.resolveNested (h : Lookup.Lockstep A lookup₁ lookup₂)
    (descriptor : Pubkey) (request : Request) :
    Run.Lockstep A id (ExtraMetas.resolveNested lookup₁ descriptor request)
      (ExtraMetas.resolveNested lookup₂ descriptor request) :=
  (h.outside.cachedOver.resolveExtraMetas descriptor request).withOwnCache

theorem Lookup.Lockstep.addExtraMetas (h : Lookup.Lockstep A lookup₁ lookup₂) (op : Operation)
    (mintConfig : Pubkey) (target : Target) :
    Run.Lockstep A id (ExtraMetas.addExtraMetas lookup₁ op mintConfig target)
      (ExtraMetas.addExtraMetas lookup₂ op mintConfig target) := by
  refine (h.readMintConfig mintConfig).bind fun config config' (hconfig : config = config') => ?_
  subst hconfig
  cases op.allowedBy config with
  | false => exact .throw _
  | true =>
      cases config.hasGatingProgram with
      | false => exact (Run.Lockstep.report _).bind fun _ _ _ => .pure rfl
      | true =>
          refine (Run.Lockstep.lift _ _).bind fun found found' (hfound : found = found') => ?_
          subst hfound
          refine (h.resolveNested _ _).adapt.bind fun metas metas' (hmetas : metas = metas') => ?_
          subst hmetas
          exact .pure rfl

end Gate

/-- **A run depends on the ledger only through the accounts that it fetched.** A resolution, and the
run in front of the gate for either operation, come to the same over two ledgers that are alike at
each address which the run over the first one asks for: to the same result or the same error, with
the same addresses asked for. How a ledger describes an account makes no difference, nor does data
that comes with an account which does not exist. -/
theorem determinesRun_resolutions :
    (∀ descriptor request, Ledger.DeterminesRun fun ledger =>
        (resolveExtraMetas (.cached ledger) descriptor request).execute .empty) ∧
      ∀ op mintConfig target, Ledger.DeterminesRun fun ledger =>
        (addExtraMetas (.cached ledger) op mintConfig target).execute .empty := by
  constructor
  · intro descriptor request p q hfetched
    exact ((Lookup.Lockstep.cached p q).resolveExtraMetas descriptor request).eq_of_empty hfetched
  · intro op mintConfig target p q hfetched
    exact ((Lookup.Lockstep.cached p q).addExtraMetas op mintConfig target).eq_of_empty hfetched

/-- Two ledgers, one with the config's bytes and a descriptor that does not exist but comes with
data, the other with a description of the config and no descriptor. At every other address the one
fails and the other has an empty account. -/
theorem determinesRun_resolutions_described_config :
    let key (n : UInt8) : Pubkey := ⟨List.replicate 32 n, List.length_replicate⟩
    let target : Target := ⟨key 1, key 2, key 3, key 4⟩
    let descriptor : Pubkey := ⟨[213, 50, 207, 253, 83, 105, 5, 252, 152, 141, 253, 225, 195, 157,
      74, 242, 20, 47, 5, 216, 2, 141, 230, 102, 24, 152, 190, 241, 254, 247, 143, 253], rfl⟩
    let config : MintConfig := ⟨key 3, key 7, key 9, 254, true, false⟩
    let p : Ledger := fun address =>
      if address = key 1 then .ok (.raw config.encode)
      else if address = descriptor then .ok (.account ⟨false, [1, 2, 3]⟩)
      else .error ⟨"ConnectionError", "node unavailable"⟩
    let q : Ledger := fun address =>
      if address = key 1 then .ok (.described "dict" none (some (.bytes config.encode)))
      else if address = descriptor then .ok .missing else .ok (.raw [])
    let gate (ledger : Ledger) :=
      (addExtraMetas (.cached ledger) .thaw (key 1) target).execute .empty
    let request : Request := ⟨[.ofMeta (.readonly (key 1))], [], key 9, none⟩
    let resolution (ledger : Ledger) :=
      (resolveExtraMetas (.cached ledger) descriptor request).execute .empty
    (gate p).2.calls = [key 1, descriptor] ∧ p.AlikeAt q (key 1) ∧ p.AlikeAt q descriptor ∧
      (gate q).1 = (gate p).1 ∧ (gate q).2.calls = [key 1, descriptor] ∧
      (resolution q).1 = (resolution p).1 ∧ (resolution q).2.calls = [descriptor] := by
  intro key target descriptor config p q gate request resolution
  have hconfig : p.AlikeAt q (key 1) := .found rfl rfl rfl rfl rfl
  have hdescriptor : p.AlikeAt q descriptor := .missing rfl rfl rfl rfl
  have hgate : (gate p).2.calls = [key 1, descriptor] := by decide +kernel
  have hresolution : (resolution p).2.calls = [descriptor] := rfl
  have hgateAlike : ∀ address ∈ (gate p).2.calls, p.AlikeAt q address := by
    rw [hgate]
    exact List.forall_mem_cons.2 ⟨hconfig, List.forall_mem_singleton.2 hdescriptor⟩
  have hresolutionAlike : ∀ address ∈ (resolution p).2.calls, p.AlikeAt q address := by
    rw [hresolution]
    exact List.forall_mem_singleton.2 hdescriptor
  obtain ⟨hresolutions, hgates⟩ := determinesRun_resolutions
  have hgateRun : Ledger.DeterminesRun gate := hgates .thaw (key 1) target
  have hresolutionRun : Ledger.DeterminesRun resolution := hresolutions descriptor request
  obtain ⟨hgateOutcome, hgateCalls, -⟩ := hgateRun p q hgateAlike
  obtain ⟨houtcome, hcalls, -⟩ := hresolutionRun p q hresolutionAlike
  exact ⟨hgate, hconfig, hdescriptor, hgateOutcome, hgateCalls.trans hgate, houtcome,
    hcalls.trans hresolution⟩

end ExtraMetas
