import ExtraMetas.Gate
import ExtraMetas.Proofs.Resolution.Agreement
import ExtraMetas.Proofs.Resolution.Fetches

/-!
# ExtraMetas.Proofs.Gate.Nesting

**What is appended to an instruction is what the gating program's check needs.** The accounts to
append are found by a run that reads the mint's config first and then resolves the check's accounts
behind a second cache. Anybody may resolve the same accounts directly, from the public parts: the
address of the descriptor, and the accounts and the data of the check. Both come to the same
(`addExtraMetas_eq_direct`).

The proof is a simulation. `NestedSession` relates the session of the nested resolution to that of
the direct one: the outer cache knows the config's account and what the direct run fetched, and what
was asked of the ledger is the config's address and what the direct run asked for beside it.
-/

namespace ExtraMetas

/-- The session of a resolution behind a cache, beside that of a direct one. The outer cache had the
account `a` at `config` before. -/
structure NestedSession (config : Pubkey) (a : Account) (nested direct : Session) : Prop where
  own : nested.accounts = direct.accounts
  outer : ∀ address,
    nested.leave.find? address = if address = config then some a else direct.find? address
  calls : nested.calls = config :: direct.calls.filter (· ≠ config)

namespace NestedSession

variable {config address : Pubkey} {a b : Account} {nested direct : Session}

/-- The nested run begins when the config was fetched, and nothing else. -/
theorem start (config : Pubkey) (a : Account) :
    NestedSession config a ((Session.empty.addCall config).addAccount config a).enter .empty where
  own := rfl
  outer := fun address => Session.find?_addAccount _ config address a
  calls := rfl

theorem find?_eq (h : NestedSession config a nested direct) (address : Pubkey) :
    nested.find? address = direct.find? address := by
  rw [Session.find?, Session.find?, h.own]

/-- The direct run asks for the config, which the nested one finds in the outer cache. -/
theorem fetchConfig (h : NestedSession config a nested direct) :
    NestedSession config a ((nested.leave.reenter nested.accounts).addAccount config a)
      ((direct.addCall config).addAccount config a) where
  own := congrArg ((config, a) :: ·) h.own
  outer := by
    intro address
    show nested.leave.find? address = _
    rw [h.outer, Session.find?_addAccount]
    by_cases haddress : address = config
    · rw [if_pos haddress, if_pos haddress]
    · rw [if_neg haddress, if_neg haddress, if_neg haddress]
      rfl
  calls := by
    show nested.calls = config :: (direct.calls ++ [config]).filter (· ≠ config)
    rw [h.calls, List.filter_append, List.filter_cons_of_neg (by simp), List.filter_nil,
      List.append_nil]

/-- Both runs ask for an address that neither knows. -/
theorem addCall (h : NestedSession config a nested direct) (hne : address ≠ config) :
    NestedSession config a ((nested.leave.addCall address).reenter nested.accounts)
      (direct.addCall address) where
  own := h.own
  outer := h.outer
  calls := by
    show nested.calls ++ [address] = config :: (direct.calls ++ [address]).filter (· ≠ config)
    rw [h.calls, List.filter_append, List.filter_cons_of_pos (by simpa using hne), List.filter_nil,
      List.cons_append]

/-- Both runs, and the outer cache, keep an account that was fetched. -/
theorem addAccount (h : NestedSession config a nested direct) (hne : address ≠ config) :
    NestedSession config a
      (((nested.leave.addAccount address b).reenter nested.accounts).addAccount address b)
      (direct.addAccount address b) where
  own := congrArg ((address, b) :: ·) h.own
  outer := by
    intro other
    show (nested.leave.addAccount address b).find? other = _
    rw [Session.find?_addAccount, Session.find?_addAccount, h.outer]
    by_cases hother : other = address
    · rw [if_pos hother, if_pos hother, if_neg (hother ▸ hne)]
    · rw [if_neg hother, if_neg hother]
  calls := h.calls

end NestedSession

/-! ### One lookup -/

/-- A lookup behind a cache that has the config's account, beside a direct one. -/
theorem Lookup.agree_nested {ledger : Ledger} {config : Pubkey} {a : Account}
    (hconfig : ledger.account config = .ok a) :
    Lookup.Agree (NestedSession config a) (.cachedOver (Lookup.cached ledger).outside)
      (.cached ledger) where
  lookup := by
    intro address nested direct h
    -- both runs know the same accounts, so they go on to the outer cache and the ledger together
    cases hdirect : direct.find? address with
    | some b =>
        have hnested : nested.find? address = some b := by rw [h.find?_eq, hdirect]
        rw [Lookup.execute_cachedOver_of_found hnested, Lookup.execute_cached_of_found hdirect]
        exact ⟨rfl, h⟩
    | none =>
        have hnested : nested.find? address = none := by rw [h.find?_eq, hdirect]
        have houter := h.outer address
        by_cases haddress : address = config
        · subst haddress
          rw [if_pos rfl] at houter
          have hkept : ((Lookup.cached ledger).outside address).execute nested
              = (.ok a, nested.leave.reenter nested.accounts) :=
            Lookup.execute_outside (Lookup.execute_cached_of_found houter)
          rw [Lookup.execute_cachedOver_of_fetched hnested hkept,
            Lookup.execute_cached_of_fetched hdirect hconfig]
          exact ⟨rfl, h.fetchConfig⟩
        · -- the outer cache does not have it either, so both ask the ledger
          rw [if_neg haddress, hdirect] at houter
          cases haccount : ledger.account address with
          | ok b =>
              have hfetched := Lookup.execute_outside
                (Lookup.execute_cached_of_fetched houter haccount)
              rw [Lookup.execute_cachedOver_of_fetched hnested hfetched,
                Lookup.execute_cached_of_fetched hdirect haccount]
              exact ⟨rfl, (h.addCall haddress).addAccount haddress⟩
          | error refusal =>
              have hfailed := Lookup.execute_outside
                (Lookup.execute_cached_of_failed houter haccount)
              rw [Lookup.execute_cachedOver_of_failed hnested hfailed,
                Lookup.execute_cached_of_failed hdirect haccount]
              exact ⟨rfl, h.addCall haddress⟩
  report := fun _ _ _ h => ⟨h.own, h.outer, h.calls⟩

/-! ### The two runs -/

/-- What is appended for the accounts of a check that were resolved: those that the instruction does
not carry itself, the gating program, and its descriptor. -/
def appended (gatingProgram descriptor : Pubkey) :
    Except ResolveError (List Meta) → Except GateError (List Meta)
  | .ok metas => .ok (metas.drop 3 ++ [.readonly gatingProgram, .readonly descriptor])
  | .error e => .error (.resolve e)

section Gate

variable {lookup : Lookup} {op : Operation} {mintConfig : Pubkey} {target : Target}
  {account : Account} {config : MintConfig} {descriptor : Pubkey} {bump : UInt8} {s t : Session}

theorem execute_readMintConfig (haccount : (lookup mintConfig).execute s = (.ok account, t))
    (hpresent : account.present = true) (hconfig : MintConfig.decode account.data = .ok config) :
    (readMintConfig lookup mintConfig).execute s = (.ok config, t) := by
  rw [readMintConfig, Run.execute_bind_ok (Run.execute_adapt_ok _ haccount), hpresent, if_pos rfl,
    hconfig]
  rfl

/-- With a config that allows the operation and names a gating program, the run is a nested
resolution of that program's check. -/
theorem execute_addExtraMetas (haccount : (lookup mintConfig).execute s = (.ok account, t))
    (hpresent : account.present = true) (hconfig : MintConfig.decode account.data = .ok config)
    (hallowed : op.allowedBy config = true) (hgating : config.hasGatingProgram = true)
    (hdescriptor : op.descriptorAddress target.mint config.gatingProgram
      = .ok (descriptor, bump)) :
    (addExtraMetas lookup op mintConfig target).execute s
      = let nested := (resolveNested lookup descriptor
          (gateRequest op target config.gatingProgram descriptor)).execute t
        (appended config.gatingProgram descriptor nested.1, nested.2) := by
  rw [Operation.descriptorAddress] at hdescriptor
  rw [addExtraMetas, Run.execute_bind_ok (execute_readMintConfig haccount hpresent hconfig),
    hallowed, hgating, Bool.not_true, if_neg Bool.false_ne_true, if_neg Bool.false_ne_true]
  dsimp only
  rw [hdescriptor, Run.execute_bind_ok (Run.execute_lift_ok _ _ _)]
  dsimp only
  rcases hnested : (resolveNested lookup descriptor
    (gateRequest op target config.gatingProgram descriptor)).execute t with ⟨e | metas, after⟩
  · rw [Run.execute_bind_error (Run.execute_adapt_error _ hnested)]
    rfl
  · rw [Run.execute_bind_ok (Run.execute_adapt_ok _ hnested)]
    rfl

end Gate

/-- **A nested resolution is a direct one.** The accounts to append to an instruction are those that
the gating program's check needs, as a resolution gives them that is asked for the public parts of
that check and goes to the ledger itself; where that resolution fails, so does the run, with its
error. The ledger is asked for the config and then for what that resolution asks for beside it, each
address once. -/
theorem addExtraMetas_eq_direct (ledger : Ledger) (op : Operation) (mintConfig : Pubkey)
    (target : Target) {account : Account} {config : MintConfig} {descriptor : Pubkey} {bump : UInt8}
    (haccount : ledger.account mintConfig = .ok account) (hpresent : account.present = true)
    (hconfig : MintConfig.decode account.data = .ok config)
    (hallowed : op.allowedBy config = true) (hgating : config.hasGatingProgram = true)
    (hdescriptor : op.descriptorAddress target.mint config.gatingProgram
      = .ok (descriptor, bump)) :
    let base := (check op target descriptor).1
    let data := (check op target descriptor).2
    let direct := Port.resolution (fun _ => ledger) descriptor
      ⟨base.map .ofMeta, data, config.gatingProgram, some [data]⟩
    let run := (addExtraMetas (.cached ledger) op mintConfig target).execute .empty
    run.1 = appended config.gatingProgram descriptor direct.1 ∧
      run.2.calls = mintConfig :: direct.2.calls.filter (· ≠ mintConfig) ∧
      run.2.calls.Nodup := by
  intro base data direct run
  have hfetched : (Lookup.cached ledger mintConfig).execute .empty
      = (.ok account, (Session.empty.addCall mintConfig).addAccount mintConfig account) :=
    Lookup.execute_cached_of_fetched rfl haccount
  have hrun := execute_addExtraMetas hfetched hpresent hconfig hallowed hgating hdescriptor
  rw [resolveNested, Run.execute_withOwnCache] at hrun
  obtain ⟨houtcome, hsessions⟩ := (Lookup.agree_nested haccount).resolveExtraMetas descriptor
    (gateRequest op target config.gatingProgram descriptor) _ _ (.start mintConfig account)
  have hcalls : run.2.calls = mintConfig :: direct.2.calls.filter (· ≠ mintConfig) := by
    rw [show run = _ from hrun]
    exact hsessions.calls
  refine ⟨?_, hcalls, ?_⟩
  · rw [show run = _ from hrun]
    exact congrArg (appended config.gatingProgram descriptor) houtcome
  · have hbase : ∀ m ∈ base.map MetaLike.ofMeta, m.isMeta = true := by
      intro m hm
      obtain ⟨a, -, rfl⟩ := List.mem_map.1 hm
      rfl
    have hnodup : direct.2.calls.Nodup := Port.nodup_calls_resolution _ _ hbase
    rw [hcalls, List.nodup_cons]
    refine ⟨fun hmem => ?_, hnodup.filter _⟩
    exact absurd rfl (of_decide_eq_true (List.mem_filter.1 hmem).2)

/-- The check's first account is the config itself, and the only entry reads its key from there:
the mint of the config. The account was in the outer cache, so the ledger is asked for the config
and the descriptor only. -/
theorem addExtraMetas_eq_direct_entry_reads_config :
    let key (n : UInt8) : Pubkey := ⟨List.replicate 32 n, List.length_replicate⟩
    let target : Target := ⟨key 1, key 2, key 3, key 4⟩
    let descriptor : Pubkey := ⟨[213, 50, 207, 253, 83, 105, 5, 252, 152, 141, 253, 225, 195, 157,
      74, 242, 20, 47, 5, 216, 2, 141, 230, 102, 24, 152, 190, 241, 254, 247, 143, 253], rfl⟩
    let config : MintConfig := ⟨key 3, key 7, key 9, 254, true, false⟩
    let content : Bytes := Operation.thaw.discriminator ++ [39, 0, 0, 0, 1, 0, 0, 0]
      ++ [2, 2, 0, 1] ++ List.replicate 29 0 ++ [0, 0]
    let ledger : Ledger := fun address =>
      if address = key 1 then .ok (.raw config.encode) else .ok (.raw content)
    let run := (addExtraMetas (.cached ledger) .thaw (key 1) target).execute .empty
    ledger.account (key 1) = .ok ⟨true, config.encode⟩ ∧
      MintConfig.decode config.encode = .ok config ∧ Operation.thaw.allowedBy config = true ∧
      config.hasGatingProgram = true ∧
      Operation.thaw.descriptorAddress target.mint config.gatingProgram
        = .ok (descriptor, 255) ∧
      run.1.toOption = some ([key 4, descriptor, key 3, key 9, descriptor].map .readonly) ∧
      run.2.calls = [key 1, descriptor] := by
  intro key target descriptor config content ledger run
  have haccount : ledger.account (key 1) = .ok ⟨true, config.encode⟩ := rfl
  have hconfig : MintConfig.decode config.encode = .ok config := by decide +kernel
  have hdescriptor : Operation.thaw.descriptorAddress target.mint config.gatingProgram
      = .ok (descriptor, 255) := by decide +kernel
  obtain ⟨houtcome, hcalls, -⟩ := addExtraMetas_eq_direct ledger .thaw (key 1) target haccount rfl
    hconfig rfl rfl hdescriptor
  refine ⟨haccount, hconfig, rfl, rfl, hdescriptor, ?_, ?_⟩
  · rw [houtcome]
    decide +kernel
  · rw [hcalls]
    decide +kernel

end ExtraMetas
