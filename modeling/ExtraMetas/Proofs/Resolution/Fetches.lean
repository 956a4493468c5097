import ExtraMetas.Proofs.Resolution.Causality
import ExtraMetas.Proofs.Resolution.ErrorKinds
import ExtraMetas.Proofs.Resolution.Inquiry
import Mathlib.Data.List.Nodup

/-!
# ExtraMetas.Proofs.Resolution.Fetches

What a resolution asks its ledger for, however it ends: **the descriptor first, then only accounts
whose data an entry names, and no address twice** (`resolveExtraMetas_fetches`).

* As long as nothing failed, the cache has the account of every address that the ledger was asked
  for (`Session.FetchedOnce`), so only an address that is new is asked for next; and a fetch that
  fails is the last one of its run.
* An entry asks only for accounts that it names among those known in front of it
  (`Entry.isInquiry`), so a run over the entries does (`exists_calls_resolveEntries`). Where there
  are no entries to resolve, nothing is asked for after the descriptor.
-/

namespace ExtraMetas

/-- No address was asked for twice, and the account of each is known. -/
structure Session.FetchedOnce (s : Session) : Prop where
  nodup : s.calls.Nodup
  isSome_of_mem : ∀ address ∈ s.calls, (s.find? address).isSome = true

/-- An address that is not known was not asked for, so it may be asked for now. -/
theorem Session.FetchedOnce.nodup_addCall {s : Session} (h : s.FetchedOnce) {address : Pubkey}
    (hnew : s.find? address = none) : (s.addCall address).calls.Nodup := by
  have hmem : address ∉ s.calls := by
    intro hmem
    have hsome := h.isSome_of_mem address hmem
    rw [hnew] at hsome
    cases hsome
  show (s.calls ++ [address]).Nodup
  rw [← List.concat_eq_append]
  exact List.Nodup.concat hmem h.nodup

theorem Session.FetchedOnce.addAccount {s : Session} (h : s.FetchedOnce) {address : Pubkey}
    (hnew : s.find? address = none) (a : Account) :
    ((s.addCall address).addAccount address a).FetchedOnce := by
  refine ⟨h.nodup_addCall hnew, fun other hother => ?_⟩
  -- what was asked for before is still known, and the last address is known now
  rw [Session.find?_addAccount]
  by_cases heq : other = address
  · rw [if_pos heq]
    rfl
  · rw [if_neg heq]
    rcases List.mem_append.1 hother with hold | hlast
    · exact h.isSome_of_mem other hold
    · exact absurd (List.mem_singleton.1 hlast) heq

theorem Lookup.keeps_fetchedOnce (port : Port) :
    (Lookup.cachedOver (.ask port)).Keeps Session.FetchedOnce fun _ s => s.calls.Nodup where
  lookup := by
    intro address
    refine Lookup.triple_cachedOver_ask (fun _ _ h _ => h) ?_ ?_
    · intro s a h hs _
      exact h.addAccount hs a
    · intro s refusal h hs _
      exact h.nodup_addCall hs
  own := fun _ _ _ h => h.nodup
  report := fun _ _ h => ⟨h.nodup, h.isSome_of_mem⟩

/-- Whatever the ledger answers, and however the run ends, it is asked for no address twice. -/
theorem Port.nodup_calls_resolution (port : Port) (descriptor : Pubkey) {request : Request}
    (hbase : ∀ m ∈ request.baseMetas, m.isMeta = true) :
    (port.resolution descriptor request).2.calls.Nodup := by
  have hstart : Session.empty.FetchedOnce := ⟨List.nodup_nil, fun _ h => nomatch h⟩
  have hends := (Lookup.keeps_fetchedOnce port).resolveExtraMetas descriptor hbase .empty hstart
  rw [← Port.resolution] at hends
  rcases hrun : port.resolution descriptor request with ⟨e | metas, s⟩
  · rw [hrun] at hends
    exact hends
  · rw [hrun] at hends
    exact hends.nodup

/-! ### Which addresses -/

/-- An entry that is being resolved adds only addresses to those asked for that it names. -/
theorem Entry.exists_calls {lookup : Lookup} (hlookup : lookup.AsksOnly) (entry : Entry)
    (scope : Scope) (program : Pubkey) (s : Session) :
    ∃ new, ((entry.toDraft.resolveEntry lookup scope program).execute s).2.calls = s.calls ++ new ∧
      ∀ a ∈ new, scope.known.Names entry.address.dataAccounts a := by
  obtain ⟨i, hi, hrun⟩ := entry.isInquiry scope program
  have hrun : entry.toDraft.resolveEntry lookup scope program = i.run lookup := hrun lookup
  rw [hrun]
  exact i.exists_calls hlookup hi s

/-- Each address that a run over the entries asks for is named by one of them, among the accounts
known when that entry is resolved. -/
theorem exists_calls_resolveEntries {lookup : Lookup} (hlookup : lookup.AsksOnly)
    (instructionData : Bytes) (program : Pubkey) (known : Known Meta) (entries : List Entry)
    (s : Session) :
    ∃ new, ((resolveEntries lookup instructionData program known entries).execute s).2.calls
        = s.calls ++ new ∧
      ∀ a ∈ new, ∃ i entry seen before, entries[i]? = some entry ∧
        (resolveEntries lookup instructionData program known (entries.take i)).execute s
          = (.ok seen, before) ∧ seen.Names entry.address.dataAccounts a := by
  induction entries generalizing known s with
  | nil => exact ⟨[], (List.append_nil _).symm, fun _ ha => nomatch ha⟩
  | cons entry rest ih =>
      obtain ⟨new, hcalls, hnew⟩ := entry.exists_calls hlookup ⟨known, instructionData⟩ program s
      -- what the first entry asks for, it names among the accounts known at first
      have hfirst : ∀ a ∈ new, ∃ i entry' seen before, (entry :: rest)[i]? = some entry' ∧
          (resolveEntries lookup instructionData program known ((entry :: rest).take i)).execute s
            = (.ok seen, before) ∧ seen.Names entry'.address.dataAccounts a :=
        fun a ha => ⟨0, entry, known, s, rfl, rfl, hnew a ha⟩
      rcases hentry : (entry.toDraft.resolveEntry lookup ⟨known, instructionData⟩ program).execute s
        with ⟨e | m, t⟩
      · rw [hentry] at hcalls
        rw [resolveEntries, Run.execute_bind_error hentry]
        exact ⟨new, hcalls, hfirst⟩
      · rw [hentry] at hcalls
        have hstep (entries' : List Entry) :
            (resolveEntries lookup instructionData program known (entry :: entries')).execute s
              = (resolveEntries lookup instructionData program (known.push m) entries').execute
                  (t.addReport (.resolved known.size m)) := by
          rw [resolveEntries, Run.execute_bind_ok hentry,
            Run.execute_bind_ok (Run.execute_report _ _)]
        obtain ⟨later, hlater, hnames⟩ := ih (known.push m) (t.addReport (.resolved known.size m))
        refine ⟨new ++ later, ?_, fun a ha => (List.mem_append.1 ha).elim (hfirst a) fun ha => ?_⟩
        · rw [hstep, hlater, ← List.append_assoc, ← hcalls]
          rfl
        · obtain ⟨i, entry', seen, before, hi, hbefore, hseen⟩ := hnames a ha
          exact ⟨i + 1, entry', seen, before, hi, by rw [List.take_succ_cons, hstep, hbefore],
            hseen⟩

/-- An entry of the descriptor names the address among the accounts known in front of its own, as
that of an account whose data it is made from. -/
def Port.Needs (port : Port) (descriptor : Pubkey) (request : Request) (address : Pubkey) : Prop :=
  ∃ account entries base i entry known before,
    (port []).account descriptor = .ok account ∧
    account.entries request.accepted = .ok entries ∧
    Known.ofMetas request.baseMetas = .ok base ∧ entries[i]? = some entry ∧
    port.resolvedBefore descriptor request account base entries i = (.ok known, before) ∧
    known.Names entry.address.dataAccounts address

/-- What the ledger is asked for in one resolution. -/
structure Port.Fetches (port : Port) (descriptor : Pubkey) (request : Request)
    (calls : List Pubkey) : Prop where
  first : calls.head? = some descriptor
  nodup : calls.Nodup
  needed : ∀ address ∈ calls.tail, port.Needs descriptor request address
  alone : ∀ account, (port []).account descriptor = .ok account →
    (account.present = false ∨ ∃ e, Descriptor.decode account.data request.accepted = .error e) →
    calls = [descriptor]

section Resolution

variable {port : Port} {descriptor : Pubkey} {request : Request} {account : Account}
  {base : Known Meta}

/-- A descriptor account that is refused ends the resolution before anything else is asked for. -/
theorem Port.resolution_of_malformed (hbase : Known.ofMetas request.baseMetas = .ok base)
    (haccount : (port []).account descriptor = .ok account) {e : DecodeError}
    (hentries : account.entries request.accepted = .error e) :
    port.resolution descriptor request = (.error (.malformed e),
      (Session.empty.addCall descriptor).addAccount descriptor account) := by
  have hlookup := Lookup.execute_cachedOver_of_fetched (s := .empty) rfl
    (Lookup.execute_ask_of_ok haccount)
  rw [Port.resolution, resolveExtraMetas, hbase, Run.execute_bind_ok (Run.execute_lift_ok _ _ _),
    Run.execute_bind_ok hlookup]
  rw [Account.entries] at hentries
  cases hpresent : account.present with
  | false =>
      rw [hpresent, if_neg Bool.false_ne_true] at hentries
      cases hentries
  | true =>
      rw [hpresent, if_pos rfl, Except.map_eq_error_iff] at hentries
      rw [if_pos rfl, hentries]
      rfl

theorem Port.calls_resolution (port : Port) (descriptor : Pubkey)
    (hbase : Known.ofMetas request.baseMetas = .ok base) :
    ∃ new, (port.resolution descriptor request).2.calls = descriptor :: new ∧
      ∀ address ∈ new, port.Needs descriptor request address := by
  cases haccount : (port []).account descriptor with
  | error e =>
      have hlookup := Lookup.execute_cachedOver_of_failed (s := .empty) rfl
        (Lookup.execute_ask_of_error haccount)
      rw [Port.resolution, resolveExtraMetas, hbase,
        Run.execute_bind_ok (Run.execute_lift_ok _ _ _), Run.execute_bind_error hlookup]
      exact ⟨[], rfl, fun _ ha => (List.not_mem_nil ha).elim⟩
  | ok account =>
      cases hentries : account.entries request.accepted with
      | error e =>
          rw [Port.resolution_of_malformed hbase haccount hentries]
          exact ⟨[], rfl, fun _ ha => (List.not_mem_nil ha).elim⟩
      | ok entries =>
          obtain ⟨new, hcalls, hnew⟩ := exists_calls_resolveEntries
            (Lookup.asksOnly_ask port).cachedOver request.instructionData request.program base
            entries (.described descriptor account entries.length)
          refine ⟨new, ?_, fun address haddress => ?_⟩
          · rw [Port.resolution_eq hbase haccount hentries]
            rcases hrun : (resolveEntries (.cachedOver (.ask port)) request.instructionData
              request.program base entries).execute
                (.described descriptor account entries.length) with ⟨e | known, s⟩
            · rw [hrun] at hcalls
              rw [Run.execute_bind_error hrun]
              exact hcalls
            · rw [hrun] at hcalls
              rw [Run.execute_bind_ok hrun]
              exact hcalls
          · obtain ⟨i, entry, known, before, hi, hbefore, hnames⟩ := hnew address haddress
            exact ⟨account, entries, base, i, entry, known, before, haccount, hentries, hbase, hi,
              hbefore, hnames⟩

/-- Nothing is needed for a descriptor without entries. -/
theorem Port.not_needs (haccount : (port []).account descriptor = .ok account)
    (h : account.present = false ∨
      ∃ e, Descriptor.decode account.data request.accepted = .error e) (address : Pubkey) :
    ¬ port.Needs descriptor request address := by
  rintro ⟨account', entries, base, i, entry, known, before, haccount', hentries, -, hi, -, -⟩
  obtain rfl : account' = account := Except.ok.inj (haccount'.symm.trans haccount)
  rw [Account.entries] at hentries
  rcases h with hpresent | ⟨e, hdecode⟩
  · rw [hpresent, if_neg Bool.false_ne_true] at hentries
    cases hentries
    cases hi
  · rw [hdecode] at hentries
    split at hentries
    · cases hentries
    · cases hentries
      cases hi

end Resolution

/-- **The ledger is asked for what is needed, once.** Whatever it answers, and however the
resolution ends: the descriptor is asked for first; every other address is that of an account that
was known when an entry was resolved which names it for its data; no address is asked for twice; and
if the descriptor account is missing or refused, were it for its last entry, nothing else is asked
for. Where one of the base accounts is no account meta, nothing is asked for at all. -/
theorem resolveExtraMetas_fetches (port : Port) (descriptor : Pubkey) (request : Request) :
    let calls := (port.resolution descriptor request).2.calls
    ((∀ m ∈ request.baseMetas, m.isMeta = true) → port.Fetches descriptor request calls) ∧
      ((∃ m ∈ request.baseMetas, m.isMeta = false) → calls = []) := by
  intro calls
  constructor
  · intro hmetas
    obtain ⟨base, hbase⟩ := Known.exists_ofMetas hmetas
    obtain ⟨new, hcalls, hnew⟩ := port.calls_resolution descriptor hbase
    have hcalls : calls = descriptor :: new := hcalls
    refine ⟨by rw [hcalls]; rfl, port.nodup_calls_resolution descriptor hmetas, ?_, ?_⟩
    · rw [hcalls]
      exact hnew
    · intro account haccount hnone
      cases new with
      | nil => exact hcalls
      | cons address rest =>
          exact absurd (hnew address List.mem_cons_self) (Port.not_needs haccount hnone address)
  · rintro ⟨m, hm, hother⟩
    cases hbase : Known.ofMetas request.baseMetas with
    | error e =>
        show (port.resolution descriptor request).2.calls = []
        rw [Port.resolution, resolveExtraMetas, hbase]
        rfl
    | ok base =>
        obtain ⟨a, ha⟩ := exists_forall₂_iff.1 ⟨_, Known.forall₂_of_ofMetas hbase⟩ m hm
        cases m with
        | ofMeta m => cases hother
        | ofFlagged m => cases hother
        | other v => cases ha

set_option maxRecDepth 4000 in
/-- Two entries that read their keys from the second base account and from the account of the first
entry: both are asked for after the descriptor, although the base accounts are one and the same. With
a last entry of an unknown tag the descriptor is all that is asked for. -/
theorem resolveExtraMetas_fetches_last_entry :
    let data (tag : UInt8) : Bytes := List.replicate 8 0 ++ [74, 0, 0, 0, 2, 0, 0, 0]
      ++ ([2, 2, 1, 0] ++ List.replicate 29 7 ++ [0, 1])
      ++ ([tag, 2, 2, 0] ++ List.replicate 29 7 ++ [1, 0])
    let port (tag : UInt8) : Port := fun _ _ => .ok (.raw (data tag))
    let descriptor : Pubkey := ⟨List.replicate 32 1, rfl⟩
    let first : Pubkey := ⟨(data 2).take 32, rfl⟩
    let request : Request :=
      ⟨[.ofMeta (.readonly .zero), .ofFlagged ⟨.zero, true, false⟩], [], .zero, none⟩
    let calls (tag : UInt8) := ((port tag).resolution descriptor request).2.calls
    calls 2 = [descriptor, .zero, first] ∧ (port 2).Fetches descriptor request (calls 2) ∧
      calls 3 = [descriptor] := by
  intro data port descriptor first request calls
  have hmetas : ∀ m ∈ request.baseMetas, m.isMeta = true := by decide
  have hdecode : ∃ e, Descriptor.decode (data 3) request.accepted = .error e := ⟨_, rfl⟩
  obtain ⟨hread, -⟩ := resolveExtraMetas_fetches (port 2) descriptor request
  obtain ⟨hrefused, -⟩ := resolveExtraMetas_fetches (port 3) descriptor request
  exact ⟨rfl, hread hmetas, (hrefused hmetas).alone ⟨true, data 3⟩ rfl (.inr hdecode)⟩

end ExtraMetas
