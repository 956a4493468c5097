import ExtraMetas.Resolution.Cache
import ExtraMetas.Proofs.Runs

/-!
# ExtraMetas.Proofs.Resolution.CacheHistory

**A cache fetches each account once and remembers the first success**, over every sequence of uses
and of changes of the ledger (`fetchesOnce_history`).

`CacheStep.Effect` says once what a step can do: find the account in the cache, fetch it and keep
it, fetch and be refused, look into the cache, or meet another ledger. A step never takes out of the
cache what is in it (`CacheEvent.find?_after`), and puts in only what it fetched; so the cache has an
account exactly if a step before fetched it with success (`find?_before_iff`), and it is the account
that this step was given.
-/

namespace ExtraMetas

/-! ### One step -/

/-- The data of an account that has to exist. -/
def Account.read (a : Account) (address : Pubkey) : Except ResolveError Bytes :=
  if a.present then .ok a.data else .error (.accountMissing address)

/-- The step looks the account at an address up. -/
def CacheStep.Uses (step : CacheStep) (address : Pubkey) : Prop :=
  step = get address ∨ step = data address

/-- The answer of a step that looks an account up, for the outcome of that lookup. -/
def CacheStep.answer : CacheStep → Except ResolveError Account → CacheAnswer
  | data address, outcome => .data (outcome.bind (·.read address))
  | _, outcome => .account outcome

/-- What a step can do. -/
inductive CacheStep.Effect (c : CachedLedger) : CacheStep → CacheAnswer → CachedLedger → Prop
  /-- The account was in the cache. -/
  | known {step : CacheStep} {address : Pubkey} {a : Account} (huses : step.Uses address)
      (hfind : c.session.find? address = some a) : Effect c step (step.answer (.ok a)) c
  /-- The account was fetched, and is in the cache from here on. -/
  | fetched {step : CacheStep} {address : Pubkey} {a : Account} (huses : step.Uses address)
      (hfind : c.session.find? address = none) (haccount : c.ledger.account address = .ok a) :
      Effect c step (step.answer (.ok a))
        { c with session := (c.session.addCall address).addAccount address a }
  /-- The fetch gave no account. -/
  | refused {step : CacheStep} {address : Pubkey} {refusal : FetchError}
      (huses : step.Uses address) (hfind : c.session.find? address = none)
      (haccount : c.ledger.account address = .error refusal) :
      Effect c step (step.answer (.error (.fetch refusal)))
        { c with session := c.session.addCall address }
  /-- The cache was looked into. -/
  | contains (address : Pubkey) :
      Effect c (.contains address) (.contained (c.session.contains address)) c
  /-- Another ledger is met. -/
  | change (ledger : Ledger) : Effect c (.change ledger) .changed { c with ledger := ledger }

namespace CacheStep

theorem Uses.eq {step : CacheStep} {address other : Pubkey} (h : step.Uses address)
    (hother : step.Uses other) : other = address := by
  rcases h with rfl | rfl
  · rcases hother with h | h <;> cases h
    rfl
  · rcases hother with h | h <;> cases h
    rfl

theorem Uses.ne_contains {step : CacheStep} {address : Pubkey} (h : step.Uses address)
    (other : Pubkey) : step ≠ contains other := by
  rintro rfl
  rcases h with h | h
  · cases h
  · cases h

theorem Uses.ne_change {step : CacheStep} {address : Pubkey} (h : step.Uses address)
    (ledger : Ledger) : step ≠ change ledger := by
  rintro rfl
  rcases h with h | h
  · cases h
  · cases h

theorem execute_data {lookup : Lookup} {address : Pubkey} {s s' : Session}
    {outcome : Except ResolveError Account} (h : (lookup address).execute s = (outcome, s')) :
    (lookup.data address).execute s = (outcome.bind (·.read address), s') := by
  rw [Lookup.data]
  cases outcome with
  | error e => exact Run.execute_bind_error h
  | ok a =>
      rw [Run.execute_bind_ok h]
      show _ = (a.read address, s')
      rw [Account.read]
      cases a.present with
      | false => rfl
      | true => rfl

theorem perform_of_uses {step : CacheStep} {address : Pubkey} (huses : step.Uses address)
    {c : CachedLedger} {outcome : Except ResolveError Account} {s : Session}
    (h : (Lookup.cached c.ledger address).execute c.session = (outcome, s)) :
    step.perform c = (step.answer outcome, { c with session := s }) := by
  rcases huses with rfl | rfl
  · rw [perform, h]
    rfl
  · rw [perform, execute_data h]
    rfl

theorem effect_of_uses {step : CacheStep} {address : Pubkey} (huses : step.Uses address)
    (c : CachedLedger) : Effect c step (step.perform c).1 (step.perform c).2 := by
  cases hfind : c.session.find? address with
  | some a =>
      rw [perform_of_uses huses (Lookup.execute_cached_of_found hfind)]
      exact .known huses hfind
  | none =>
      cases haccount : c.ledger.account address with
      | ok a =>
          rw [perform_of_uses huses (Lookup.execute_cached_of_fetched hfind haccount)]
          exact .fetched huses hfind haccount
      | error refusal =>
          rw [perform_of_uses huses (Lookup.execute_cached_of_failed hfind haccount)]
          exact .refused huses hfind haccount

theorem effect (step : CacheStep) (c : CachedLedger) :
    Effect c step (step.perform c).1 (step.perform c).2 := by
  cases step with
  | get address => exact effect_of_uses (.inl rfl) c
  | data address => exact effect_of_uses (.inr rfl) c
  | contains address => exact .contains address
  | change ledger => exact .change ledger

end CacheStep

/-! ### Events -/

/-- A step that was taken: what it met, what it answered, and what it left behind. -/
structure CacheEvent where
  step : CacheStep
  before : CachedLedger
  answer : CacheAnswer
  after : CachedLedger
  effect : CacheStep.Effect before step answer after

namespace CacheEvent

variable {e : CacheEvent} {address : Pubkey} {a : Account}

/-- The addresses that the ledger was asked for in the step. -/
def asked (e : CacheEvent) : List Pubkey :=
  e.after.session.calls.drop e.before.session.calls.length

/-- The ledger was asked for the address, and gave an account. -/
structure Succeeds (e : CacheEvent) (address : Pubkey) (a : Account) : Prop where
  asked : e.asked = [address]
  account : e.before.ledger.account address = .ok a

/-- The ledger was asked for the address, and gave none: it failed, or what it answered means no
account. -/
structure Fails (e : CacheEvent) (address : Pubkey) (refusal : FetchError) : Prop where
  asked : e.asked = [address]
  account : e.before.ledger.account address = .error refusal

theorem asked_of_eq (h : e.after.session.calls = e.before.session.calls) : e.asked = [] := by
  rw [asked, h, List.drop_length]

theorem asked_of_append (h : e.after.session.calls = e.before.session.calls ++ [address]) :
    e.asked = [address] := by
  rw [asked, h, List.drop_left]

/-- Only the address that a step looks up is asked for, and once. -/
theorem uses_of_mem_asked (h : address ∈ e.asked) :
    e.step.Uses address ∧ e.asked = [address] := by
  obtain ⟨step, before, answer, after, heffect⟩ := e
  cases heffect with
  | known =>
      rw [asked_of_eq rfl] at h
      cases h
  | fetched huses =>
      rw [asked_of_append rfl, List.mem_singleton] at h
      subst h
      exact ⟨huses, asked_of_append rfl⟩
  | refused huses =>
      rw [asked_of_append rfl, List.mem_singleton] at h
      subst h
      exact ⟨huses, asked_of_append rfl⟩
  | contains =>
      rw [asked_of_eq rfl] at h
      cases h
  | change =>
      rw [asked_of_eq rfl] at h
      cases h

/-- What is in the cache stays there, as it is. -/
theorem find?_after (h : e.before.session.find? address = some a) :
    e.after.session.find? address = some a := by
  obtain ⟨step, before, answer, after, heffect⟩ := e
  cases heffect with
  | known => exact h
  | fetched huses hfind haccount =>
      -- the account that is put in is of an address that was not in the cache
      refine (Session.find?_addAccount _ _ _ _).trans ?_
      rw [if_neg]
      · exact h
      · rintro rfl
        cases hfind.symm.trans h
  | refused => exact h
  | contains => exact h
  | change => exact h

/-- What is in the cache after a step was there before, or was fetched in the step. -/
theorem find?_before_or_succeeds (h : e.after.session.find? address = some a) :
    e.before.session.find? address = some a ∨ e.Succeeds address a := by
  obtain ⟨step, before, answer, after, heffect⟩ := e
  cases heffect with
  | known => exact .inl h
  | @fetched _ fetched b huses hfind haccount =>
      have h := (Session.find?_addAccount _ fetched address b).symm.trans h
      by_cases heq : address = fetched
      · rw [if_pos heq] at h
        cases h
        subst heq
        exact .inr ⟨asked_of_append rfl, haccount⟩
      · rw [if_neg heq] at h
        exact .inl h
  | refused => exact .inl h
  | contains => exact .inl h
  | change => exact .inl h

/-- Only an account that is not in the cache is fetched, and then it is in the cache. -/
theorem Succeeds.find? (h : e.Succeeds address a) :
    e.before.session.find? address = none ∧ e.after.session.find? address = some a := by
  obtain ⟨hasked, haccount⟩ := h
  obtain ⟨step, before, answer, after, heffect⟩ := e
  cases heffect with
  | known => cases (asked_of_eq rfl).symm.trans hasked
  | fetched huses hfind haccount' =>
      cases (asked_of_append rfl).symm.trans hasked
      cases haccount'.symm.trans haccount
      exact ⟨hfind, (Session.find?_addAccount _ _ _ _).trans (if_pos rfl)⟩
  | refused huses hfind haccount' =>
      cases (asked_of_append rfl).symm.trans hasked
      cases haccount'.symm.trans haccount
  | contains => cases (asked_of_eq rfl).symm.trans hasked
  | change => cases (asked_of_eq rfl).symm.trans hasked

/-- A fetch without success is answered with its error, and leaves the cache as it was. -/
theorem Fails.unkept {refusal : FetchError} (h : e.Fails address refusal) :
    e.answer = e.step.answer (.error (.fetch refusal)) ∧
      e.after.session.accounts = e.before.session.accounts := by
  obtain ⟨hasked, haccount⟩ := h
  obtain ⟨step, before, answer, after, heffect⟩ := e
  cases heffect with
  | known => cases (asked_of_eq rfl).symm.trans hasked
  | fetched huses hfind haccount' =>
      cases (asked_of_append rfl).symm.trans hasked
      cases haccount'.symm.trans haccount
  | refused huses hfind haccount' =>
      cases (asked_of_append rfl).symm.trans hasked
      cases haccount'.symm.trans haccount
      exact ⟨rfl, rfl⟩
  | contains => cases (asked_of_eq rfl).symm.trans hasked
  | change => cases (asked_of_eq rfl).symm.trans hasked

/-- An account that is in the cache is what a step answers with, and nothing is asked for. -/
theorem answer_of_known (huses : e.step.Uses address)
    (h : e.before.session.find? address = some a) :
    e.answer = e.step.answer (.ok a) ∧ e.asked = [] := by
  obtain ⟨step, before, answer, after, heffect⟩ := e
  cases heffect with
  | known huses' hfind =>
      obtain rfl := huses'.eq huses
      cases hfind.symm.trans h
      exact ⟨rfl, asked_of_eq rfl⟩
  | fetched huses' hfind =>
      obtain rfl := huses'.eq huses
      cases hfind.symm.trans h
  | refused huses' hfind =>
      obtain rfl := huses'.eq huses
      cases hfind.symm.trans h
  | contains => exact absurd rfl (huses.ne_contains _)
  | change => exact absurd rfl (huses.ne_change _)

theorem asked_of_unknown (huses : e.step.Uses address)
    (h : e.before.session.find? address = none) : e.asked = [address] := by
  obtain ⟨step, before, answer, after, heffect⟩ := e
  cases heffect with
  | known huses' hfind =>
      obtain rfl := huses'.eq huses
      cases hfind.symm.trans h
  | fetched huses' hfind =>
      obtain rfl := huses'.eq huses
      exact asked_of_append rfl
  | refused huses' hfind =>
      obtain rfl := huses'.eq huses
      exact asked_of_append rfl
  | contains => exact absurd rfl (huses.ne_contains _)
  | change => exact absurd rfl (huses.ne_change _)

/-- Looking into the cache answers whether it has the account. -/
theorem answer_of_contains (h : e.step = .contains address) :
    e.answer = .contained (e.before.session.contains address) := by
  obtain ⟨step, before, answer, after, heffect⟩ := e
  cases heffect with
  | known huses => exact absurd h (huses.ne_contains address)
  | fetched huses => exact absurd h (huses.ne_contains address)
  | refused huses => exact absurd h (huses.ne_contains address)
  | contains =>
      cases h
      rfl
  | change => cases h

/-- An account whose data is refused because it does not exist is in the cache, as missing. -/
theorem find?_of_missing (hstep : e.step = .data address)
    (hanswer : e.answer = .data (.error (.accountMissing address))) :
    ∃ a, a.present = false ∧ e.after.session.find? address = some a := by
  have hread (a : Account) (h : CacheAnswer.data (a.read address)
      = .data (.error (.accountMissing address))) : a.present = false := by
    have h := CacheAnswer.data.inj h
    rw [Account.read] at h
    cases hpresent : a.present with
    | false => rfl
    | true =>
        rw [hpresent] at h
        cases h
  obtain ⟨step, before, answer, after, heffect⟩ := e
  obtain rfl : step = _ := hstep
  cases heffect with
  | known huses hfind =>
      obtain rfl := huses.eq (.inr rfl)
      exact ⟨_, hread _ hanswer, hfind⟩
  | fetched huses hfind haccount =>
      obtain rfl := huses.eq (.inr rfl)
      exact ⟨_, hread _ hanswer, (Session.find?_addAccount _ _ _ _).trans (if_pos rfl)⟩
  | refused huses hfind haccount => cases hanswer

end CacheEvent

/-! ### Histories -/

/-- A step that is taken now. -/
def CachedLedger.event (c : CachedLedger) (step : CacheStep) : CacheEvent :=
  ⟨step, c, (step.perform c).1, (step.perform c).2, step.effect c⟩

/-- The steps taken one after the other, each from what the one before left behind. -/
def CachedLedger.history : CachedLedger → List CacheStep → List CacheEvent
  | _, [] => []
  | c, step :: rest => c.event step :: (c.event step).after.history rest

/-- A step before number `j` fetched the account at an address. -/
def FetchedBefore (history : List CacheEvent) (j : Nat) (address : Pubkey) (a : Account) : Prop :=
  ∃ i e, i < j ∧ history[i]? = some e ∧ e.Succeeds address a

section History

variable {c : CachedLedger} {steps : List CacheStep} {address : Pubkey} {a : Account}
  {e e' : CacheEvent} {i j : Nat}

theorem find?_of_mem_history (h : c.session.find? address = some a)
    (he : e ∈ c.history steps) : e.before.session.find? address = some a := by
  induction steps generalizing c with
  | nil => cases he
  | cons step rest ih =>
      rw [CachedLedger.history, List.mem_cons] at he
      rcases he with rfl | he
      · exact h
      · exact ih (CacheEvent.find?_after h) he

/-- What comes behind an event goes on from what it left behind. -/
theorem mem_history_after (hi : (c.history steps)[i]? = some e) (hij : i < j)
    (hj : (c.history steps)[j]? = some e') : ∃ rest, e' ∈ e.after.history rest := by
  induction steps generalizing c i j with
  | nil => cases hi
  | cons step rest ih =>
      obtain ⟨j, rfl⟩ : ∃ k, j = k + 1 := ⟨j - 1, by omega⟩
      rw [CachedLedger.history, List.getElem?_cons_succ] at hj
      cases i with
      | zero =>
          cases hi
          exact ⟨rest, List.mem_of_getElem? hj⟩
      | succ i => exact ih hi (by omega) hj

/-- What is in the cache at a step was there at first, or a step before fetched it. -/
theorem find?_first_or_fetchedBefore (hj : (c.history steps)[j]? = some e')
    (h : e'.before.session.find? address = some a) :
    c.session.find? address = some a ∨ FetchedBefore (c.history steps) j address a := by
  induction steps generalizing c j with
  | nil => cases hj
  | cons step rest ih =>
      cases j with
      | zero =>
          cases hj
          exact .inl h
      | succ j =>
          rcases ih hj with hfirst | ⟨i, e, hij, hi, hfound⟩
          · rcases CacheEvent.find?_before_or_succeeds hfirst with hbefore | hfound
            · exact .inl hbefore
            · exact .inr ⟨0, _, by omega, rfl, hfound⟩
          · exact .inr ⟨i + 1, e, by omega, hi, hfound⟩

/-- A cache that starts without an account has it iff a step before fetched it. -/
theorem find?_before_iff (hc : c.session.find? address = none)
    (hj : (c.history steps)[j]? = some e') :
    e'.before.session.find? address = some a ↔ FetchedBefore (c.history steps) j address a := by
  constructor
  · intro h
    rcases find?_first_or_fetchedBefore hj h with hfirst | hfetched
    · cases hc.symm.trans hfirst
    · exact hfetched
  · rintro ⟨i, e, hij, hi, hfound⟩
    obtain ⟨rest, hmem⟩ := mem_history_after hi hij hj
    exact find?_of_mem_history hfound.find?.2 hmem

end History

/-- Each account is fetched once and the first success is remembered. -/
structure FetchesOnce (history : List CacheEvent) : Prop where
  /-- The ledger is asked for what a step looks up, and for nothing else. -/
  uses : ∀ e ∈ history, ∀ address ∈ e.asked, e.step.Uses address ∧ e.asked = [address]
  /-- No address is fetched with success twice. -/
  once : ∀ (i j : Nat) (e e' : CacheEvent) (address : Pubkey) (a b : Account),
    history[i]? = some e → history[j]? = some e' →
    e.Succeeds address a → e'.Succeeds address b → i = j
  /-- After a success, the account is what every use of the address is answered with, and the
  ledger is not asked. -/
  kept : ∀ (j : Nat) (e : CacheEvent) (address : Pubkey) (a : Account), history[j]? = some e →
    FetchedBefore history j address a → e.step.Uses address →
    e.answer = e.step.answer (.ok a) ∧ e.asked = []
  /-- A fetch without success is answered with its error, and leaves the cache as it was. -/
  unkept : ∀ e ∈ history, ∀ (address : Pubkey) (refusal : FetchError), e.Fails address refusal →
    e.answer = e.step.answer (.error (.fetch refusal)) ∧
      e.after.session.accounts = e.before.session.accounts
  /-- As long as there was no success, every use of the address asks the ledger. -/
  again : ∀ (j : Nat) (e : CacheEvent) (address : Pubkey), history[j]? = some e →
    (∀ a, ¬ FetchedBefore history j address a) → e.step.Uses address → e.asked = [address]
  /-- The cache has an account iff a use of its address before was a success. -/
  contains : ∀ (j : Nat) (e : CacheEvent) (address : Pubkey), history[j]? = some e →
    e.step = .contains address → ∃ known, e.answer = .contained known ∧
      (known = true ↔ ∃ a, FetchedBefore history j address a)
  /-- An account that is refused for its data because it does not exist is in the cache, as
  missing. -/
  missing : ∀ e ∈ history, ∀ address, e.step = .data address →
    e.answer = .data (.error (.accountMissing address)) →
    ∃ a, a.present = false ∧ e.after.session.find? address = some a

/-- **A cache fetches each account once and remembers the first success**, whatever the ledger
answers, however it changes between the steps, and in whichever order the cache is used. -/
theorem fetchesOnce_history (ledger : Ledger) (steps : List CacheStep) :
    FetchesOnce ((⟨ledger, .empty⟩ : CachedLedger).history steps) := by
  constructor
  case uses =>
    intro e _ address h
    exact CacheEvent.uses_of_mem_asked h
  case once =>
    intro i j e e' address a b hi hj ha hb
    -- the later of two successes would find the account in the cache
    rcases Nat.lt_trichotomy i j with hij | hij | hij
    · have hfound := (find?_before_iff rfl hj).2 ⟨i, e, hij, hi, ha⟩
      cases hb.find?.1.symm.trans hfound
    · exact hij
    · have hfound := (find?_before_iff rfl hi).2 ⟨j, e', hij, hj, hb⟩
      cases ha.find?.1.symm.trans hfound
  case kept =>
    intro j e address a hj hfetched huses
    exact CacheEvent.answer_of_known huses ((find?_before_iff rfl hj).2 hfetched)
  case unkept =>
    intro e _ address refusal h
    exact h.unkept
  case again =>
    intro j e address hj hnone huses
    refine CacheEvent.asked_of_unknown huses ?_
    cases hfind : e.before.session.find? address with
    | none => rfl
    | some a => exact absurd ((find?_before_iff rfl hj).1 hfind) (hnone a)
  case contains =>
    intro j e address hj hstep
    refine ⟨_, CacheEvent.answer_of_contains hstep, ?_⟩
    rw [Session.contains, Option.isSome_iff_exists]
    exact exists_congr fun a => find?_before_iff rfl hj
  case missing =>
    intro e _ address hstep hanswer
    exact CacheEvent.find?_of_missing hstep hanswer

/-- A node that fails first, then has no such account, then has one: the account is asked for until
it is found missing, and stays missing. -/
theorem fetchesOnce_history_missing :
    let key : Pubkey := ⟨List.replicate 32 7, List.length_replicate⟩
    let failing : Ledger := fun _ => .error ⟨"ConnectionError", "node unavailable"⟩
    let history := (⟨failing, .empty⟩ : CachedLedger).history
      [.get key, .contains key, .change fun _ => .ok .missing, .data key, .contains key,
        .change fun _ => .ok (.raw [7]), .get key]
    FetchesOnce history ∧ history.map (·.asked) = [[key], [], [], [key], [], [], []] ∧
      (∃ a, FetchedBefore history 6 key a ∧ a.present = false ∧
        history.map (·.answer) =
          [.account (.error (.fetch (.failed ⟨"ConnectionError", "node unavailable"⟩))),
            .contained false, .changed, .data (.error (.accountMissing key)), .contained true,
            .changed, .account (.ok a)]) := by
  intro key failing history
  have hasked : history.map (·.asked) = [[key], [], [], [key], [], [], []] := rfl
  refine ⟨fetchesOnce_history failing _, hasked, ⟨false, []⟩, ?_, rfl, rfl⟩
  exact ⟨3, _, by decide, rfl, rfl, rfl⟩

end ExtraMetas
