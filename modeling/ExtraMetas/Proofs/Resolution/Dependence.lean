import ExtraMetas.Proofs.Resolution.Inquiry
import Mathlib.Data.List.Forall2

/-!
# ExtraMetas.Proofs.Resolution.Dependence

**A run depends on the ledger only through the accounts that it fetched**, and on each of them only
through its content: whether it exists, and then its data. Two ledgers that are alike at every
address which a run over the first one asks for give it the same outcome, and the run over the
second one asks for the same addresses (`Ledger.DeterminesRun`).

Which address is asked for next depends on the answers so far, so the two runs have to be followed
together. `Run.Lockstep` does this: as long as the first run asks only for addresses where the
ledgers are alike, the second one follows it. That condition is about the first run as a whole; it
holds of a part of the run because no part takes an address back that was asked for, which is why
`grows` belongs to the judgement.
-/

namespace ExtraMetas

/-! ### Accounts that are used alike -/

theorem Account.content?_eq_iff {a b : Account} :
    a.content? = b.content? ↔
      a.present = b.present ∧ (a.present = true → a.data = b.data) := by
  obtain ⟨present, data⟩ := a
  obtain ⟨present', data'⟩ := b
  cases present <;> cases present' <;> simp [Account.content?]

/-- At the address the two ledgers give accounts of the same content, however they describe them,
or they fail alike. -/
inductive Ledger.AlikeAt (p q : Ledger) (address : Pubkey) : Prop
  /-- The account is missing. -/
  | missing {a b : Account} (hp : p.account address = .ok a) (hq : q.account address = .ok b)
      (ha : a.present = false) (hb : b.present = false) : AlikeAt p q address
  /-- The account exists, with the same data. -/
  | found {a b : Account} (hp : p.account address = .ok a) (hq : q.account address = .ok b)
      (ha : a.present = true) (hb : b.present = true) (hdata : a.data = b.data) :
      AlikeAt p q address
  /-- There is no account to be had, for the same reason. -/
  | failed {e : FetchError} (hp : p.account address = .error e)
      (hq : q.account address = .error e) : AlikeAt p q address

/-- A run over a ledger comes to the same over every other ledger that is alike at the addresses
which the run asks for. -/
def Ledger.DeterminesRun {ε α : Type} (run : Ledger → Except ε α × Session) : Prop :=
  ∀ p q : Ledger, (∀ address ∈ (run p).2.calls, p.AlikeAt q address) →
    (run q).1 = (run p).1 ∧ (run q).2.calls = (run p).2.calls ∧
      (run q).2.reports = (run p).2.reports

/-- Two caches with the same content. -/
def CachesAlike (c₁ c₂ : List (Pubkey × Account)) : Prop :=
  ∀ address, (c₁.lookup address).map Account.content? = (c₂.lookup address).map Account.content?

/-- Two sessions that differ in nothing but how they hold the accounts they know. -/
structure Session.Alike (s₁ s₂ : Session) : Prop where
  accounts : CachesAlike s₁.accounts s₂.accounts
  enclosing : List.Forall₂ CachesAlike s₁.enclosing s₂.enclosing
  calls : s₁.calls = s₂.calls
  reports : s₁.reports = s₂.reports

namespace Session.Alike

variable {s₁ s₂ t₁ t₂ : Session}

theorem refl (s : Session) : s.Alike s where
  accounts := fun _ => rfl
  enclosing := List.forall₂_same.2 fun _ _ _ => rfl
  calls := rfl
  reports := rfl

theorem addCall (h : s₁.Alike s₂) (address : Pubkey) :
    (s₁.addCall address).Alike (s₂.addCall address) :=
  ⟨h.accounts, h.enclosing, congrArg (· ++ [address]) h.calls, h.reports⟩

theorem addReport (h : s₁.Alike s₂) (r : Report) : (s₁.addReport r).Alike (s₂.addReport r) :=
  ⟨h.accounts, h.enclosing, h.calls, congrArg (· ++ [r]) h.reports⟩

theorem addAccount (h : s₁.Alike s₂) (address : Pubkey) {a b : Account}
    (hab : a.content? = b.content?) :
    (s₁.addAccount address a).Alike (s₂.addAccount address b) where
  accounts := by
    intro other
    show ((s₁.addAccount address a).find? other).map _ = ((s₂.addAccount address b).find? other).map _
    rw [Session.find?_addAccount, Session.find?_addAccount]
    by_cases hother : other = address
    · rw [if_pos hother, if_pos hother, Option.map_some, Option.map_some, hab]
    · rw [if_neg hother, if_neg hother]
      exact h.accounts other
  enclosing := h.enclosing
  calls := h.calls
  reports := h.reports

theorem enter (h : s₁.Alike s₂) : s₁.enter.Alike s₂.enter :=
  ⟨fun _ => rfl, .cons h.accounts h.enclosing, h.calls, h.reports⟩

theorem leave (h : s₁.Alike s₂) : s₁.leave.Alike s₂.leave := by
  obtain ⟨own₁, enclosing₁, calls₁, reports₁⟩ := s₁
  obtain ⟨own₂, enclosing₂, calls₂, reports₂⟩ := s₂
  obtain ⟨-, henclosing, hcalls, hreports⟩ := h
  cases henclosing with
  | nil => exact ⟨fun _ => rfl, .nil, hcalls, hreports⟩
  | cons hhead htail => exact ⟨hhead, htail, hcalls, hreports⟩

theorem reenter (h : s₁.Alike s₂) (ht : t₁.Alike t₂) :
    (s₁.reenter t₁.accounts).Alike (s₂.reenter t₂.accounts) :=
  ⟨ht.accounts, .cons h.accounts h.enclosing, h.calls, h.reports⟩

/-- Two alike sessions know the same addresses, with the same contents. -/
theorem find?_cases (h : s₁.Alike s₂) (address : Pubkey) :
    (s₁.find? address = none ∧ s₂.find? address = none) ∨
      ∃ a b, s₁.find? address = some a ∧ s₂.find? address = some b ∧
        a.content? = b.content? := by
  have hcontent : (s₁.find? address).map Account.content?
      = (s₂.find? address).map Account.content? := h.accounts address
  cases h₁ : s₁.find? address with
  | none =>
      rw [h₁, Option.map_none, eq_comm, Option.map_eq_none_iff] at hcontent
      exact .inl ⟨rfl, hcontent⟩
  | some a =>
      rw [h₁, Option.map_some, eq_comm, Option.map_eq_some_iff] at hcontent
      obtain ⟨b, hb, hba⟩ := hcontent
      exact .inr ⟨a, b, rfl, hb, hba.symm⟩

end Session.Alike

/-! ### Two runs in lockstep -/

namespace Run

variable {ε δ α β γ κ : Type} {A : Pubkey → Prop} {v : α → γ} {w : β → κ}

/-- From alike sessions the second run comes to the same as the first, if the first one asks only
for addresses of `A`: the same error, or results that `v` does not tell apart. -/
structure Lockstep (A : Pubkey → Prop) (v : α → γ) (r₁ r₂ : Run ε α) : Prop where
  grows : ∀ s, s.calls <+: (r₁.execute s).2.calls
  agree : ∀ s₁ s₂, s₁.Alike s₂ → (∀ a ∈ (r₁.execute s₁).2.calls, A a) →
    (r₁.execute s₁).1.map v = (r₂.execute s₂).1.map v ∧
      (r₁.execute s₁).2.Alike (r₂.execute s₂).2

namespace Lockstep

theorem pure {a b : α} (h : v a = v b) : Lockstep A v (pure a : Run ε α) (pure b) where
  grows := fun s => List.prefix_refl s.calls
  agree := fun _ _ hs _ => ⟨congrArg Except.ok h, hs⟩

theorem throw (e : ε) : Lockstep A v (throw e : Run ε α) (throw e) where
  grows := fun s => List.prefix_refl s.calls
  agree := fun _ _ hs _ => ⟨rfl, hs⟩

theorem lift (inject : δ → ε) (x : Except δ α) :
    Lockstep A v (lift inject x : Run ε α) (lift inject x) := by
  cases x with
  | ok a => exact pure rfl
  | error e => exact throw (inject e)

theorem report (r : Report) : Lockstep A id (report r : Run ε Unit) (report r) where
  grows := fun s => List.prefix_refl s.calls
  agree := fun _ _ hs _ => ⟨rfl, hs.addReport r⟩

theorem bind {r₁ r₂ : Run ε α} {f₁ f₂ : α → Run ε β} (hr : Lockstep A v r₁ r₂)
    (hf : ∀ a b, v a = v b → Lockstep A w (f₁ a) (f₂ b)) :
    Lockstep A w (r₁ >>= f₁) (r₂ >>= f₂) where
  grows := by
    intro s
    have hgrows := hr.grows s
    rcases h : r₁.execute s with ⟨e | a, t⟩
    · rw [h] at hgrows
      rw [execute_bind_error h]
      exact hgrows
    · rw [h] at hgrows
      rw [execute_bind_ok h]
      exact hgrows.trans ((hf a a rfl).grows t)
  agree := by
    intro s₁ s₂ hs hA
    have hagree := hr.agree s₁ s₂ hs
    rcases h₁ : r₁.execute s₁ with ⟨e₁ | a₁, t₁⟩
    · rw [execute_bind_error h₁] at hA ⊢
      rw [h₁] at hagree
      obtain ⟨houtcome, ht⟩ := hagree hA
      rcases h₂ : r₂.execute s₂ with ⟨e₂ | a₂, t₂⟩
      · rw [h₂] at houtcome ht
        cases houtcome
        rw [execute_bind_error h₂]
        exact ⟨rfl, ht⟩
      · rw [h₂] at houtcome
        cases houtcome
    · rw [execute_bind_ok h₁] at hA ⊢
      rw [h₁] at hagree
      -- what the first part asked for is still among what was asked for in the end
      obtain ⟨houtcome, ht⟩ := hagree fun a ha => hA a (((hf a₁ a₁ rfl).grows t₁).subset ha)
      rcases h₂ : r₂.execute s₂ with ⟨e₂ | a₂, t₂⟩
      · rw [h₂] at houtcome
        cases houtcome
      · rw [h₂] at houtcome ht
        rw [execute_bind_ok h₂]
        exact (hf a₁ a₂ (Except.ok.inj houtcome)).agree t₁ t₂ ht hA

theorem adapt {inject : δ → ε} {r₁ r₂ : Run δ α} (h : Lockstep A v r₁ r₂) :
    Lockstep A v (ExceptT.adapt inject r₁ : Run ε α) (ExceptT.adapt inject r₂) where
  grows := h.grows
  agree := by
    intro s₁ s₂ hs hA
    obtain ⟨houtcome, ht⟩ := h.agree s₁ s₂ hs hA
    refine ⟨?_, ht⟩
    have hmap (o : Except δ α) :
        (o.mapError inject).map v = (o.map v).mapError inject := by cases o <;> rfl
    show ((r₁.execute s₁).1.mapError inject).map v = ((r₂.execute s₂).1.mapError inject).map v
    rw [hmap, hmap, houtcome]

theorem withOwnCache {r₁ r₂ : Run ε α} (h : Lockstep A v r₁ r₂) :
    Lockstep A v r₁.withOwnCache r₂.withOwnCache where
  grows := fun s => h.grows s.enter
  agree := by
    intro s₁ s₂ hs hA
    obtain ⟨houtcome, ht⟩ := h.agree s₁.enter s₂.enter hs.enter hA
    exact ⟨houtcome, ht.leave⟩

/-- From its first step on, the second run comes to exactly the same as the first. -/
theorem eq_of_empty {r₁ r₂ : Run ε α} (h : Lockstep A id r₁ r₂)
    (hA : ∀ a ∈ (r₁.execute .empty).2.calls, A a) :
    (r₂.execute .empty).1 = (r₁.execute .empty).1 ∧
      (r₂.execute .empty).2.calls = (r₁.execute .empty).2.calls ∧
      (r₂.execute .empty).2.reports = (r₁.execute .empty).2.reports := by
  obtain ⟨houtcome, ht⟩ := h.agree .empty .empty (.refl .empty) hA
  have hid (o : Except ε α) : o.map id = o := by cases o <;> rfl
  rw [hid, hid] at houtcome
  exact ⟨houtcome.symm, ht.calls.symm, ht.reports.symm⟩

end Lockstep

end Run

/-! ### Lookups in lockstep -/

theorem Lookup.execute_direct (ledger : Ledger) (address : Pubkey) (s : Session) :
    (Lookup.direct ledger address).execute s
      = ((ledger.account address).mapError .fetch, s.addCall address) := by
  cases haccount : ledger.account address with
  | ok a => exact Lookup.execute_ask_of_ok haccount
  | error e => exact Lookup.execute_ask_of_error haccount

/-- Two lookups that answer with accounts of the same content, if the first one asks only for
addresses of `A`. -/
def Lookup.Lockstep (A : Pubkey → Prop) (lookup₁ lookup₂ : Lookup) : Prop :=
  ∀ address, Run.Lockstep A Account.content? (lookup₁ address) (lookup₂ address)

namespace Lookup.Lockstep

variable {A : Pubkey → Prop} {lookup₁ lookup₂ fetch₁ fetch₂ : Lookup}

theorem direct (p q : Ledger) :
    Lookup.Lockstep (p.AlikeAt q) (Lookup.direct p) (Lookup.direct q) := by
  intro address
  refine ⟨fun s => ?_, fun s₁ s₂ hs hA => ?_⟩
  · rw [Lookup.execute_direct]
    exact List.prefix_append _ _
  · rw [Lookup.execute_direct] at hA ⊢
    rw [Lookup.execute_direct]
    refine ⟨?_, hs.addCall address⟩
    -- the address itself was asked for, so the ledgers are alike there
    have halike : p.AlikeAt q address := hA address (by simp [Session.addCall])
    cases halike with
    | missing hp hq ha hb =>
        rw [hp, hq]
        refine congrArg Except.ok (Account.content?_eq_iff.2 ⟨ha.trans hb.symm, fun h => ?_⟩)
        cases ha.symm.trans h
    | found hp hq ha hb hdata =>
        rw [hp, hq]
        exact congrArg Except.ok (Account.content?_eq_iff.2 ⟨ha.trans hb.symm, fun _ => hdata⟩)
    | failed hp hq => rw [hp, hq]

theorem cachedOver (h : Lookup.Lockstep A fetch₁ fetch₂) :
    Lookup.Lockstep A (.cachedOver fetch₁) (.cachedOver fetch₂) := by
  intro address
  -- what a cache does for an address that it does not have
  have hfetch : Run.Lockstep A Account.content?
      (fetch₁ address >>= fun a => modify (·.addAccount address a) >>= fun _ => pure a)
      (fetch₂ address >>= fun b => modify (·.addAccount address b) >>= fun _ => pure b) := by
    refine (h address).bind fun a b hab => ⟨fun s => List.prefix_refl s.calls, ?_⟩
    exact fun s₁ s₂ hs _ => ⟨congrArg Except.ok hab, hs.addAccount address hab⟩
  constructor
  case grows =>
    intro s
    rw [Lookup.execute_cachedOver]
    cases s.find? address with
    | some a => exact List.prefix_refl s.calls
    | none => exact hfetch.grows s
  case agree =>
    intro s₁ s₂ hs hA
    rw [Lookup.execute_cachedOver] at hA ⊢
    rw [Lookup.execute_cachedOver]
    rcases hs.find?_cases address with ⟨hnone₁, hnone₂⟩ | ⟨a, b, hfound₁, hfound₂, hab⟩
    · rw [hnone₁] at hA ⊢
      rw [hnone₂]
      exact hfetch.agree s₁ s₂ hs hA
    · rw [hfound₁, hfound₂]
      exact ⟨congrArg Except.ok hab, hs⟩

theorem outside (h : Lookup.Lockstep A lookup₁ lookup₂) :
    Lookup.Lockstep A lookup₁.outside lookup₂.outside := by
  intro address
  refine ⟨fun s => (h address).grows s.leave, fun s₁ s₂ hs hA => ?_⟩
  obtain ⟨houtcome, ht⟩ := (h address).agree s₁.leave s₂.leave hs.leave hA
  exact ⟨houtcome, ht.reenter hs⟩

theorem cached (p q : Ledger) :
    Lookup.Lockstep (p.AlikeAt q) (Lookup.cached p) (Lookup.cached q) :=
  (direct p q).cachedOver

/-- Two runs of one tree of questions. -/
theorem run (h : Lookup.Lockstep A lookup₁ lookup₂) {α : Type} (i : Inquiry α) :
    Run.Lockstep A id (i.run lookup₁) (i.run lookup₂) := by
  induction i with
  | done a => exact .pure rfl
  | fail e => exact .throw e
  | report r next ih => exact (Run.Lockstep.report r).bind fun _ _ _ => ih
  | ask address next ih =>
      refine (h address).bind fun a b hab => ?_
      rw [hab]
      exact ih b.content?

theorem resolveExtraMetas (h : Lookup.Lockstep A lookup₁ lookup₂) (descriptor : Pubkey)
    (request : Request) :
    Run.Lockstep A id (ExtraMetas.resolveExtraMetas lookup₁ descriptor request)
      (ExtraMetas.resolveExtraMetas lookup₂ descriptor request) := by
  obtain ⟨i, hrun⟩ := exists_inquiry_resolveExtraMetas descriptor request
  rw [hrun, hrun]
  exact h.run i

end Lookup.Lockstep

end ExtraMetas
