import ExtraMetas.Proofs.Resolution.Agreement

/-!
# ExtraMetas.Proofs.Resolution.Transparency

**The cache does not show in a result.** Over a ledger that does not change, a resolution that keeps
what it was given ends as one that asks the ledger each time (`resolveExtraMetas_cached_eq_direct`).

The runs are compared lookup by lookup (`Agreement`). What makes them agree is that the cache holds
only what the ledger would answer again (`Session.Mirrors.known`): a missing account is kept as
missing, and a failed fetch is not kept.
-/

namespace ExtraMetas

/-- The session of a run behind a cache, beside that of a run without one. -/
structure Session.Mirrors (ledger : Ledger) (cached direct : Session) : Prop where
  known : ∀ address a, cached.find? address = some a → ledger.account address = .ok a
  asked : ∀ address a, cached.find? address = some a → address ∈ direct.calls
  calls : ∀ address, address ∈ cached.calls ↔ address ∈ direct.calls
  reports : cached.reports = direct.reports

namespace Session.Mirrors

variable {ledger : Ledger} {cached direct : Session} {address : Pubkey} {a : Account}

theorem empty (ledger : Ledger) : Session.Mirrors ledger .empty .empty where
  known := fun _ _ h => nomatch h
  asked := fun _ _ h => nomatch h
  calls := fun _ => Iff.rfl
  reports := rfl

/-- The run without a cache asks again for an account that the other one has. -/
theorem addCall_of_found (h : Session.Mirrors ledger cached direct)
    (hfound : cached.find? address = some a) :
    Session.Mirrors ledger cached (direct.addCall address) where
  known := h.known
  asked := by
    intro other b hother
    exact List.mem_append_left _ (h.asked other b hother)
  calls := by
    intro other
    have hmem := h.asked address a hfound
    simp only [Session.addCall, List.mem_append, List.mem_singleton, h.calls]
    constructor
    · exact Or.inl
    · rintro (hold | rfl)
      · exact hold
      · exact hmem
  reports := h.reports

/-- Both runs ask for an account that the cache does not have. -/
theorem addCall (h : Session.Mirrors ledger cached direct) (address : Pubkey) :
    Session.Mirrors ledger (cached.addCall address) (direct.addCall address) where
  known := h.known
  asked := by
    intro other b hother
    exact List.mem_append_left _ (h.asked other b hother)
  calls := by
    intro other
    simp only [Session.addCall, List.mem_append, h.calls]
  reports := h.reports

/-- The account that both were given goes into the cache. -/
theorem addAccount (h : Session.Mirrors ledger cached direct)
    (haccount : ledger.account address = .ok a) :
    Session.Mirrors ledger ((cached.addCall address).addAccount address a)
      (direct.addCall address) where
  known := by
    intro other b hother
    rw [Session.find?_addAccount] at hother
    by_cases heq : other = address
    · rw [if_pos heq] at hother
      cases hother
      rw [heq, haccount]
    · rw [if_neg heq] at hother
      exact h.known other b hother
  asked := by
    intro other b hother
    rw [Session.find?_addAccount] at hother
    by_cases heq : other = address
    · simp [Session.addCall, heq]
    · rw [if_neg heq] at hother
      exact List.mem_append_left _ (h.asked other b hother)
  calls := (h.addCall address).calls
  reports := h.reports

end Session.Mirrors

/-- One lookup in a cache, beside one that asks the ledger. -/
theorem Lookup.agree_cached_direct (ledger : Ledger) :
    Lookup.Agree (Session.Mirrors ledger) (.cached ledger) (.direct ledger) where
  lookup := by
    intro address cached direct h
    cases hfound : cached.find? address with
    | some a =>
        -- only the run without a cache asks, and it is told what the cache has
        have haccount := h.known address a hfound
        rw [Lookup.execute_cached_of_found hfound, Lookup.direct,
          Lookup.execute_ask_of_ok haccount]
        exact ⟨rfl, h.addCall_of_found hfound⟩
    | none =>
        cases haccount : ledger.account address with
        | ok a =>
            rw [Lookup.execute_cached_of_fetched hfound haccount, Lookup.direct,
              Lookup.execute_ask_of_ok haccount]
            exact ⟨rfl, h.addAccount haccount⟩
        | error refusal =>
            rw [Lookup.execute_cached_of_failed hfound haccount, Lookup.direct,
              Lookup.execute_ask_of_error haccount]
            exact ⟨rfl, h.addCall address⟩
  report := by
    intro r cached direct h
    refine ⟨h.known, h.asked, h.calls, ?_⟩
    simp only [Session.addReport, h.reports]

/-- **The cache is transparent.** Whatever a ledger that does not change answers, a resolution with
a cache gives the list, or fails with the error, of the resolution that asks the ledger at every
lookup and keeps nothing. The two take the same steps, and they ask for the same addresses. -/
theorem resolveExtraMetas_cached_eq_direct (ledger : Ledger) (descriptor : Pubkey)
    (request : Request) :
    let cached := (resolveExtraMetas (.cached ledger) descriptor request).execute .empty
    let direct := (resolveExtraMetas (.direct ledger) descriptor request).execute .empty
    cached.1 = direct.1 ∧ cached.2.reports = direct.2.reports ∧
      ∀ address, address ∈ cached.2.calls ↔ address ∈ direct.2.calls := by
  intro cached direct
  obtain ⟨houtcome, hsessions⟩ := (Lookup.agree_cached_direct ledger).resolveExtraMetas descriptor
    request .empty .empty (.empty ledger)
  exact ⟨houtcome, hsessions.reports, hsessions.calls⟩

end ExtraMetas
