import ExtraMetas.Proofs.Resolution.Inquiry

/-!
# ExtraMetas.Proofs.Resolution.Agreement

**Lookups that agree lead to resolutions that agree.** The resolver learns of the ledger only
through its lookup, and of the session nothing at all. So two resolutions whose lookups give the
same answers have the same outcome, and whatever relation of the two sessions every lookup keeps
holds of what they leave behind (`Lookup.Agree.resolveExtraMetas`).

Both resolutions are runs of one tree of questions (`Inquiry`), so the walk is along that tree.
-/

namespace ExtraMetas

/-- Two lookups that give the same answers and keep a relation of their sessions, which a report
keeps too. -/
structure Lookup.Agree (R : Session → Session → Prop) (lookup₁ lookup₂ : Lookup) : Prop where
  lookup : ∀ address, (lookup₁ address).Agree R (lookup₂ address)
  report : ∀ r s₁ s₂, R s₁ s₂ → R (s₁.addReport r) (s₂.addReport r)

namespace Lookup.Agree

variable {R : Session → Session → Prop} {lookup₁ lookup₂ : Lookup}

theorem run (h : Lookup.Agree R lookup₁ lookup₂) {α : Type} (i : Inquiry α) :
    (i.run lookup₁).Agree R (i.run lookup₂) := by
  induction i with
  | done a => exact Run.Agree.pure a
  | fail e => exact Run.Agree.throw e
  | report r next ih => exact (Run.Agree.report (h.report r)).bind fun _ => ih
  | ask address next ih => exact (h.lookup address).bind fun a => ih a.content?

theorem resolveExtraMetas (h : Lookup.Agree R lookup₁ lookup₂) (descriptor : Pubkey)
    (request : Request) :
    (ExtraMetas.resolveExtraMetas lookup₁ descriptor request).Agree R
      (ExtraMetas.resolveExtraMetas lookup₂ descriptor request) := by
  obtain ⟨i, hrun⟩ := exists_inquiry_resolveExtraMetas descriptor request
  rw [hrun, hrun]
  exact h.run i

end Lookup.Agree

end ExtraMetas
