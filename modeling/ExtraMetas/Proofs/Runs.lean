import ExtraMetas.Resolution.Basic

/-!
# ExtraMetas.Proofs.Runs

How a **run** is reasoned about. `execute_bind` and its neighbours compute a run step by step; four
judgements then spare most proofs the steps.

* `Run.Triple pre r post fail`: from a session with `pre` the run ends with `post`, or fails with
  `fail`. An error leaves a session behind as a result does, so failing has a postcondition too.
* `Run.SucceedsIff inv C r R`: from a session with `inv` the run succeeds exactly if `C` holds, and
  its result then has the property `R`. The conditions of the parts of a run add up to its own.
* `Run.Agree R r₁ r₂`: from related sessions the two runs have the same outcome, and they leave
  related sessions behind. A relation that every lookup keeps is kept by whatever looks accounts up.
* `Run.SameUnless F r₁ r₂ s`: from the session `s` the two runs do the same, unless `F` holds and the
  first of them fails. So what succeeds is repeated, and everything is if `F` does not hold.

Each judgement has a rule for each way in which runs are built, and each lookup an equation that
says what one use of it does.
-/

namespace ExtraMetas

namespace Run

variable {ε δ α β : Type}

/-! ### Executing a run -/

theorem execute_throw (e : ε) (s : Session) : (throw e : Run ε α).execute s = (.error e, s) := rfl

theorem execute_bind_ok {r : Run ε α} {f : α → Run ε β} {s s' : Session} {a : α}
    (h : r.execute s = (.ok a, s')) : (r >>= f).execute s = (f a).execute s' := by
  have hr : r s = (.ok a, s') := h
  show (ExceptT.bind r f) s = f a s'
  simp only [ExceptT.bind, ExceptT.mk, bind, StateT.bind, hr, ExceptT.bindCont]

theorem execute_bind_error {r : Run ε α} {f : α → Run ε β} {s s' : Session} {e : ε}
    (h : r.execute s = (.error e, s')) : (r >>= f).execute s = (.error e, s') := by
  have hr : r s = (.error e, s') := h
  show (ExceptT.bind r f) s = _
  simp only [ExceptT.bind, ExceptT.mk, bind, StateT.bind, hr, ExceptT.bindCont]
  rfl

/-- A sequence of two runs succeeds iff the first does, and the second from where the first
ended. -/
theorem execute_bind_eq_ok_iff {r : Run ε α} {f : α → Run ε β} {s t : Session} {b : β} :
    (r >>= f).execute s = (.ok b, t) ↔
      ∃ a s', r.execute s = (.ok a, s') ∧ (f a).execute s' = (.ok b, t) := by
  constructor
  · intro h
    rcases hr : r.execute s with ⟨e | a, s'⟩
    · rw [execute_bind_error hr] at h
      cases h
    · rw [execute_bind_ok hr] at h
      exact ⟨a, s', rfl, h⟩
  · rintro ⟨a, s', hr, h⟩
    rw [execute_bind_ok hr]
    exact h

theorem execute_lift_ok (inject : δ → ε) (a : α) (s : Session) :
    (lift inject (.ok a)).execute s = (.ok a, s) := rfl

theorem execute_lift_eq_ok_iff {inject : δ → ε} {x : Except δ α} {s t : Session} {a : α} :
    (lift inject x).execute s = (.ok a, t) ↔ x = .ok a ∧ s = t := by
  cases x with
  | error e =>
      constructor
      · intro h
        cases h
      · rintro ⟨h, -⟩
        cases h
  | ok b =>
      rw [execute_lift_ok, Prod.mk.injEq, Except.ok.injEq, Except.ok.injEq]

theorem execute_report (r : Report) (s : Session) :
    (report r : Run ε Unit).execute s = (.ok (), s.addReport r) := rfl

theorem execute_adapt_ok (inject : δ → ε) {r : Run δ α} {s s' : Session} {a : α}
    (h : r.execute s = (.ok a, s')) :
    execute (ExceptT.adapt inject r : Run ε α) s = (.ok a, s') := by
  show Prod.map (Except.mapError inject) id (r.execute s) = _
  rw [h]
  rfl

theorem execute_adapt_error (inject : δ → ε) {r : Run δ α} {s s' : Session} {e : δ}
    (h : r.execute s = (.error e, s')) :
    execute (ExceptT.adapt inject r : Run ε α) s = (.error (inject e), s') := by
  show Prod.map (Except.mapError inject) id (r.execute s) = _
  rw [h]
  rfl

theorem execute_withOwnCache (r : Run ε α) (s : Session) :
    r.withOwnCache.execute s = ((r.execute s.enter).1, (r.execute s.enter).2.leave) := rfl

/-! ### Triples -/

/-- What a run ended with satisfies `post` or `fail`, each together with the session left behind. -/
def Ends (post : α → Session → Prop) (fail : ε → Session → Prop) : Except ε α × Session → Prop
  | (.ok a, s) => post a s
  | (.error e, s) => fail e s

/-- From a session with `pre`, the run ends with `post` or fails with `fail`. -/
def Triple (pre : Session → Prop) (r : Run ε α) (post : α → Session → Prop)
    (fail : ε → Session → Prop) : Prop :=
  ∀ s, pre s → Ends post fail (r.execute s)

section Triples

variable {pre : Session → Prop} {post : α → Session → Prop} {fail : ε → Session → Prop}

theorem Triple.pure {a : α} (h : ∀ s, pre s → post a s) : Triple pre (pure a) post fail :=
  fun s hs => h s hs

theorem Triple.throw {e : ε} (h : ∀ s, pre s → fail e s) :
    Triple pre (throw e : Run ε α) post fail :=
  fun s hs => h s hs

theorem Triple.bind {r : Run ε α} {f : α → Run ε β} {mid : α → Session → Prop}
    {post : β → Session → Prop} (hr : Triple pre r mid fail)
    (hf : ∀ a, Triple (mid a) (f a) post fail) : Triple pre (r >>= f) post fail := by
  intro s hs
  have hends := hr s hs
  rcases h : r.execute s with ⟨e | a, s'⟩
  · rw [h] at hends
    rw [execute_bind_error h]
    exact hends
  · rw [h] at hends
    rw [execute_bind_ok h]
    exact hf a s' hends

theorem Triple.lift {inject : δ → ε} {x : Except δ α} (hok : ∀ a s, x = .ok a → pre s → post a s)
    (herror : ∀ e s, x = .error e → pre s → fail (inject e) s) :
    Triple pre (lift inject x) post fail := by
  intro s hs
  cases x with
  | ok a => exact hok a s rfl hs
  | error e => exact herror e s rfl hs

theorem Triple.report {r : Report} (h : ∀ s, pre s → pre (s.addReport r)) :
    Triple pre (report r : Run ε Unit) (fun _ => pre) fail :=
  fun s hs => h s hs

theorem Triple.mono {r : Run ε α} {post' : α → Session → Prop} (h : Triple pre r post fail)
    (hpost : ∀ a s, post a s → post' a s) : Triple pre r post' fail := by
  intro s hs
  have hends := h s hs
  rcases hr : r.execute s with ⟨e | a, s'⟩
  · rw [hr] at hends
    exact hends
  · rw [hr] at hends
    exact hpost a s' hends

theorem Triple.mono_fail {r : Run ε α} {fail' : ε → Session → Prop} (h : Triple pre r post fail)
    (hfail : ∀ e s, fail e s → fail' e s) : Triple pre r post fail' := by
  intro s hs
  have hends := h s hs
  rcases hr : r.execute s with ⟨e | a, s'⟩
  · rw [hr] at hends
    exact hfail e s' hends
  · rw [hr] at hends
    exact hends

/-- A fact of the precondition that is not about the session may be assumed. -/
theorem Triple.assume {p : Prop} {r : Run ε α} (h : p → Triple pre r post fail) :
    Triple (fun s => p ∧ pre s) r post fail :=
  fun s hs => h hs.1 s hs.2

/-- A pass over a list keeps what each of its steps keeps. -/
theorem Triple.mapM {f : α → Run ε β} {xs : List α}
    (h : ∀ x ∈ xs, Triple pre (f x) (fun _ => pre) fail) :
    Triple pre (xs.mapM f) (fun _ => pre) fail := by
  induction xs with
  | nil =>
      rw [List.mapM_nil]
      exact Triple.pure fun _ hs => hs
  | cons x xs ih =>
      rw [List.mapM_cons]
      obtain ⟨hx, hxs⟩ := List.forall_mem_cons.1 h
      exact hx.bind fun _ => (ih hxs).bind fun _ => Triple.pure fun _ hs => hs

end Triples

/-! ### Conditions of success -/

/-- From a session with `inv`, the run succeeds exactly if `C` holds. Its result then has the
property `R`, and the session that it leaves behind has `inv`. -/
def SucceedsIff (inv : Session → Prop) (C : Prop) (r : Run ε α) (R : α → Prop) : Prop :=
  Triple inv r (fun a s => (C ∧ R a) ∧ inv s) fun _ _ => ¬ C

section Conditions

variable {inv : Session → Prop} {C D : Prop} {R : α → Prop} {T : β → Prop}

theorem SucceedsIff.pure {a : α} (hC : C) (h : R a) :
    SucceedsIff inv C (pure a : Run ε α) R :=
  Triple.pure fun _ hs => ⟨⟨hC, h⟩, hs⟩

theorem SucceedsIff.throw {e : ε} (hC : ¬ C) : SucceedsIff inv C (throw e : Run ε α) R :=
  Triple.throw fun _ _ => hC

theorem SucceedsIff.lift {inject : δ → ε} {x : Except δ α} (hC : (∃ a, x = .ok a) ↔ C)
    (hR : ∀ a, x = .ok a → R a) : SucceedsIff inv C (lift inject x) R := by
  refine Triple.lift (fun a s ha hs => ⟨⟨hC.1 ⟨a, ha⟩, hR a ha⟩, hs⟩) fun e s he _ h => ?_
  obtain ⟨a, ha⟩ := hC.2 h
  rw [he] at ha
  cases ha

/-- The second part of a run is reached only if the condition of the first one holds. -/
theorem SucceedsIff.bind {r : Run ε α} {f : α → Run ε β} (hr : SucceedsIff inv C r R)
    (hf : C → ∀ a, R a → SucceedsIff inv D (f a) T) : SucceedsIff inv (C ∧ D) (r >>= f) T := by
  have hfirst : Triple inv r (fun a s => (C ∧ R a) ∧ inv s) fun _ _ => ¬ (C ∧ D) :=
    Triple.mono_fail hr fun _ _ hC h => hC h.1
  refine hfirst.bind fun a => Triple.assume fun ⟨hC, hR⟩ => ?_
  have hsecond := Triple.mono (hf hC a hR) fun b s h =>
    (⟨⟨⟨hC, h.1.1⟩, h.1.2⟩, h.2⟩ : ((C ∧ D) ∧ T b) ∧ inv s)
  exact hsecond.mono_fail fun _ _ hD h => hD h.2

theorem SucceedsIff.congr {r : Run ε α} (h : SucceedsIff inv C r R) (hCD : C ↔ D) :
    SucceedsIff inv D r R := by
  obtain rfl : C = D := propext hCD
  exact h

/-- A second part that always succeeds adds no condition. -/
theorem SucceedsIff.bind_total {r : Run ε α} {f : α → Run ε β} (hr : SucceedsIff inv C r R)
    (hf : C → ∀ a, R a → SucceedsIff inv True (f a) T) : SucceedsIff inv C (r >>= f) T :=
  (hr.bind hf).congr (and_iff_left trivial)

/-- A pass over a list succeeds exactly if each of its steps does. -/
theorem SucceedsIff.mapM {f : α → Run ε β} {P : α → Prop} {v : α → β} {xs : List α}
    (h : ∀ x ∈ xs, SucceedsIff inv (P x) (f x) (· = v x)) :
    SucceedsIff inv (∀ x ∈ xs, P x) (xs.mapM f) (· = xs.map v) := by
  induction xs with
  | nil =>
      rw [List.mapM_nil]
      exact SucceedsIff.pure (fun x hx => (List.not_mem_nil hx).elim) rfl
  | cons x xs ih =>
      rw [List.mapM_cons]
      obtain ⟨hx, hxs⟩ := List.forall_mem_cons.1 h
      refine (hx.bind fun _ y hy => (ih hxs).bind_total fun _ ys hys => ?_).congr
        List.forall_mem_cons.symm
      exact SucceedsIff.pure trivial (by rw [hy, hys, List.map_cons])

/-- What the judgement says of the outcome of one run. -/
theorem SucceedsIff.outcome {r : Run ε α} (h : SucceedsIff inv C r R) {s : Session} (hs : inv s) :
    ((∃ a, (r.execute s).1 = .ok a) ↔ C) ∧ ∀ a, (r.execute s).1 = .ok a → R a := by
  have hends := h s hs
  rcases hr : r.execute s with ⟨e | a, t⟩
  · rw [hr] at hends
    refine ⟨⟨?_, fun hC => absurd hC hends⟩, ?_⟩
    · rintro ⟨a, ha⟩
      cases ha
    · intro a ha
      cases ha
  · rw [hr] at hends
    obtain ⟨⟨hC, hR⟩, -⟩ := hends
    refine ⟨⟨fun _ => hC, fun _ => ⟨a, rfl⟩⟩, ?_⟩
    rintro _ ⟨⟩
    exact hR

end Conditions

/-! ### Agreement -/

/-- From related sessions, the two runs have the same outcome and leave related sessions behind. -/
def Agree (R : Session → Session → Prop) (r₁ r₂ : Run ε α) : Prop :=
  ∀ s₁ s₂, R s₁ s₂ →
    (r₁.execute s₁).1 = (r₂.execute s₂).1 ∧ R (r₁.execute s₁).2 (r₂.execute s₂).2

section Agreement

variable {R : Session → Session → Prop}

theorem Agree.pure (a : α) : Agree R (pure a : Run ε α) (pure a) :=
  fun _ _ h => ⟨rfl, h⟩

theorem Agree.throw (e : ε) : Agree R (throw e : Run ε α) (throw e) :=
  fun _ _ h => ⟨rfl, h⟩

theorem Agree.report {r : Report} (h : ∀ s₁ s₂, R s₁ s₂ → R (s₁.addReport r) (s₂.addReport r)) :
    Agree R (report r : Run ε Unit) (report r) :=
  fun s₁ s₂ hs => ⟨rfl, h s₁ s₂ hs⟩

theorem Agree.bind {r₁ r₂ : Run ε α} {f₁ f₂ : α → Run ε β} (hr : Agree R r₁ r₂)
    (hf : ∀ a, Agree R (f₁ a) (f₂ a)) : Agree R (r₁ >>= f₁) (r₂ >>= f₂) := by
  intro s₁ s₂ hs
  obtain ⟨houtcome, hsessions⟩ := hr s₁ s₂ hs
  rcases h₁ : r₁.execute s₁ with ⟨o₁, t₁⟩
  rcases h₂ : r₂.execute s₂ with ⟨o₂, t₂⟩
  rw [h₁, h₂] at houtcome hsessions
  obtain rfl : o₁ = o₂ := houtcome
  cases o₁ with
  | error e =>
      rw [execute_bind_error h₁, execute_bind_error h₂]
      exact ⟨rfl, hsessions⟩
  | ok a =>
      rw [execute_bind_ok h₁, execute_bind_ok h₂]
      exact hf a t₁ t₂ hsessions

end Agreement

/-! ### Repetition -/

/-- From `s`, the two runs do the same, unless `F` holds and the first one fails. -/
def SameUnless (F : Prop) (r₁ r₂ : Run ε α) (s : Session) : Prop :=
  r₁.execute s = r₂.execute s ∨ F ∧ ∃ e t, r₁.execute s = (.error e, t)

section Repetition

variable {F : Prop} {r r₁ r₂ : Run ε α} {s : Session}

theorem SameUnless.refl : SameUnless F r r s :=
  .inl rfl

/-- What follows the runs may rely on what the first one gave. -/
theorem SameUnless.bind {f₁ f₂ : α → Run ε β} (hr : SameUnless F r₁ r₂ s)
    (hf : ∀ a t, r₁.execute s = (.ok a, t) → SameUnless F (f₁ a) (f₂ a) t) :
    SameUnless F (r₁ >>= f₁) (r₂ >>= f₂) s := by
  rcases hr with heq | ⟨hF, e, t, hfail⟩
  · rcases h₁ : r₁.execute s with ⟨e | a, t⟩
    · rw [h₁] at heq
      exact .inl ((execute_bind_error h₁).trans (execute_bind_error heq.symm).symm)
    · rw [h₁] at heq
      rw [SameUnless, execute_bind_ok h₁, execute_bind_ok heq.symm]
      exact hf a t h₁
  · exact .inr ⟨hF, e, t, execute_bind_error hfail⟩

theorem SameUnless.mapM {f₁ f₂ : α → Run ε β} {xs : List α}
    (h : ∀ x ∈ xs, ∀ s, SameUnless F (f₁ x) (f₂ x) s) (s : Session) :
    SameUnless F (xs.mapM f₁) (xs.mapM f₂) s := by
  induction xs generalizing s with
  | nil =>
      rw [List.mapM_nil, List.mapM_nil]
      exact .refl
  | cons x xs ih =>
      rw [List.mapM_cons, List.mapM_cons]
      obtain ⟨hx, hxs⟩ := List.forall_mem_cons.1 h
      exact (hx s).bind fun _ t _ => (ih hxs t).bind fun _ _ _ => .refl

theorem SameUnless.of_ok (h : SameUnless F r₁ r₂ s) {a : α} {t : Session}
    (ha : r₁.execute s = (.ok a, t)) : r₂.execute s = (.ok a, t) := by
  rcases h with heq | ⟨-, e, t', hfail⟩
  · rw [← heq, ha]
  · rw [hfail] at ha
    cases ha

theorem SameUnless.eq_of_not (h : SameUnless F r₁ r₂ s) (hF : ¬ F) :
    r₁.execute s = r₂.execute s :=
  h.resolve_right fun hfail => hF hfail.1

end Repetition

end Run

/-! ### Sessions -/

theorem Session.find?_addAccount (s : Session) (address other : Pubkey) (a : Account) :
    (s.addAccount address a).find? other = if other = address then some a else s.find? other := by
  rw [Session.find?, Session.addAccount, List.lookup_cons]
  by_cases h : other = address
  · rw [if_pos h, beq_iff_eq.2 h]
  · rw [if_neg h, beq_eq_false_iff_ne.2 h]
    rfl

/-! ### Lookups -/

namespace Lookup

section

variable {port : Port} {fetch : Lookup} {address : Pubkey} {s s' : Session} {a : Account}

theorem execute_ask_of_ok (h : (port s.calls).account address = .ok a) :
    (ask port address).execute s = (.ok a, s.addCall address) := by
  show (Run.lift ResolveError.fetch ((port s.calls).account address)).execute
    (s.addCall address) = _
  rw [h]
  rfl

theorem execute_ask_of_error {e : FetchError} (h : (port s.calls).account address = .error e) :
    (ask port address).execute s = (.error (.fetch e), s.addCall address) := by
  show (Run.lift ResolveError.fetch ((port s.calls).account address)).execute
    (s.addCall address) = _
  rw [h]
  rfl

/-- What the ledger gave is what the port gives after the calls before. -/
theorem account_of_ask (h : (ask port address).execute s = (.ok a, s')) :
    (port s.calls).account address = .ok a := by
  cases haccount : (port s.calls).account address with
  | error e =>
      rw [execute_ask_of_error haccount] at h
      cases h
  | ok b =>
      rw [execute_ask_of_ok haccount] at h
      cases h
      rfl

/-- One use of a cache: what it has, or else what `fetch` gives, which is kept. -/
theorem execute_cachedOver :
    (cachedOver fetch address).execute s = Run.execute (match s.find? address with
      | some a => pure a
      | none => fetch address >>= fun a => modify (·.addAccount address a) >>= fun _ => pure a)
        s :=
  rfl

theorem execute_cachedOver_of_found (h : s.find? address = some a) :
    (cachedOver fetch address).execute s = (.ok a, s) := by
  rw [execute_cachedOver, h]
  rfl

theorem execute_cachedOver_of_fetched (h : s.find? address = none)
    (hfetch : (fetch address).execute s = (.ok a, s')) :
    (cachedOver fetch address).execute s = (.ok a, s'.addAccount address a) := by
  rw [execute_cachedOver, h]
  dsimp only
  rw [Run.execute_bind_ok hfetch]
  rfl

theorem execute_cachedOver_of_failed {e : ResolveError} (h : s.find? address = none)
    (hfetch : (fetch address).execute s = (.error e, s')) :
    (cachedOver fetch address).execute s = (.error e, s') := by
  rw [execute_cachedOver, h]
  dsimp only
  rw [Run.execute_bind_error hfetch]

/-- What a cache gives for an address that it does not have is what it was given. -/
theorem exists_fetched_of_cachedOver (h : s.find? address = none)
    (hrun : (cachedOver fetch address).execute s = (.ok a, s')) :
    ∃ t, (fetch address).execute s = (.ok a, t) := by
  rcases hfetch : (fetch address).execute s with ⟨e | b, t⟩
  · rw [execute_cachedOver_of_failed h hfetch] at hrun
    cases hrun
  · rw [execute_cachedOver_of_fetched h hfetch] at hrun
    cases hrun
    exact ⟨t, rfl⟩

/-- A lookup behind a cache in front of a port: the cache has the account, or the port gives it, or
the port fails. -/
theorem triple_cachedOver_ask {pre : Session → Prop} {post : Account → Session → Prop}
    {fail : ResolveError → Session → Prop}
    (hfound : ∀ s a, pre s → s.find? address = some a → post a s)
    (hfetched : ∀ s a, pre s → s.find? address = none → (port s.calls).account address = .ok a →
      post a ((s.addCall address).addAccount address a))
    (hfailed : ∀ s e, pre s → s.find? address = none →
      (port s.calls).account address = .error e → fail (.fetch e) (s.addCall address)) :
    (cachedOver (ask port) address).Triple pre post fail := by
  intro s hs
  cases hfind : s.find? address with
  | some a =>
      rw [execute_cachedOver_of_found hfind]
      exact hfound s a hs hfind
  | none =>
      cases haccount : (port s.calls).account address with
      | ok a =>
          rw [execute_cachedOver_of_fetched hfind (execute_ask_of_ok haccount)]
          exact hfetched s a hs hfind haccount
      | error e =>
          rw [execute_cachedOver_of_failed hfind (execute_ask_of_error haccount)]
          exact hfailed s e hs hfind haccount

theorem execute_outside {lookup : Lookup} {o : Except ResolveError Account}
    (h : (lookup address).execute s.leave = (o, s')) :
    (lookup.outside address).execute s = (o, s'.reenter s.accounts) := by
  show (((lookup address).execute s.leave).1,
    ((lookup address).execute s.leave).2.reenter s.accounts) = _
  rw [h]

end

section

variable {ledger : Ledger} {address : Pubkey} {s : Session} {a : Account}

theorem execute_cached_of_found (h : s.find? address = some a) :
    (cached ledger address).execute s = (.ok a, s) :=
  execute_cachedOver_of_found h

theorem execute_cached_of_fetched (h : s.find? address = none)
    (haccount : ledger.account address = .ok a) :
    (cached ledger address).execute s = (.ok a, (s.addCall address).addAccount address a) :=
  execute_cachedOver_of_fetched h (execute_ask_of_ok haccount)

theorem execute_cached_of_failed {e : FetchError} (h : s.find? address = none)
    (haccount : ledger.account address = .error e) :
    (cached ledger address).execute s = (.error (.fetch e), s.addCall address) :=
  execute_cachedOver_of_failed h (execute_ask_of_error haccount)

end

end Lookup

end ExtraMetas
