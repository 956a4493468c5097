import Mathlib.Data.List.Forall2

/-!
# ExtraMetas.Proofs.Outcome

How a computation that may fail is taken apart: a sequence of two steps succeeds iff both do
(`bind_eq_ok_iff`), and a step for each item of a list succeeds iff it does for every item
(`mapM_eq_ok_iff`). What is proved about encoding, decoding and base accounts reads its intermediate
results off with these.

Where both outcomes matter, `SucceedsIff` says in one judgement under which condition a computation
succeeds, what its result is like, and what its error is like. It is closed under sequence and
repetition.

Where it matters which of several refusals comes first, `Checks` lists them in their order.
-/

namespace ExtraMetas.Except

variable {ε α β : Type}

theorem bind_eq_ok_iff {x : Except ε α} {f : α → Except ε β} {b : β} :
    (x >>= f) = .ok b ↔ ∃ a, x = .ok a ∧ f a = .ok b := by
  cases x with
  | error e =>
      constructor
      · intro h
        cases h
      · rintro ⟨a, ha, -⟩
        cases ha
  | ok a =>
      constructor
      · intro h
        exact ⟨a, rfl, h⟩
      · rintro ⟨a', ha, h⟩
        cases ha
        exact h

theorem pure_eq_ok_iff {a b : α} : (pure a : Except ε α) = .ok b ↔ a = b :=
  ⟨fun h => Except.ok.inj h, fun h => h ▸ rfl⟩

theorem map_eq_ok_iff {f : α → β} {x : Except ε α} {b : β} :
    x.map f = .ok b ↔ ∃ a, x = .ok a ∧ f a = b := by
  cases x with
  | error e => simp [Except.map]
  | ok a => simp [Except.map]

theorem map_eq_error_iff {f : α → β} {x : Except ε α} {e : ε} :
    x.map f = .error e ↔ x = .error e := by
  cases x with
  | error e' =>
      constructor
      · intro h
        cases h
        rfl
      · intro h
        cases h
        rfl
  | ok a =>
      constructor
      · intro h
        cases h
      · intro h
        cases h

/-- A pass over a list succeeds iff each item does, and its results stand in the items' order. -/
theorem mapM_eq_ok_iff {f : α → Except ε β} {xs : List α} {ys : List β} :
    xs.mapM f = .ok ys ↔ List.Forall₂ (fun x y => f x = .ok y) xs ys := by
  induction xs generalizing ys with
  | nil =>
      rw [List.mapM_nil, pure_eq_ok_iff, List.forall₂_nil_left_iff]
      exact eq_comm
  | cons x xs ih =>
      rw [List.mapM_cons, bind_eq_ok_iff, List.forall₂_cons_left_iff]
      constructor
      · rintro ⟨y, hy, hrest⟩
        obtain ⟨ys', hys, hpure⟩ := bind_eq_ok_iff.1 hrest
        exact ⟨y, ys', hy, ih.1 hys, (pure_eq_ok_iff.1 hpure).symm⟩
      · rintro ⟨y, ys', hy, hys, rfl⟩
        exact ⟨y, hy, bind_eq_ok_iff.2 ⟨ys', ih.2 hys, rfl⟩⟩

/-! ### Conditions of success -/

/-- The computation succeeds exactly if `C` holds. Its result satisfies `R`, its error `E`. -/
def SucceedsIff (C : Prop) (x : Except ε α) (R : α → Prop) (E : ε → Prop) : Prop :=
  match x with
  | .ok a => C ∧ R a
  | .error e => ¬ C ∧ E e

section Conditions

variable {C D : Prop} {x : Except ε α} {R : α → Prop} {S : β → Prop} {E : ε → Prop}

theorem SucceedsIff.congr (h : SucceedsIff C x R E) (hCD : C ↔ D) : SucceedsIff D x R E := by
  obtain rfl : C = D := propext hCD
  exact h

theorem SucceedsIff.bind {f : α → Except ε β} (hx : SucceedsIff C x R E)
    (hf : ∀ a, R a → SucceedsIff D (f a) S E) : SucceedsIff (C ∧ D) (x >>= f) S E := by
  cases x with
  | error e =>
      obtain ⟨hC, he⟩ := hx
      exact ⟨fun h => hC h.1, he⟩
  | ok a =>
      obtain ⟨hC, ha⟩ := hx
      exact (hf a ha).congr (by simp [hC])

/-- A second step that cannot fail adds no condition. -/
theorem SucceedsIff.bind_pure {f : α → β} (hx : SucceedsIff C x R E)
    (hf : ∀ a, R a → S (f a)) : SucceedsIff C (x >>= fun a => pure (f a)) S E := by
  have h : SucceedsIff (C ∧ True) (x >>= fun a => pure (f a)) S E :=
    hx.bind fun a ha => ⟨trivial, hf a ha⟩
  exact h.congr (by simp)

/-- A pass over a list succeeds exactly if each of its steps does. -/
theorem SucceedsIff.mapM {f : α → Except ε β} {P : α → Prop} {T : α → β → Prop} {xs : List α}
    (h : ∀ x ∈ xs, SucceedsIff (P x) (f x) (T x) E) :
    SucceedsIff (∀ x ∈ xs, P x) (xs.mapM f) (List.Forall₂ T xs) E := by
  induction xs with
  | nil => exact ⟨by simp, .nil⟩
  | cons x xs ih =>
      obtain ⟨hx, hxs⟩ := List.forall_mem_cons.1 h
      rw [List.mapM_cons]
      refine (hx.bind fun y hy => ?_).congr List.forall_mem_cons.symm
      exact (ih hxs).bind_pure fun ys hys => .cons hy hys

theorem SucceedsIff.exists_ok_iff (h : SucceedsIff C x R E) : (∃ a, x = .ok a) ↔ C := by
  cases x with
  | error e => simp [h.1]
  | ok a => simp [h.1]

theorem SucceedsIff.of_ok {a : α} (h : SucceedsIff C x R E) (ha : x = .ok a) : R a := by
  subst ha
  exact h.2

theorem SucceedsIff.exists_error (h : SucceedsIff C x R E) (hC : ¬ C) :
    ∃ e, x = .error e ∧ E e := by
  cases x with
  | error e => exact ⟨e, rfl, h.2⟩
  | ok a => exact absurd h.1 hC

end Conditions

/-! ### Checks in order -/

/-- The computation makes the checks one after the other: the first refusal is its error, and
without one it has a result with `R`. -/
def Checks (checks : List (Option ε)) (x : Except ε α) (R : α → Prop) : Prop :=
  match checks.findSome? id with
  | some e => x = .error e
  | none => ∃ a, x = .ok a ∧ R a

section Checks

variable {checks more : List (Option ε)} {x : Except ε α} {R : α → Prop} {S : β → Prop}

theorem Checks.bind {f : α → Except ε β} (hx : Checks checks x R)
    (hf : ∀ a, R a → Checks more (f a) S) : Checks (checks ++ more) (x >>= f) S := by
  rw [Checks, List.findSome?_append]
  rw [Checks] at hx
  cases hfirst : checks.findSome? id with
  | some e =>
      rw [hfirst] at hx
      subst hx
      rfl
  | none =>
      rw [hfirst] at hx
      obtain ⟨a, rfl, ha⟩ := hx
      exact hf a ha

/-- A last step that never fails makes no check. -/
theorem Checks.bind_ok {f : α → Except ε β} (hx : Checks checks x R)
    (hf : ∀ a, R a → ∃ b, f a = .ok b ∧ S b) : Checks checks (x >>= f) S := by
  rw [← List.append_nil checks]
  exact hx.bind hf

theorem Checks.bind_pure {f : α → β} (hx : Checks checks x R) (hf : ∀ a, R a → S (f a)) :
    Checks checks (x >>= fun a => pure (f a)) S :=
  hx.bind_ok fun a ha => ⟨f a, rfl, hf a ha⟩

/-- A pass over a list makes the checks of its steps in their order. -/
theorem Checks.mapM {f : α → Except ε β} {c : α → List (Option ε)} {T : α → β → Prop}
    {xs : List α} (h : ∀ x ∈ xs, Checks (c x) (f x) (T x)) :
    Checks (xs.flatMap c) (xs.mapM f) (List.Forall₂ T xs) := by
  induction xs with
  | nil => exact ⟨[], rfl, .nil⟩
  | cons x xs ih =>
      obtain ⟨hx, hxs⟩ := List.forall_mem_cons.1 h
      rw [List.mapM_cons, List.flatMap_cons]
      exact hx.bind fun y hy => (ih hxs).bind_pure fun ys hys => .cons hy hys

theorem Checks.eq_error_iff (h : Checks checks x R) {e : ε} :
    x = .error e ↔ checks.findSome? id = some e := by
  rw [Checks] at h
  cases hfirst : checks.findSome? id with
  | some e' =>
      rw [hfirst] at h
      simp [h]
  | none =>
      rw [hfirst] at h
      obtain ⟨a, rfl, -⟩ := h
      simp

theorem Checks.exists_ok_iff (h : Checks checks x R) :
    (∃ a, x = .ok a) ↔ ∀ check ∈ checks, check = none := by
  have hnone : (∀ check ∈ checks, check = none) ↔ checks.findSome? id = none :=
    List.findSome?_eq_none_iff.symm
  rw [hnone, Option.eq_none_iff_forall_ne_some]
  cases x with
  | error e => simpa using ⟨e, h.eq_error_iff.1 rfl⟩
  | ok a => simp [← h.eq_error_iff]

/-- The error of a computation, if it has one. -/
def failure? : Except ε α → Option ε
  | .error e => some e
  | .ok _ => none

theorem failure?_eq_some_iff {e : ε} : failure? x = some e ↔ x = .error e := by
  cases x <;> simp [failure?]

theorem failure?_eq_none_iff : failure? x = none ↔ ∃ a, x = .ok a := by
  cases x <;> simp [failure?]

theorem checks_failure? (x : Except ε α) : Checks [failure? x] x (fun _ => True) := by
  cases x with
  | error e => rfl
  | ok a => exact ⟨a, rfl, trivial⟩

/-- A pass over a list fails as the first of its steps that fails. -/
theorem mapM_eq_error_iff {f : α → Except ε β} {xs : List α} {e : ε} :
    xs.mapM f = .error e ↔ ∃ before x after, xs = before ++ x :: after ∧
      f x = .error e ∧ ∀ y ∈ before, ∃ b, f y = .ok b := by
  have hsteps := Checks.mapM fun x (_ : x ∈ xs) => checks_failure? (f x)
  rw [hsteps.eq_error_iff, ← List.map_eq_flatMap, List.findSome?_map, List.findSome?_eq_some_iff]
  simp only [Function.comp, id, failure?_eq_some_iff, failure?_eq_none_iff]

end Checks

end ExtraMetas.Except

/-- Items have partners one by one iff each of them has one. -/
theorem ExtraMetas.exists_forall₂_iff {α β : Type} {R : α → β → Prop} {xs : List α} :
    (∃ ys, List.Forall₂ R xs ys) ↔ ∀ x ∈ xs, ∃ y, R x y := by
  induction xs with
  | nil => simp
  | cons x xs ih =>
      simp only [List.forall₂_cons_left_iff, List.forall_mem_cons, ← ih]
      constructor
      · rintro ⟨ys, y, ys', hy, hys, -⟩
        exact ⟨⟨y, hy⟩, ys', hys⟩
      · rintro ⟨⟨y, hy⟩, ys, hys⟩
        exact ⟨y :: ys, y, ys, hy, hys, rfl⟩
