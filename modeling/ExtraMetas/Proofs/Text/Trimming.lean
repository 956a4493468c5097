import ExtraMetas.Text.Blank
import Mathlib.Data.List.DropRight

/-!
# ExtraMetas.Proofs.Text.Trimming

What **trimming** leaves. A text is trimmed (`Text.IsTrimmed`) if neither of its ends is to be taken
off; trimming makes such a text (`Text.isTrimmed_trimEnds`) and leaves one alone
(`Text.IsTrimmed.trimEnds_eq`). What stands in front of a text or after it makes no difference if
all of it is to be taken off (`Text.trimEnds_append_left`, `Text.trimEnds_append_right`).
-/

namespace ExtraMetas.Text

/-- Neither end of the text satisfies `p`. -/
structure IsTrimmed (p : Char → Bool) (s : List Char) : Prop where
  head : ∀ c, s.head? = some c → p c = false
  last : ∀ c, s.getLast? = some c → p c = false

variable {p : Char → Bool} {s t : List Char} {c : Char}

/-- Trimming is taking characters off the front, and then off the back. -/
theorem trimEnds_eq (p : Char → Bool) (s : List Char) :
    trimEnds p s = (s.dropWhile p).rdropWhile p :=
  rfl

/-! ### The back of a text -/

theorem rdropWhile_append_of_pos (h : ∀ c ∈ t, p c = true) :
    (s ++ t).rdropWhile p = s.rdropWhile p := by
  rw [List.rdropWhile, List.reverse_append, List.dropWhile_append_of_pos (by simpa using h),
    List.rdropWhile]

/-- What is taken off the back stops at a character that stays. -/
theorem rdropWhile_append_cons (hc : p c = false) :
    (s ++ c :: t).rdropWhile p = s ++ c :: t.rdropWhile p := by
  induction t using List.reverseRecOn with
  | nil => simp [hc]
  | append_singleton t d ih =>
      rw [← List.cons_append, ← List.append_assoc, List.rdropWhile_concat, List.rdropWhile_concat]
      by_cases hd : p d = true
      · simpa [hd] using ih
      · simp [hd]

/-! ### What trimming makes -/

theorem head?_dropWhile (h : (s.dropWhile p).head? = some c) : p c = false := by
  simpa [h] using List.head?_dropWhile_not p s

theorem isTrimmed_trimEnds (p : Char → Bool) (s : List Char) : IsTrimmed p (trimEnds p s) where
  head := by
    intro c hc
    -- what is left at the back is a start of what was left at the front
    obtain ⟨rest, hrest⟩ := List.rdropWhile_prefix p (s.dropWhile p)
    refine head?_dropWhile (s := s) ?_
    rw [trimEnds_eq] at hc
    rw [← hrest, List.head?_append, hc, Option.some_or]
  last := by
    intro c hc
    rw [trimEnds_eq, List.rdropWhile, List.getLast?_reverse] at hc
    exact head?_dropWhile hc

/-- A trimmed text stays as it is. -/
theorem IsTrimmed.trimEnds_eq (h : IsTrimmed p s) : trimEnds p s = s := by
  have hfront : s.dropWhile p = s := by
    cases s with
    | nil => rfl
    | cons c s => simp [h.head c rfl]
  rw [Text.trimEnds_eq, hfront, List.rdropWhile_eq_self_iff]
  intro hs
  simp [h.last _ (List.getLast?_eq_some_getLast hs)]

/-- The trimmed texts are those that trimming leaves alone. -/
theorem isTrimmed_iff : IsTrimmed p s ↔ trimEnds p s = s :=
  ⟨IsTrimmed.trimEnds_eq, fun h => h ▸ isTrimmed_trimEnds p s⟩

instance : Decidable (IsTrimmed p s) :=
  decidable_of_iff _ isTrimmed_iff.symm

/-- Nothing remains of a text iff all of it is to be taken off. -/
theorem trimEnds_eq_nil_iff : trimEnds p s = [] ↔ ∀ c ∈ s, p c = true := by
  rw [trimEnds_eq, List.rdropWhile_eq_nil_iff]
  constructor
  · intro h
    -- what is left at the front would begin with a character that stays
    cases hs : s.dropWhile p with
    | nil => exact List.dropWhile_eq_nil_iff.1 hs
    | cons d rest =>
        have hstays : p d = false := head?_dropWhile (by rw [hs]; rfl)
        have htaken : p d = true := h d (by simp [hs])
        simp [hstays] at htaken
  · intro h c hc
    exact h c (List.dropWhile_subset p hc)

theorem mem_of_mem_trimEnds (h : c ∈ trimEnds p s) : c ∈ s := by
  rw [trimEnds_eq] at h
  exact List.dropWhile_subset p ((List.rdropWhile_prefix p _).subset h)

/-! ### What stands around a text -/

theorem trimEnds_append_left (h : ∀ c ∈ s, p c = true) : trimEnds p (s ++ t) = trimEnds p t := by
  rw [trimEnds_eq, List.dropWhile_append_of_pos h, trimEnds_eq]

theorem trimEnds_append_right (h : ∀ c ∈ t, p c = true) : trimEnds p (s ++ t) = trimEnds p s := by
  rw [trimEnds_eq, trimEnds_eq, List.dropWhile_append]
  by_cases hs : (s.dropWhile p).isEmpty = true
  · rw [if_pos hs, List.dropWhile_eq_nil_iff.2 h, List.isEmpty_iff.1 hs]
  · rw [if_neg hs, rdropWhile_append_of_pos h]

/-- A character that stays divides what is taken off the front from what is taken off the back. -/
theorem trimEnds_append_cons (hs : IsTrimmed p s) (hc : p c = false) :
    trimEnds p (s ++ c :: t) = s ++ c :: t.rdropWhile p := by
  have hfront : (s ++ c :: t).dropWhile p = s ++ c :: t := by
    cases s with
    | nil => simp [hc]
    | cons d s => simp [hs.head d rfl]
  rw [trimEnds_eq, hfront, rdropWhile_append_cons hc]

theorem trimEnds_rdropWhile (p : Char → Bool) (s : List Char) :
    trimEnds p (s.rdropWhile p) = trimEnds p s := by
  conv_rhs => rw [← List.rdropWhile_append_rtakeWhile (p := p) (l := s)]
  exact (trimEnds_append_right fun c hc => List.mem_rtakeWhile_imp hc).symm

end ExtraMetas.Text
