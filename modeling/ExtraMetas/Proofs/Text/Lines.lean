import ExtraMetas.Text.Lines
import Mathlib.Data.List.Basic

/-!
# ExtraMetas.Proofs.Text.Lines

Where a text is **cut into lines**. Its first line ends at the first line break
(`Text.lines_unifyNewlines_append`), and what is left is cut in the same way. A carriage return in
front of a line feed is the one case in which the two together are the break.
-/

namespace ExtraMetas.Text

/-- The text has no line break in it. -/
def IsInLine (s : List Char) : Prop :=
  ∀ c ∈ s, isLineBreak c = false

-- by name, since there is an instance that tries every character
instance (s : List Char) : Decidable (IsInLine s) :=
  List.decidableBAll (isLineBreak · = false) s

variable {s rest line : List Char} {c : Char}

theorem IsInLine.append {t : List Char} (hs : IsInLine s) (ht : IsInLine t) :
    IsInLine (s ++ t) := by
  intro c hc
  rcases List.mem_append.1 hc with hc | hc
  · exact hs c hc
  · exact ht c hc

theorem IsInLine.cons (hc : isLineBreak c = false) (hs : IsInLine s) : IsInLine (c :: s) := by
  intro d hd
  rcases List.mem_cons.1 hd with rfl | hd
  · exact hc
  · exact hs d hd

theorem ne_return_of_isLineBreak_eq_false (h : isLineBreak c = false) : c ≠ '\r' := by
  rintro rfl
  revert h
  decide

/-! ### Unifying line endings -/

theorem unifyNewlines_cons (hc : c ≠ '\r') :
    unifyNewlines (c :: rest) = c :: unifyNewlines rest := by
  rw [unifyNewlines]
  · simp_all
  · simp_all

theorem unifyNewlines_return (h : rest.head? ≠ some '\n') :
    unifyNewlines ('\r' :: rest) = '\n' :: unifyNewlines rest := by
  rw [unifyNewlines]
  rintro rest' rfl
  simp at h

theorem unifyNewlines_append (hs : IsInLine s) :
    unifyNewlines (s ++ rest) = s ++ unifyNewlines rest := by
  induction s with
  | nil => rfl
  | cons c s ih =>
      have hc := ne_return_of_isLineBreak_eq_false (hs c List.mem_cons_self)
      rw [List.cons_append, unifyNewlines_cons hc, ih fun d hd => hs d (List.mem_cons_of_mem c hd)]
      rfl

/-! ### Cutting -/

theorem linesFrom_cons (hc : c ≠ '\r') :
    linesFrom line (c :: rest) =
      if isLineBreak c then line.reverse :: linesFrom [] rest else linesFrom (c :: line) rest := by
  rw [linesFrom]
  simp_all

theorem linesFrom_append (hs : IsInLine s) :
    linesFrom line (s ++ rest) = linesFrom (s.reverse ++ line) rest := by
  induction s generalizing line with
  | nil => rfl
  | cons c s ih =>
      have hc := hs c List.mem_cons_self
      rw [List.cons_append, linesFrom_cons (ne_return_of_isLineBreak_eq_false hc), hc,
        if_neg (by decide), ih fun d hd => hs d (List.mem_cons_of_mem c hd), List.reverse_cons,
        List.append_assoc]
      rfl

/-- A text without a line break is one line, if there is any of it. -/
theorem lines_of_isInLine (hs : IsInLine s) : lines s = if s.isEmpty then [] else [s] := by
  have h : linesFrom [] (s ++ []) = linesFrom (s.reverse ++ []) [] := linesFrom_append hs
  rw [List.append_nil, List.append_nil] at h
  rw [lines, h, linesFrom]
  simp

theorem lines_append (hs : IsInLine s) (hc : isLineBreak c = true) (hreturn : c ≠ '\r') :
    lines (s ++ c :: rest) = s :: lines rest := by
  rw [lines, linesFrom_append hs, linesFrom_cons hreturn, if_pos hc]
  simp [lines]

/-- The first line of a text ends at the first line break. -/
theorem lines_unifyNewlines_append (hs : IsInLine s) (hc : isLineBreak c = true)
    (hpair : c = '\r' → rest.head? ≠ some '\n') :
    lines (unifyNewlines (s ++ c :: rest)) = s :: lines (unifyNewlines rest) := by
  rw [unifyNewlines_append hs]
  by_cases hreturn : c = '\r'
  · subst hreturn
    rw [unifyNewlines_return (hpair rfl), lines_append hs (by decide) (by decide)]
  · rw [unifyNewlines_cons hreturn, lines_append hs hc hreturn]

/-- A carriage return and a line feed are one line break. -/
theorem lines_unifyNewlines_append_pair (hs : IsInLine s) :
    lines (unifyNewlines (s ++ '\r' :: '\n' :: rest)) = s :: lines (unifyNewlines rest) := by
  rw [unifyNewlines_append hs, unifyNewlines, lines_append hs (by decide) (by decide)]

end ExtraMetas.Text
