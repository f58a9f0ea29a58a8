import Highlighter.Text.Position
import Mathlib.Data.List.TakeWhile

/-!
# Positions as an ordered set of places

Positions are linearly ordered, so the order lemmas of the standard library apply to them.
Walking over a text is an action of texts on positions: `Position.advancedBy_append` takes a walk
apart, and `Position.lt_advancedBy` says that a walk over at least one character leads forward.
-/

namespace Highlighter.Position

/-- The order compares lines first. -/
theorem lt_iff {left right : Position} :
    left < right ↔
      left.line < right.line ∨ (left.line = right.line ∧ left.column < right.column) :=
  Iff.rfl

/-- The weak order compares lines first as well. -/
theorem le_iff {left right : Position} :
    left ≤ right ↔
      left.line < right.line ∨ (left.line = right.line ∧ left.column ≤ right.column) :=
  Iff.rfl

instance : Std.LawfulOrderLT Position where
  lt_iff left right := by
    rw [lt_iff, le_iff, le_iff]
    omega

instance : Std.IsLinearOrder Position where
  le_refl position := by
    rw [le_iff]
    omega
  le_trans first second third := by
    rw [le_iff, le_iff, le_iff]
    omega
  le_antisymm left right := by
    intro below above
    rw [le_iff] at below above
    obtain ⟨line, column⟩ := left
    obtain ⟨otherLine, otherColumn⟩ := right
    rw [mk.injEq]
    dsimp only at below above
    omega
  le_total left right := by
    rw [le_iff, le_iff]
    omega

/-- The lesser of two places, when the first is not behind the second. -/
theorem min_eq_left {left right : Position} (ordered : left ≤ right) : min left right = left :=
  if_pos ordered

/-- Walking over nothing leads nowhere. -/
@[simp] theorem advancedBy_nil (position : Position) : position.advancedBy [] = position := rfl

/-- A walk within a line moves to the right. -/
theorem advancedBy_of_newline_free (position : Position) {text : Text}
    (newlineFree : '\n' ∉ text) :
    position.advancedBy text = ⟨position.line, position.column + text.length⟩ := by
  simp [advancedBy, newlineFree]

/-- A newline leads to the start of the next line. -/
@[simp] theorem advancedBy_newline (position : Position) :
    position.advancedBy ['\n'] = lineStart (position.line + 1) := rfl

/-- Walking over two texts one after the other is walking over both at once. -/
theorem advancedBy_append (position : Position) (front back : Text) :
    position.advancedBy (front ++ back) = (position.advancedBy front).advancedBy back := by
  by_cases backFree : '\n' ∉ back
  · have passed : ∀ c ∈ back.reverse, (c != '\n') = true := by
      intro c member
      rw [bne_iff_ne]
      rintro rfl
      exact backFree (List.mem_reverse.mp member)
    rw [advancedBy_of_newline_free _ backFree]
    by_cases frontFree : '\n' ∉ front
    · rw [advancedBy_of_newline_free _ frontFree,
        advancedBy_of_newline_free _ (by simp [frontFree, backFree]), List.length_append,
        Nat.add_assoc]
    · rw [Decidable.not_not] at frontFree
      simp [advancedBy, frontFree, List.takeWhile_append_of_pos passed,
        List.count_eq_zero_of_not_mem backFree, Nat.add_comm]
  · rw [Decidable.not_not] at backFree
    -- The last newline lies in the second text, so the column is decided there alone.
    have stopped : (back.reverse.takeWhile (· != '\n')).length ≠ back.length := by
      intro whole
      have everything := (List.takeWhile_prefix (· != '\n')).eq_of_length
        (whole.trans back.length_reverse.symm)
      have passed := List.takeWhile_eq_self_iff.mp everything _ (List.mem_reverse.mpr backFree)
      exact absurd rfl (bne_iff_ne.mp passed)
    by_cases frontFree : '\n' ∉ front
    · simp [advancedBy, backFree, frontFree, List.takeWhile_append, stopped,
        List.count_eq_zero_of_not_mem]
    · rw [Decidable.not_not] at frontFree
      simp [advancedBy, backFree, frontFree, List.takeWhile_append, stopped, Nat.add_assoc]

/-- A walk over at least one character leads to a later place. -/
theorem lt_advancedBy (position : Position) {text : Text} (nonempty : text ≠ []) :
    position < position.advancedBy text := by
  rw [lt_iff]
  by_cases newlineFree : '\n' ∉ text
  · rw [advancedBy_of_newline_free _ newlineFree]
    have positive := List.length_pos_iff.mpr nonempty
    dsimp only
    omega
  · rw [Decidable.not_not] at newlineFree
    have positive := List.count_pos_iff.mpr newlineFree
    simp [advancedBy, newlineFree]

end Highlighter.Position
