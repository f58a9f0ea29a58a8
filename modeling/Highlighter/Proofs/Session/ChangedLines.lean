import Highlighter.Proofs.Text.Lines
import Highlighter.Session.ChangedLines
import Mathlib.Data.List.DropRight

/-!
# The least window around an edit

A window of lines holds all that an edit changed when both versions of the text have the same lines
before it and the same lines behind it. `changedLines_least` says that the lines that are reported
as changed are such a window, and that no such window is shorter. Which of several shortest windows
is reported is not decided here.
-/

namespace Highlighter.Session

variable {old new : List Text} {count : Nat}

/-- A number of leading lines is shared when both lists have as many and they are the same. -/
theorem le_sharedPrefix_iff :
    count ≤ sharedPrefix old new ↔
      count ≤ old.length ∧ count ≤ new.length ∧ old.take count = new.take count := by
  induction old generalizing new count with
  | nil => cases count <;> simp [sharedPrefix]
  | cons line others inductionHypothesis =>
      cases new with
      | nil => cases count <;> simp [sharedPrefix]
      | cons other later =>
          rw [sharedPrefix]
          cases count with
          | zero => simp
          | succ count =>
              split
              next same => simp [same, inductionHypothesis]
              next different => simp [different]

/-- A number of lines is shared at the end when both lists have as many and they are the same. -/
theorem le_sharedPrefix_reverse_iff :
    count ≤ sharedPrefix old.reverse new.reverse ↔
      count ≤ old.length ∧ count ≤ new.length ∧ old.rtake count = new.rtake count := by
  rw [le_sharedPrefix_iff, List.length_reverse, List.length_reverse,
    List.rtake_eq_reverse_take_reverse, List.rtake_eq_reverse_take_reverse, List.reverse_inj]

/-- The lines that changed are lines of the new text. -/
theorem changedLines_bounds (old new : Text) :
    1 ≤ (changedLines old new).1 ∧
      (changedLines old new).1 ≤ (changedLines old new).2 ∧
      (changedLines old new).2 ≤ new.lines.length := by
  have positive := List.length_pos_iff.mpr (Text.lines_ne_nil new)
  simp only [changedLines]
  omega

/-- Up to the lines that changed, both texts have the same lines, and so they have behind them. -/
theorem shared_around_changedLines {old new : Text} {first last : Nat}
    (lower : first ≤ (changedLines old new).1) (upper : (changedLines old new).2 ≤ last)
    (bounded : last ≤ new.lines.length) :
    (∃ back, old.lines = new.lines.take (first - 1) ++ back) ∧
      ∃ front, old.lines = front ++ new.lines.drop last := by
  simp only [changedLines] at lower upper
  constructor
  · have front : first - 1 ≤ sharedPrefix old.lines new.lines := by omega
    obtain ⟨-, -, shared⟩ := le_sharedPrefix_iff.mp front
    exact ⟨old.lines.drop (first - 1), by rw [← shared, List.take_append_drop]⟩
  · have back : new.lines.length - last ≤
        sharedPrefix old.lines.reverse new.lines.reverse := by omega
    obtain ⟨-, -, shared⟩ := le_sharedPrefix_reverse_iff.mp back
    rw [List.rtake, List.rtake, Nat.sub_sub_self bounded] at shared
    exact ⟨_, by rw [← shared, List.take_append_drop]⟩

/-- A window of lines of the new text outside of which both texts have the same lines: as many lines
as stand before it and behind it in the new text stand at both ends of the old one. -/
structure EditWindow (old new : Text) (first last : Nat) : Prop where
  positive : 1 ≤ first
  ordered : first ≤ last
  bounded : last ≤ new.lines.length
  before : new.lines.take (first - 1) = old.lines.take (first - 1)
  behind : new.lines.rtake (new.lines.length - last) = old.lines.rtake (new.lines.length - last)
  /-- No line of the old text is counted at both ends. -/
  apart : (first - 1) + (new.lines.length - last) ≤ old.lines.length

/-- A window is told by its bounds and by the numbers of lines that are shared at both ends. -/
theorem editWindow_iff {old new : Text} {first last : Nat} :
    EditWindow old new first last ↔
      (1 ≤ first ∧ first ≤ last ∧ last ≤ new.lines.length) ∧
        first - 1 ≤ sharedPrefix old.lines new.lines ∧
        new.lines.length - last ≤ sharedPrefix old.lines.reverse new.lines.reverse ∧
        (first - 1) + (new.lines.length - last) ≤ old.lines.length := by
  constructor
  · rintro ⟨positive, ordered, bounded, before, behind, apart⟩
    exact ⟨⟨positive, ordered, bounded⟩,
      le_sharedPrefix_iff.mpr ⟨by omega, by omega, before.symm⟩,
      le_sharedPrefix_reverse_iff.mpr ⟨by omega, by omega, behind.symm⟩, apart⟩
  · rintro ⟨⟨positive, ordered, bounded⟩, front, back, apart⟩
    exact ⟨positive, ordered, bounded, (le_sharedPrefix_iff.mp front).2.2.symm,
      (le_sharedPrefix_reverse_iff.mp back).2.2.symm, apart⟩

/-- The lines that are reported as changed are a window outside of which both texts have the same
lines, and every such window has at least as many lines. -/
theorem changedLines_least (old new : Text) :
    EditWindow old new (changedLines old new).1 (changedLines old new).2 ∧
      ∀ {first last : Nat}, EditWindow old new first last →
        (changedLines old new).2 + 1 - (changedLines old new).1 ≤ last + 1 - first := by
  have bounds := changedLines_bounds old new
  obtain ⟨frontOld, frontNew, -⟩ := le_sharedPrefix_iff.mp
    (Nat.le_refl (sharedPrefix old.lines new.lines))
  simp only [editWindow_iff, changedLines] at bounds ⊢
  -- The shared lines at the end are counted up to those at the start, so a window that gives up
  -- lines at the start can win at most as many at the end.
  constructor
  · exact ⟨bounds, by omega, by omega, by omega⟩
  · intro first last window
    omega

/-- A blank line is pasted between two blank lines: the window before the pasted line is as long as
the one that is reported behind the shared lines. -/
theorem changedLines_least_of_blank_lines :
    let old : Text := ['a', '\n', '\n', 'b']
    let new : Text := ['a', '\n', '\n', '\n', 'b']
    changedLines old new = (3, 3) ∧ EditWindow old new 2 2 ∧
      (changedLines old new).2 + 1 - (changedLines old new).1 ≤ 2 + 1 - 2 := by
  intro old new
  have window : EditWindow old new 2 2 := by
    constructor <;> decide
  exact ⟨by decide, window, (changedLines_least old new).2 window⟩

end Highlighter.Session
