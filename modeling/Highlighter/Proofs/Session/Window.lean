import Highlighter.Proofs.Session.ChangedLines
import Highlighter.Proofs.Surface.Address
import Highlighter.Session.Basic

/-!
# The window of a pass

The pass after an edit covers a block of lines. `Surface.LineBlock` says that the lines exist, and
the places at both ends of the block follow from it. The lines that differ from the snapshot are
such a block (`changedLines_bounds`), and so is the window, which reaches over them and over the
line of the cursor (`window_covers`).
-/

namespace Highlighter

namespace Surface

/-- The lines from `first` to `last` are lines of the surface. -/
structure LineBlock (surface : Surface) (first last : Nat) : Prop where
  positive : 1 ≤ first
  ordered : first ≤ last
  bounded : last ≤ surface.lineCount

variable {surface : Surface} {first last : Nat}

/-- A line that exists ends behind its characters. -/
theorem lineEnd_eq (positive : 1 ≤ last) (bounded : last ≤ surface.lineCount) :
    surface.lineEnd last = ⟨last, surface.lineLength last⟩ := by
  obtain ⟨index, rfl⟩ : ∃ index, last = index + 1 := ⟨last - 1, by omega⟩
  have hasLine : index < surface.lines.length := bounded
  have atIndex := List.getElem?_eq_getElem hasLine
  rw [lineEnd, lineLength_of_getElem? atIndex, line?, atIndex]

namespace LineBlock

/-- A block starts at a place of the text. -/
theorem startInside (block : surface.LineBlock first last) :
    surface.Inside (.lineStart first) := by
  have positive := block.positive
  have hasLine : first - 1 < surface.lines.length :=
    Nat.lt_of_lt_of_le (by omega) (Nat.le_trans block.ordered block.bounded)
  refine inside_iff.mpr ⟨first - 1, surface.lines[first - 1],
    List.getElem?_eq_getElem hasLine, ?_, Nat.zero_le _⟩
  dsimp only [Position.lineStart]
  omega

/-- A block ends at a place of the text. -/
theorem stopInside (block : surface.LineBlock first last) :
    surface.Inside (surface.lineEnd last) := by
  have positive := Nat.le_trans block.positive block.ordered
  have hasLine : last - 1 < surface.lines.length := by
    have bounded : last ≤ surface.lines.length := block.bounded
    omega
  have length := lineLength_of_getElem? (List.getElem?_eq_getElem hasLine)
  rw [Nat.sub_add_cancel positive] at length
  rw [lineEnd_eq positive block.bounded, length]
  refine inside_iff.mpr ⟨last - 1, _, List.getElem?_eq_getElem hasLine, ?_, Nat.le_refl _⟩
  dsimp only
  omega

/-- A block does not end before it starts. -/
theorem start_le_stop (block : surface.LineBlock first last) :
    Position.lineStart first ≤ surface.lineEnd last := by
  have ordered := block.ordered
  rw [lineEnd_eq (Nat.le_trans block.positive ordered) block.bounded, Position.le_iff,
    Position.lineStart]
  dsimp only
  omega

/-- The places on the lines of a block lie between its ends. -/
theorem between (block : surface.LineBlock first last) {position : Position}
    (inside : surface.Inside position) (lower : first ≤ position.line)
    (upper : position.line ≤ last) :
    Position.lineStart first ≤ position ∧ position ≤ surface.lineEnd last := by
  obtain ⟨index, text, atIndex, sameLine, within⟩ := inside_iff.mp inside
  rw [lineEnd_eq (Nat.le_trans block.positive block.ordered) block.bounded, Position.le_iff,
    Position.le_iff, Position.lineStart]
  dsimp only
  have length := lineLength_of_getElem? atIndex
  refine ⟨by omega, ?_⟩
  by_cases onLast : position.line = last
  · rw [show last = index + 1 by omega, length]
    omega
  · omega

/-- The line of a place is a block. -/
theorem of_inside {position : Position} (inside : surface.Inside position) :
    surface.LineBlock position.line position.line := by
  obtain ⟨index, text, atIndex, sameLine, -⟩ := inside_iff.mp inside
  have hasLine : index < surface.lineCount := (List.getElem?_eq_some_iff.mp atIndex).1
  exact ⟨by omega, Nat.le_refl _, by omega⟩

/-- A block starts behind the lines before it. -/
theorem offsetOf_start (block : surface.LineBlock first last) :
    surface.offsetOf (.lineStart first) =
      (Text.opening (surface.lines.take (first - 1))).length := by
  rw [offsetOf_of_inside block.startInside, length_opening]
  rfl

/-- A block ends before the newline of its last line. -/
theorem offsetOf_stop (block : surface.LineBlock first last) :
    surface.offsetOf (surface.lineEnd last) + 1 =
      (Text.opening (surface.lines.take last)).length := by
  obtain ⟨index, rfl⟩ : ∃ index, last = index + 1 :=
    ⟨last - 1, by have := block.positive; have := block.ordered; omega⟩
  have hasLine : index < surface.lines.length := block.bounded
  have atIndex := List.getElem?_eq_getElem hasLine
  have length := lineLength_of_getElem? atIndex
  rw [offsetOf_of_inside block.stopInside, lineEnd_eq (Nat.le_add_left 1 index) block.bounded,
    length_opening, List.take_add_one, atIndex, Option.toList_some, blockLength_append,
    blockLength_cons, blockLength_nil, length]
  dsimp only
  rw [Nat.add_sub_cancel]
  omega

/-- The lines up to the end of a block are those before it and its own. -/
theorem take_eq_append (block : surface.LineBlock first last) :
    surface.lines.take last =
      surface.lines.take (first - 1) ++ (surface.lines.take last).drop (first - 1) := by
  have front : surface.lines.take (first - 1) = (surface.lines.take last).take (first - 1) := by
    rw [List.take_take, Nat.min_eq_left (Nat.le_trans (Nat.sub_le _ _) block.ordered)]
  rw [front, List.take_append_drop]

/-- The text of a block is made up of its lines. -/
theorem text_eq_ofLines (block : surface.LineBlock first last) :
    surface.text (.lineStart first) (surface.lineEnd last) =
      Text.ofLines ((surface.lines.take last).drop (first - 1)) := by
  have positive := block.positive
  have ordered := block.ordered
  have bounded : last ≤ surface.lines.length := block.bounded
  have split := block.take_eq_append
  have start := block.offsetOf_start
  have stop := block.offsetOf_stop
  have whole : surface.content =
      Text.ofLines (surface.lines.take last ++ surface.lines.drop last) :=
    congrArg Text.ofLines (List.take_append_drop last surface.lines).symm
  have blockLines : (surface.lines.take last).drop (first - 1) ≠ [] := by
    apply List.ne_nil_of_length_pos
    rw [List.length_drop, List.length_take]
    omega
  generalize (surface.lines.take last).drop (first - 1) = lines at *
  generalize surface.lines.take (first - 1) = front at *
  have upToLast : front ++ lines ≠ [] := by simp [blockLines]
  have length := length_ofLines blockLines
  have opened := length_opening front
  rw [split, length_opening, blockLength_append] at stop
  rw [split, Text.ofLines_append_eq_closing upToLast,
    Text.ofLines_append_eq_opening front blockLines, List.append_assoc] at whole
  rw [text_eq, whole, start, List.drop_left, List.take_left' (by omega)]

end LineBlock

end Surface

namespace Session

variable {σ : Type}

/-- What the window of a pass reaches over. -/
structure WindowCovers (session : Session σ) (cursor : Position) (first last : Nat) : Prop
    extends session.surface.LineBlock first last where
  /-- The line of the cursor, or the nearest line. -/
  cursorLine : first ≤ max 1 (min cursor.line session.surface.lineCount) ∧
    max 1 (min cursor.line session.surface.lineCount) ≤ last
  /-- The lines that differ from the snapshot. -/
  changed : session.scope = .affectedLines →
    first ≤ (changedLines session.snapshot session.surface.content).1 ∧
      (changedLines session.snapshot session.surface.content).2 ≤ last

/-- The window is a block of lines that reaches over the line of the cursor and, if the scope asks
for them, over the lines that differ from the snapshot. -/
theorem window_covers (session : Session σ) (lined : session.surface.Lined) (cursor : Position) :
    WindowCovers session cursor (session.window cursor).1 (session.window cursor).2 := by
  have positive : 1 ≤ session.surface.lineCount := List.length_pos_iff.mpr lined.nonempty
  have changed := changedLines_bounds session.snapshot session.surface.content
  rw [Surface.lines_content lined] at changed
  change _ ∧ _ ∧ _ ≤ session.surface.lineCount at changed
  rw [window]
  cases shape : session.scope with
  | cursorLine =>
      constructor
      · constructor <;> dsimp only <;> omega
      · exact ⟨le_rfl, le_rfl⟩
      · intro affected
        rw [shape] at affected
        contradiction
  | affectedLines =>
      constructor
      · constructor <;> dsimp only <;> omega
      · exact ⟨Nat.min_le_right _ _, Nat.le_max_right _ _⟩
      · intro _
        exact ⟨Nat.min_le_left _ _, Nat.le_max_left _ _⟩

end Session

end Highlighter
