import Highlighter.Proofs.Text.Lines
import Highlighter.Proofs.Text.Position
import Highlighter.Surface.Basic

/-!
# Two addresses of one place

A place in the text of a surface is a position, or else the number of characters before it.
`Surface.positionOf` and `Surface.offsetOf` are inverse to each other on the places of the text
(`offsetOf_positionOf`, `positionOf_offsetOf`) and keep their order (`positionOf_lt_iff`,
`offsetOf_lt_iff`). A walk over the text from a place leads to the place that lies as many
characters further on (`advancedBy_positionOf`).
-/

namespace Highlighter.Surface

/-- The lines of a surface are lines: there is at least one, and none holds a newline. -/
structure Lined (surface : Surface) : Prop where
  nonempty : surface.lines ≠ []
  newlineFree : ∀ line ∈ surface.lines, '\n' ∉ line

/-- A position is a place in the text: its line exists and reaches up to its column. -/
def Inside (surface : Surface) (position : Position) : Prop :=
  ∃ text, surface.line? position.line = some text ∧ position.column ≤ text.length

/-- The number of characters in a block of lines, a newline behind each of them included. -/
def blockLength (lines : List Text) : Nat :=
  lines.foldr (fun text length => text.length + 1 + length) 0

@[simp] theorem blockLength_nil : blockLength [] = 0 := rfl

@[simp] theorem blockLength_cons (line : Text) (others : List Text) :
    blockLength (line :: others) = line.length + 1 + blockLength others := rfl

theorem blockLength_append (front back : List Text) :
    blockLength (front ++ back) = blockLength front + blockLength back := by
  induction front with
  | nil => simp
  | cons line others inductionHypothesis =>
      simp only [List.cons_append, blockLength_cons, inductionHypothesis]
      omega

/-- What stands before a block of lines is the lines with their newlines. -/
theorem length_opening (lines : List Text) : (Text.opening lines).length = blockLength lines := by
  induction lines with
  | nil => rfl
  | cons line others inductionHypothesis =>
      rw [Text.opening, List.length_append, List.length_cons, inductionHypothesis,
        blockLength_cons]
      omega

/-- The last line of a text has no newline behind it. -/
theorem length_ofLines {lines : List Text} (nonempty : lines ≠ []) :
    (Text.ofLines lines).length + 1 = blockLength lines := by
  induction lines with
  | nil => exact absurd rfl nonempty
  | cons line others inductionHypothesis =>
      by_cases more : others = []
      · subst more
        rfl
      · rw [Text.ofLines_cons line more, List.length_append, List.length_cons, blockLength_cons,
          ← inductionHypothesis more]
        omega

/-- A text cut into lines holds as many characters as the lines and the newlines behind all
but the last of them. -/
theorem content_length {surface : Surface} (nonempty : surface.lines ≠ []) :
    surface.content.length + 1 = blockLength surface.lines :=
  length_ofLines nonempty

/-- The text of a surface is split into its lines. -/
theorem lines_content {surface : Surface} (lined : surface.Lined) :
    surface.content.lines = surface.lines :=
  Text.lines_ofLines lined.nonempty lined.newlineFree

/-! ### Offsets and positions in a list of lines -/

/-- The position found for an offset lies in a line, behind the characters before that line. -/
theorem positionIn?_eq_some_iff {lines : List Text} {line offset : Nat} {position : Position} :
    positionIn? line offset lines = some position ↔
      ∃ index text, lines[index]? = some text ∧ position.line = line + index ∧
        position.column ≤ text.length ∧
        offset = blockLength (lines.take index) + position.column := by
  induction lines generalizing line offset with
  | nil => simp [positionIn?]
  | cons first others inductionHypothesis =>
      simp only [positionIn?]
      split
      next fits =>
        constructor
        · intro found
          cases found
          exact ⟨0, first, rfl, rfl, fits, by simp⟩
        · rintro ⟨index, text, atIndex, sameLine, bounded, same⟩
          obtain ⟨foundLine, column⟩ := position
          cases index with
          | zero => simp_all
          | succ index =>
              simp only [List.take_succ_cons, blockLength_cons] at same
              omega
      next passed =>
        rw [inductionHypothesis]
        constructor
        · rintro ⟨index, text, atIndex, sameLine, bounded, same⟩
          refine ⟨index + 1, text, by simpa using atIndex, by omega, bounded, ?_⟩
          simp only [List.take_succ_cons, blockLength_cons]
          omega
        · rintro ⟨index, text, atIndex, sameLine, bounded, same⟩
          cases index with
          | zero =>
              obtain rfl : first = text := by simpa using atIndex
              simp only [List.take_zero, blockLength_nil] at same
              omega
          | succ index =>
              simp only [List.take_succ_cons, blockLength_cons] at same
              exact ⟨index, text, by simpa using atIndex, by omega, bounded, by omega⟩

/-- Every offset up to the end of the last line has a position. -/
theorem exists_positionIn? {lines : List Text} (line : Nat) {offset : Nat}
    (bounded : offset < blockLength lines) :
    ∃ position, positionIn? line offset lines = some position := by
  induction lines generalizing line offset with
  | nil => simp at bounded
  | cons first others inductionHypothesis =>
      simp only [positionIn?]
      split
      next => exact ⟨_, rfl⟩
      next passed =>
        simp only [blockLength_cons] at bounded
        exact inductionHypothesis (line + 1) (by omega)

/-- Offsets behind the last line have no position. -/
theorem positionIn?_eq_none {lines : List Text} (line : Nat) {offset : Nat}
    (behind : blockLength lines ≤ offset) : positionIn? line offset lines = none := by
  induction lines generalizing line offset with
  | nil => rfl
  | cons first others inductionHypothesis =>
      simp only [blockLength_cons] at behind
      rw [positionIn?, if_neg (by omega)]
      exact inductionHypothesis (line + 1) (by omega)

/-! ### Places of a surface -/

variable {surface : Surface}

/-- A place in the text is a line, counted from zero, together with a column of that line. -/
theorem inside_iff {position : Position} :
    surface.Inside position ↔
      ∃ index text, surface.lines[index]? = some text ∧ position.line = 1 + index ∧
        position.column ≤ text.length := by
  obtain ⟨line, column⟩ := position
  cases line with
  | zero =>
      simp only [Inside, line?, reduceCtorEq, false_and, exists_false, false_iff]
      rintro ⟨index, text, -, sameLine, -⟩
      omega
  | succ line =>
      simp only [Inside, line?]
      constructor
      · rintro ⟨text, atLine, bounded⟩
        exact ⟨line, text, atLine, Nat.add_comm line 1, bounded⟩
      · rintro ⟨index, text, atIndex, sameLine, bounded⟩
        obtain rfl : index = line := by omega
        exact ⟨text, atIndex, bounded⟩

/-- The length of a line is that of its text, and nothing for a line that does not exist. -/
theorem lineLength_eq (surface : Surface) (line : Nat) :
    surface.lineLength line = ((surface.line? line).getD []).length := by
  rw [lineLength]
  cases surface.line? line <;> rfl

theorem lineLength_of_getElem? {index : Nat} {text : Text}
    (atIndex : surface.lines[index]? = some text) :
    surface.lineLength (index + 1) = text.length := by
  rw [lineLength_eq, line?, atIndex, Option.getD_some]

/-- The offset of a place: the lines before it, and its column. -/
theorem offsetOf_of_inside {position : Position} (inside : surface.Inside position) :
    surface.offsetOf position =
      blockLength (surface.lines.take (position.line - 1)) + position.column := by
  obtain ⟨index, text, atIndex, sameLine, bounded⟩ := inside_iff.mp inside
  have exists_line : index < surface.lines.length := (List.getElem?_eq_some_iff.mp atIndex).1
  rw [Nat.add_comm] at sameLine
  rw [offsetOf, if_neg (by omega), if_pos (by rw [lineCount]; omega), sameLine,
    lineLength_of_getElem? atIndex, Nat.min_eq_left bounded]
  rfl

/-- The first place lies before all characters. -/
theorem offsetOf_start (surface : Surface) : surface.offsetOf .start = 0 := by
  rw [offsetOf, Position.start, if_neg (by decide)]
  split
  next => simp [lengthBefore]
  next empty =>
    have zero : surface.lineCount = 0 := Nat.lt_one_iff.mp (Nat.not_le.mp empty)
    simp [zero, lengthBefore, lineLength, line?]

/-- The offset of a place leads back to the place. -/
theorem positionOf_offsetOf {position : Position} (inside : surface.Inside position) :
    surface.positionOf (surface.offsetOf position) = position := by
  obtain ⟨index, text, atIndex, sameLine, bounded⟩ := inside_iff.mp inside
  have found : positionIn? 1 (surface.offsetOf position) surface.lines = some position := by
    rw [positionIn?_eq_some_iff]
    refine ⟨index, text, atIndex, sameLine, bounded, ?_⟩
    rw [offsetOf_of_inside inside, sameLine, Nat.add_sub_cancel_left]
  rw [positionOf, found, Option.getD_some]

/-- Every offset in the text leads to a place, and the place leads back to the offset. -/
theorem inside_positionOf_and_offsetOf (nonempty : surface.lines ≠ []) {offset : Nat}
    (bounded : offset ≤ surface.content.length) :
    surface.Inside (surface.positionOf offset) ∧
      surface.offsetOf (surface.positionOf offset) = offset := by
  have length := content_length nonempty
  obtain ⟨position, found⟩ := exists_positionIn? 1
    (show offset < blockLength surface.lines by omega)
  obtain ⟨index, text, atIndex, sameLine, within, same⟩ := positionIn?_eq_some_iff.mp found
  have inside : surface.Inside position :=
    inside_iff.mpr ⟨index, text, atIndex, sameLine, within⟩
  rw [positionOf, found, Option.getD_some, offsetOf_of_inside inside, sameLine,
    Nat.add_sub_cancel_left]
  exact ⟨inside, same.symm⟩

/-- The place behind the last character of the last line. -/
theorem finish_eq (nonempty : surface.lines ≠ []) :
    surface.finish = ⟨surface.lines.length, (surface.lines.getLast nonempty).length⟩ := by
  have positive := List.length_pos_iff.mpr nonempty
  have atLast : surface.lines[surface.lines.length - 1]? =
      some (surface.lines.getLast nonempty) := by
    rw [List.getLast_eq_getElem, List.getElem?_eq_getElem]
  have length := lineLength_of_getElem? atLast
  rw [Nat.sub_add_cancel positive] at length
  rw [finish, lineCount, length]

/-- The end of the text is a place in it. -/
theorem inside_finish (nonempty : surface.lines ≠ []) : surface.Inside surface.finish := by
  have positive := List.length_pos_iff.mpr nonempty
  rw [finish_eq nonempty, inside_iff]
  refine ⟨surface.lines.length - 1, surface.lines.getLast nonempty, ?_, ?_, Nat.le_refl _⟩
  · rw [List.getLast_eq_getElem, List.getElem?_eq_getElem]
  · dsimp only
    omega

/-- The end of the text lies behind all of its characters. -/
theorem offsetOf_finish (nonempty : surface.lines ≠ []) :
    surface.offsetOf surface.finish = surface.content.length := by
  have whole := content_length nonempty
  rw [← List.dropLast_concat_getLast nonempty, blockLength_append, blockLength_cons,
    blockLength_nil] at whole
  rw [offsetOf_of_inside (inside_finish nonempty), finish_eq nonempty, ← List.dropLast_eq_take]
  dsimp only
  omega

/-- Offsets from the end of the text on lead to its end. -/
theorem positionOf_of_length_le (nonempty : surface.lines ≠ []) {offset : Nat}
    (behind : surface.content.length ≤ offset) : surface.positionOf offset = surface.finish := by
  have length := content_length nonempty
  by_cases atEnd : offset = surface.content.length
  · rw [atEnd, ← offsetOf_finish nonempty, positionOf_offsetOf (inside_finish nonempty)]
  · rw [positionOf, positionIn?_eq_none 1 (by omega), Option.getD_none]

/-- The place of every offset is in the text. -/
theorem inside_positionOf (nonempty : surface.lines ≠ []) (offset : Nat) :
    surface.Inside (surface.positionOf offset) := by
  by_cases bounded : offset ≤ surface.content.length
  · exact (inside_positionOf_and_offsetOf nonempty bounded).1
  · rw [positionOf_of_length_le nonempty (by omega)]
    exact inside_finish nonempty

/-- The place of an offset in the text leads back to the offset. -/
theorem offsetOf_positionOf (nonempty : surface.lines ≠ []) {offset : Nat}
    (bounded : offset ≤ surface.content.length) :
    surface.offsetOf (surface.positionOf offset) = offset :=
  (inside_positionOf_and_offsetOf nonempty bounded).2

/-- Clamping leads to a place of the text. -/
theorem inside_clamp (nonempty : surface.lines ≠ []) (position : Position) :
    surface.Inside (surface.clamp position) := by
  rw [clamp]
  split
  next =>
    obtain ⟨first, others, shape⟩ := List.exists_cons_of_ne_nil nonempty
    exact inside_iff.mpr ⟨0, first, by rw [shape]; rfl, rfl, Nat.zero_le _⟩
  next =>
    split
    next text atLine => exact ⟨text, atLine, Nat.min_le_right _ _⟩
    next => exact inside_finish nonempty

/-- A place of the text is its own nearest place. -/
theorem clamp_of_inside {position : Position} (inside : surface.Inside position) :
    surface.clamp position = position := by
  obtain ⟨index, text, -, sameLine, -⟩ := inside_iff.mp inside
  obtain ⟨lineText, atLine, bounded⟩ := inside
  rw [clamp, if_neg (by omega), atLine]
  dsimp only
  rw [Nat.min_eq_left bounded]

/-- The offset of a position is that of the nearest place. -/
theorem offsetOf_clamp (nonempty : surface.lines ≠ []) (position : Position) :
    surface.offsetOf (surface.clamp position) = surface.offsetOf position := by
  have positive := List.length_pos_iff.mpr nonempty
  obtain ⟨line, column⟩ := position
  cases line with
  | zero =>
      have firstLine : 1 ≤ surface.lineCount := positive
      simp [clamp, offsetOf, Position.start, lengthBefore, firstLine]
  | succ index =>
      rw [clamp, if_neg (Nat.succ_ne_zero index)]
      cases atLine : surface.line? (index + 1) with
      | some text =>
          have length := lineLength_of_getElem? atLine
          simp [offsetOf, length]
      | none =>
          have missing : ¬index + 1 ≤ surface.lineCount :=
            Nat.not_le.mpr (Nat.lt_succ_of_le (List.getElem?_eq_none_iff.mp atLine))
          have someLine : surface.lineCount ≠ 0 := Nat.ne_of_gt positive
          simp [offsetOf, finish, missing, someLine]

/-- The offset of a position leads to the nearest place. -/
theorem positionOf_offsetOf_eq_clamp (nonempty : surface.lines ≠ []) (position : Position) :
    surface.positionOf (surface.offsetOf position) = surface.clamp position := by
  rw [← offsetOf_clamp nonempty, positionOf_offsetOf (inside_clamp nonempty position)]

/-- No position lies behind the end of the text. -/
theorem offsetOf_le_length (nonempty : surface.lines ≠ []) (position : Position) :
    surface.offsetOf position ≤ surface.content.length := by
  rw [← offsetOf_clamp nonempty]
  have inside := inside_clamp nonempty position
  generalize surface.clamp position = place at inside
  have back := positionOf_offsetOf inside
  by_cases bounded : surface.offsetOf place ≤ surface.content.length
  · exact bounded
  · rw [positionOf_of_length_le nonempty (by omega)] at back
    rw [← back, offsetOf_finish nonempty]

/-! ### Walking over the text -/

/-- The place of an offset is reached by walking over the characters before it. -/
theorem positionIn?_eq_advancedBy {lines : List Text} (nonempty : lines ≠ [])
    (newlineFree : ∀ line ∈ lines, '\n' ∉ line) (line : Nat) {offset : Nat}
    (bounded : offset ≤ (Text.ofLines lines).length) :
    positionIn? line offset lines =
      some ((Position.lineStart line).advancedBy ((Text.ofLines lines).take offset)) := by
  induction lines generalizing line offset with
  | nil => exact absurd rfl nonempty
  | cons first others inductionHypothesis =>
      have firstFree : '\n' ∉ first := newlineFree first List.mem_cons_self
      have front : offset ≤ first.length →
          (Text.ofLines (first :: others)).take offset = first.take offset := by
        intro fits
        by_cases more : others = []
        · rw [more]
          rfl
        · rw [Text.ofLines_cons first more, List.take_append_of_le_length fits]
      simp only [positionIn?]
      split
      next fits =>
        have partFree : '\n' ∉ first.take offset := fun member =>
          firstFree (List.mem_of_mem_take member)
        rw [front fits, Position.advancedBy_of_newline_free _ partFree, List.length_take,
          Nat.min_eq_left fits]
        simp [Position.lineStart]
      next passed =>
        by_cases more : others = []
        · subst more
          exact absurd bounded passed
        · rw [Text.ofLines_cons first more] at bounded ⊢
          rw [List.length_append, List.length_cons] at bounded
          obtain ⟨further, rfl⟩ : ∃ further, offset = first.length + (further + 1) :=
            ⟨offset - first.length - 1, by omega⟩
          rw [List.take_length_add_append, List.take_succ_cons, Position.advancedBy_append,
            ← List.singleton_append, Position.advancedBy_append, Position.advancedBy_newline,
            Position.advancedBy_of_newline_free _ firstFree,
            show first.length + (further + 1) - (first.length + 1) = further by omega]
          exact inductionHypothesis more
            (fun other member => newlineFree other (List.mem_cons_of_mem _ member)) (line + 1)
            (by omega)

/-- The place of an offset is reached from the first place by walking over the text before it. -/
theorem positionOf_eq_advancedBy (lined : surface.Lined) (offset : Nat) :
    surface.positionOf offset = Position.start.advancedBy (surface.content.take offset) := by
  have reached : ∀ {count : Nat}, count ≤ surface.content.length →
      surface.positionOf count = Position.start.advancedBy (surface.content.take count) := by
    intro count bounded
    rw [positionOf,
      positionIn?_eq_advancedBy lined.nonempty lined.newlineFree 1 bounded, Option.getD_some]
    rfl
  by_cases bounded : offset ≤ surface.content.length
  · exact reached bounded
  · rw [positionOf_of_length_le lined.nonempty (by omega),
      ← positionOf_of_length_le lined.nonempty (Nat.le_refl _), reached (Nat.le_refl _),
      List.take_length, List.take_of_length_le (by omega)]

/-- A walk over the text that follows a place leads as many characters further. -/
theorem advancedBy_positionOf (lined : surface.Lined) {offset : Nat} {text : Text}
    (follows : text <+: surface.content.drop offset) :
    (surface.positionOf offset).advancedBy text = surface.positionOf (offset + text.length) := by
  rw [positionOf_eq_advancedBy lined, positionOf_eq_advancedBy lined, List.take_add,
    Position.advancedBy_append, ← List.prefix_iff_eq_take.mp follows]

/-- The text starts at the first position. -/
theorem positionOf_zero (lined : surface.Lined) : surface.positionOf 0 = .start := by
  rw [positionOf_eq_advancedBy lined, List.take_zero, Position.advancedBy_nil]

/-- Offsets in the text and their places have the same order. -/
theorem positionOf_lt_iff (lined : surface.Lined) {left right : Nat}
    (leftBounded : left ≤ surface.content.length)
    (rightBounded : right ≤ surface.content.length) :
    surface.positionOf left < surface.positionOf right ↔ left < right := by
  have forward : ∀ {low high : Nat}, high ≤ surface.content.length → low < high →
      surface.positionOf low < surface.positionOf high := by
    intro low high bounded ordered
    have walk := advancedBy_positionOf lined
      (List.take_prefix (high - low) (surface.content.drop low))
    rw [List.length_take, List.length_drop, Nat.min_eq_left (by omega),
      Nat.add_sub_cancel' (Nat.le_of_lt ordered)] at walk
    rw [← walk]
    refine Position.lt_advancedBy _ (List.ne_nil_of_length_pos ?_)
    rw [List.length_take, List.length_drop]
    omega
  constructor
  · intro ordered
    rcases Nat.lt_trichotomy left right with before | rfl | behind
    · exact before
    · exact absurd ordered (Std.lt_irrefl)
    · exact absurd (Std.lt_trans ordered (forward leftBounded behind)) Std.lt_irrefl
  · exact forward rightBounded

/-- A greater offset has no lesser place. -/
theorem positionOf_le (lined : surface.Lined) {left right : Nat} (ordered : left ≤ right) :
    surface.positionOf left ≤ surface.positionOf right := by
  have forward : ∀ {high : Nat}, left ≤ high → high ≤ surface.content.length →
      surface.positionOf left ≤ surface.positionOf high := by
    intro high below bounded
    rw [← Std.not_lt, positionOf_lt_iff lined bounded (Nat.le_trans below bounded), Nat.not_lt]
    exact below
  by_cases bounded : right ≤ surface.content.length
  · exact forward ordered bounded
  · have atEnd := positionOf_of_length_le lined.nonempty (Nat.le_refl surface.content.length)
    have behind : surface.content.length ≤ right := by omega
    rw [positionOf_of_length_le lined.nonempty behind]
    by_cases leftBounded : left ≤ surface.content.length
    · exact atEnd ▸ forward leftBounded (Nat.le_refl _)
    · rw [positionOf_of_length_le lined.nonempty (by omega)]
      exact Std.le_refl _

/-- Places of the text and their offsets have the same order. -/
theorem offsetOf_lt_iff (lined : surface.Lined) {left right : Position}
    (leftInside : surface.Inside left) (rightInside : surface.Inside right) :
    surface.offsetOf left < surface.offsetOf right ↔ left < right := by
  rw [← positionOf_lt_iff lined (offsetOf_le_length lined.nonempty left)
      (offsetOf_le_length lined.nonempty right),
    positionOf_offsetOf leftInside, positionOf_offsetOf rightInside]

/-- Places of the text and their offsets have the same weak order. -/
theorem offsetOf_le_iff (lined : surface.Lined) {left right : Position}
    (leftInside : surface.Inside left) (rightInside : surface.Inside right) :
    surface.offsetOf left ≤ surface.offsetOf right ↔ left ≤ right := by
  rw [← Nat.not_lt, offsetOf_lt_iff lined rightInside leftInside, Std.not_lt]

/-! ### The text between two places -/

/-- A slice of lines is a slice of the text that they make up. -/
theorem sliceLines_eq (skip count : Nat) (lines : List Text) :
    sliceLines skip count lines = ((Text.ofLines lines).drop skip).take count := by
  induction lines generalizing skip count with
  | nil => simp [sliceLines, Text.ofLines]
  | cons line others inductionHypothesis =>
      by_cases more : others = []
      · subst more
        rfl
      · rw [sliceLines.eq_3 skip count line others more, Text.ofLines_cons line more]
        split
        next fits =>
          have inFront : skip ≤ (line ++ ['\n']).length := by
            rw [List.length_append]
            omega
          have whole : line ++ '\n' :: Text.ofLines others =
              (line ++ ['\n']) ++ Text.ofLines others := by simp
          have rest : count - min count ((line ++ ['\n']).drop skip).length =
              count - ((line ++ ['\n']).drop skip).length := by omega
          dsimp only
          rw [inductionHypothesis, List.drop_zero, List.length_take, rest, whole,
            List.drop_append_of_le_length inFront, List.take_append]
        next passed =>
          obtain ⟨further, rfl⟩ : ∃ further, skip = line.length + (further + 1) :=
            ⟨skip - line.length - 1, by omega⟩
          rw [inductionHypothesis, List.drop_length_add_append, List.drop_succ_cons,
            show line.length + (further + 1) - (line.length + 1) = further by omega]

/-- The text between two places is the slice of the content between their offsets. -/
theorem text_eq (surface : Surface) (start stop : Position) :
    surface.text start stop =
      (surface.content.drop (surface.offsetOf start)).take
        (surface.offsetOf stop - surface.offsetOf start) := by
  simp only [text]
  split
  next => exact sliceLines_eq _ _ _
  next empty => rw [Nat.sub_eq_zero_of_le (Nat.not_lt.mp empty), List.take_zero]

/-- The text between the first place and the last one is the whole content. -/
theorem text_start_finish (nonempty : surface.lines ≠ []) :
    surface.text .start surface.finish = surface.content := by
  rw [text_eq, offsetOf_start, offsetOf_finish nonempty, List.drop_zero, Nat.sub_zero,
    List.take_length]

/-! ### Surfaces with the same lines -/

variable {next : Surface} (sameLines : next.lines = surface.lines)

include sameLines

theorem inside_congr {position : Position} : next.Inside position ↔ surface.Inside position := by
  rw [inside_iff, inside_iff, sameLines]

theorem content_congr : next.content = surface.content :=
  congrArg Text.ofLines sameLines

theorem line?_congr : next.line? = surface.line? := by
  funext line
  cases line <;> simp [line?, sameLines]

theorem positionOf_congr : next.positionOf = surface.positionOf := by
  obtain ⟨lines, _, _, _, _⟩ := next
  obtain rfl : lines = surface.lines := sameLines
  rfl

theorem offsetOf_congr : next.offsetOf = surface.offsetOf := by
  obtain ⟨lines, _, _, _, _⟩ := next
  obtain rfl : lines = surface.lines := sameLines
  rfl

theorem text_congr : next.text = surface.text := by
  obtain ⟨lines, _, _, _, _⟩ := next
  obtain rfl : lines = surface.lines := sameLines
  rfl

end Highlighter.Surface
