import Highlighter.Proofs.Surface.Address
import Highlighter.Proofs.Surface.Ranges
import Highlighter.Surface.Edit
import Mathlib.Data.List.Basic

/-!
# Carrying ranges over to an edited text

An edit takes ranges apart into offsets by one table of line starts and puts them together by
another. On places of the text both tables agree with `Surface.offsetOf` and
`Surface.positionOf`, so an edit moves the two ends of a range by two functions on offsets
(`moveRanges_eq`). Where these functions keep ends in order, ranges stay separated.
-/

namespace Highlighter.Surface

open TagRange

/-! ### Tables of line starts -/

/-- A line starts behind the lines before it. -/
theorem getElem?_lineStartsFrom (offset : Nat) (lines : List Text) (index : Nat) :
    (lineStartsFrom offset lines)[index]? =
      (lines[index]?).map fun _ => offset + blockLength (lines.take index) := by
  induction lines generalizing offset index with
  | nil => simp [lineStartsFrom]
  | cons line others inductionHypothesis =>
      cases index with
      | zero => simp [lineStartsFrom]
      | succ index =>
          simp [lineStartsFrom, inductionHypothesis, Nat.add_assoc]

/-- As many lines start up to a place as lie up to the line of the place. -/
theorem length_takeWhile_lineStartsFrom {offset place index : Nat} {lines : List Text}
    (hasLine : index < lines.length) (lower : offset + blockLength (lines.take index) ≤ place)
    (upper : place < offset + blockLength (lines.take (index + 1))) :
    ((lineStartsFrom offset lines).takeWhile (· ≤ place)).length = index + 1 := by
  induction lines generalizing offset index with
  | nil => simp at hasLine
  | cons line others inductionHypothesis =>
      have started : offset ≤ place := by omega
      rw [List.take_succ_cons, blockLength_cons] at upper
      cases index with
      | zero =>
          have laterLines : (lineStartsFrom (offset + (line.length + 1)) others).takeWhile
              (· ≤ place) = [] := by
            cases others with
            | nil => rfl
            | cons next rest =>
                rw [List.take_zero, blockLength_nil] at upper
                rw [lineStartsFrom, List.takeWhile_cons_of_neg]
                simpa using by omega
          simp [lineStartsFrom, started, laterLines]
      | succ index =>
          rw [List.length_cons] at hasLine
          rw [List.take_succ_cons, blockLength_cons] at lower
          have later : ((lineStartsFrom (offset + (line.length + 1)) others).takeWhile
              (· ≤ place)).length = index + 1 :=
            inductionHypothesis (by omega) (by omega) (by omega)
          simp [lineStartsFrom, started, later]

variable {surface : Surface}

/-- The table of line starts gives the offset of a place. -/
theorem offsetIn_lineStarts {position : Position} (inside : surface.Inside position) :
    offsetIn surface.lineStarts position = surface.offsetOf position := by
  obtain ⟨index, text, atIndex, sameLine, bounded⟩ := inside_iff.mp inside
  rw [offsetOf_of_inside inside, offsetIn, lineStarts, getElem?_lineStartsFrom, sameLine,
    Nat.add_sub_cancel_left, atIndex]
  simp

/-- The table of line starts gives the place of an offset. -/
theorem positionAt_lineStarts (lined : surface.Lined) {offset : Nat}
    (bounded : offset ≤ surface.content.length) :
    positionAt surface.lineStarts surface.finish offset = surface.positionOf offset := by
  have inside := inside_positionOf lined.nonempty offset
  have address := offsetOf_positionOf lined.nonempty bounded
  have last : surface.positionOf offset ≤ surface.finish := by
    rw [← offsetOf_le_iff lined inside (inside_finish lined.nonempty), address,
      offsetOf_finish lined.nonempty]
    exact bounded
  generalize surface.positionOf offset = position at inside address last
  obtain ⟨index, text, atIndex, sameLine, within⟩ := inside_iff.mp inside
  rw [offsetOf_of_inside inside, sameLine, Nat.add_sub_cancel_left] at address
  have hasLine : index < surface.lines.length := (List.getElem?_eq_some_iff.mp atIndex).1
  have upToLine : blockLength (surface.lines.take (index + 1)) =
      blockLength (surface.lines.take index) + (text.length + 1) := by
    rw [List.take_add_one, atIndex, blockLength_append]
    rfl
  have count : ((lineStartsFrom 0 surface.lines).takeWhile (· ≤ offset)).length = index + 1 :=
    length_takeWhile_lineStartsFrom hasLine (by omega) (by omega)
  rw [positionAt, lineStarts, count, Nat.add_sub_cancel, getElem?_lineStartsFrom, atIndex]
  have same : (⟨index + 1, offset - (0 + blockLength (surface.lines.take index))⟩ : Position) =
      position := by
    obtain ⟨line, column⟩ := position
    simp only [Position.mk.injEq]
    dsimp only at sameLine address
    omega
  rw [Option.map_some, Option.getD_some, same, Position.min_eq_left last]

/-! ### Moved ranges -/

/-- A range of one text on another text, with its ends moved by functions on offsets. A range
that becomes empty is dropped. -/
def movedRange (old new : Surface) (moveStart moveStop : Nat → Nat) (range : TagRange) :
    Option TagRange :=
  let start := moveStart (old.offsetOf range.start)
  let stop := moveStop (old.offsetOf range.stop)
  if start < stop then some ⟨new.positionOf start, new.positionOf stop, range.stamp⟩ else none

/-- Two functions move the ends of ranges from a text to another one: an end of a range stays
before the start of a later range, and inside the text. -/
structure Moves (old new : Surface) (moveStart moveStop : Nat → Nat) : Prop where
  apart : ∀ {stop start : Nat}, stop ≤ start → moveStop stop ≤ moveStart start
  bounded : ∀ {stop : Nat}, stop ≤ old.content.length → moveStop stop ≤ new.content.length

/-- Where the start of a range moves when characters are inserted at a place. -/
def spreadStart (place count offset : Nat) : Nat :=
  if place ≤ offset then offset + count else offset

/-- Where the end of a range moves when characters are inserted at a place. -/
def spreadStop (place count offset : Nat) : Nat :=
  if place < offset then offset + count else offset

/-- Where the ends of a range move when the characters between two places are deleted. -/
def collapse (first last offset : Nat) : Nat :=
  if last ≤ offset then offset - (last - first) else min offset first

variable {old new : Surface} {moveStart moveStop : Nat → Nat} {ranges : List TagRange}

/-- An edit moves each range on its own. -/
theorem moveRanges_eq (oldLined : old.Lined) (newLined : new.Lined)
    (moves : Moves old new moveStart moveStop)
    (inside : ∀ range ∈ ranges, old.Inside range.start ∧ old.Inside range.stop) :
    moveRanges old new moveStart moveStop ranges =
      ranges.filterMap (movedRange old new moveStart moveStop) := by
  rw [moveRanges]
  apply List.filterMap_congr
  intro range member
  obtain ⟨startInside, stopInside⟩ := inside range member
  have bounded := moves.bounded (offsetOf_le_length oldLined.nonempty range.stop)
  rw [movedRange, offsetIn_lineStarts startInside, offsetIn_lineStarts stopInside]
  dsimp only
  split
  next ordered =>
    rw [positionAt_lineStarts newLined (by omega), positionAt_lineStarts newLined bounded]
  next => rfl

/-- What a moved range is. -/
theorem movedRange_eq_some_iff {range moved : TagRange} :
    movedRange old new moveStart moveStop range = some moved ↔
      moveStart (old.offsetOf range.start) < moveStop (old.offsetOf range.stop) ∧
        moved = ⟨new.positionOf (moveStart (old.offsetOf range.start)),
          new.positionOf (moveStop (old.offsetOf range.stop)), range.stamp⟩ := by
  rw [movedRange]
  split <;> simp [*, eq_comm]

/-- A range that is not dropped is not empty. -/
theorem start_lt_stop_of_movedRange (newLined : new.Lined)
    (moves : Moves old new moveStart moveStop) (oldLined : old.Lined) {range moved : TagRange}
    (same : movedRange old new moveStart moveStop range = some moved) :
    moved.start < moved.stop := by
  obtain ⟨ordered, rfl⟩ := movedRange_eq_some_iff.mp same
  have bounded := moves.bounded (offsetOf_le_length oldLined.nonempty range.stop)
  exact (positionOf_lt_iff newLined (by omega) bounded).mpr ordered

/-- Moved ranges are separated. -/
theorem separated_filterMap_movedRange (oldLined : old.Lined) (newLined : new.Lined)
    (moves : Moves old new moveStart moveStop) (separated : Separated ranges)
    (inside : ∀ range ∈ ranges, old.Inside range.start ∧ old.Inside range.stop) :
    Separated (ranges.filterMap (movedRange old new moveStart moveStop)) where
  nonempty moved member := by
    obtain ⟨range, -, same⟩ := List.mem_filterMap.mp member
    exact start_lt_stop_of_movedRange newLined moves oldLined same
  apart := by
    rw [List.pairwise_filterMap]
    apply separated.apart.imp_of_mem
    intro left right leftHeld rightHeld before leftMoved leftSame rightMoved rightSame
    obtain ⟨-, rfl⟩ := movedRange_eq_some_iff.mp leftSame
    obtain ⟨ordered, rfl⟩ := movedRange_eq_some_iff.mp rightSame
    have bounded := moves.bounded (offsetOf_le_length oldLined.nonempty right.stop)
    have apart := moves.apart
      ((offsetOf_le_iff oldLined (inside left leftHeld).2 (inside right rightHeld).1).mpr before)
    exact positionOf_le newLined apart

end Highlighter.Surface
