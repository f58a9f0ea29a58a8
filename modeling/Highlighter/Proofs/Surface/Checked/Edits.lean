import Highlighter.Proofs.Surface.Checked.Steps

/-!
# Edits that stay inside their lists

An edit takes the ranges of all tags apart into offsets, replaces the lines, and puts the ranges
together again by the line starts of the edited text. Both ways index into a table of line starts
and trust that it has the line. Ranges that lie in the text are all that they need
(`Checked.replaceText_eq`).
-/

namespace Highlighter.Checked

/-! ### Edits -/

section Edits

/-- A range whose ends are offsets. -/
structure OffsetRange where
  start : Nat
  stop : Nat
  stamp : Nat

/-- The offset of a place in the text. -/
def offsetIn (starts : List Nat) (position : Position) : Option Nat := do
  return (← starts[← difference position.line 1]?) + position.column

/-- The place at an offset, at most `finish`. -/
def positionAt (starts : List Nat) (finish : Position) (offset : Nat) : Option Position := do
  let line ← partitionPoint (· ≤ offset) starts
  let start ← starts[← difference line 1]?
  return min ⟨line, ← difference offset start⟩ finish

/-- The ranges of every tag, with offsets for their ends. -/
def rangeOffsets (surface : Surface) : Option (List (List OffsetRange)) :=
  surface.tags.mapM fun tag => tag.ranges.mapM fun range => do
    let start ← offsetIn surface.lineStarts range.start
    let stop ← offsetIn surface.lineStarts range.stop
    return ⟨start, stop, range.stamp⟩

/-- A range with its ends moved and brought into an edited text, or nothing if it is empty there. -/
def restoreRange (starts : List Nat) (finish : Position) (moveStart moveStop : Nat → Option Nat)
    (range : OffsetRange) : Option (Option TagRange) := do
  let start ← moveStart range.start
  let stop ← moveStop range.stop
  if start < stop then
    let first ← positionAt starts finish start
    let last ← positionAt starts finish stop
    return some ⟨first, last, range.stamp⟩
  else return none

/-- Tags with such ranges in place of their own. There is a tag for each of them. -/
def restoreTags (restore : OffsetRange → Option (Option TagRange)) :
    List Tag → List (List OffsetRange) → Option (List Tag)
  | tags, [] => return tags
  | [], _ :: _ => none
  | tag :: tags, ranges :: others => do
    let restored ← ranges.mapM restore
    return { tag with ranges := restored.filterMap id } :: (← restoreTags restore tags others)

/-- Replace the text, with all ranges moved and the cursor behind the first `cursor`
characters. -/
def replaceText (surface : Surface) (text : Text) (moveStart moveStop : Nat → Option Nat)
    (cursor : Nat) : Option Surface := do
  let offsets ← rangeOffsets surface
  let edited := surface.withText text
  let restore := restoreRange edited.lineStarts (← finish edited) moveStart moveStop
  let tags ← restoreTags restore surface.tags offsets
  return { edited with tags, cursor := ← positionOf edited cursor }

/-- Insert a text at a position, and leave the cursor behind it. -/
def insert (surface : Surface) (position : Position) (text : Text) : Option Surface := do
  let place ← offsetOf surface position
  let content ← content surface
  let index := min place content.length
  let edited ← splice index index text content
  replaceText surface edited
    (fun offset => return if place ≤ offset then offset + text.length else offset)
    (fun offset => return if place < offset then offset + text.length else offset)
    (place + text.length)

/-- Delete the text between two positions, and leave the cursor there. -/
def delete (surface : Surface) (start stop : Position) : Option Surface := do
  let first ← offsetOf surface start
  let last ← offsetOf surface stop
  if first < last then
    let content ← content surface
    let edited ← splice (min first content.length) (min last content.length) [] content
    let move (offset : Nat) : Option Nat :=
      if last ≤ offset then do difference offset (← difference last first)
      else return min offset first
    replaceText surface edited move move first
  else return surface

variable {surface : Surface}

theorem offsetIn_eq {position : Position} (inside : surface.Inside position) :
    offsetIn surface.lineStarts position =
      some (Surface.offsetIn surface.lineStarts position) := by
  obtain ⟨index, text, atIndex, sameLine, -⟩ := Surface.inside_iff.mp inside
  rw [offsetIn, Surface.offsetIn, difference_eq (by omega), sameLine, Nat.add_sub_cancel_left,
    Option.bind_eq_bind, Option.bind_some, Surface.lineStarts, Surface.getElem?_lineStartsFrom,
    atIndex]
  rfl

/-- No line starts before the first one. -/
theorem le_of_mem_lineStartsFrom {offset start : Nat} {lines : List Text}
    (member : start ∈ Surface.lineStartsFrom offset lines) : offset ≤ start := by
  induction lines generalizing offset with
  | nil => simp [Surface.lineStartsFrom] at member
  | cons line others inductionHypothesis =>
      rcases List.mem_cons.mp member with rfl | later
      · exact Nat.le_refl _
      · have := inductionHypothesis later
        omega

/-- Lines start one behind the other. -/
theorem pairwise_lineStartsFrom (offset : Nat) (lines : List Text) :
    (Surface.lineStartsFrom offset lines).Pairwise (· ≤ ·) := by
  induction lines generalizing offset with
  | nil => exact .nil
  | cons line others inductionHypothesis =>
      refine .cons (fun start member => ?_) (inductionHypothesis _)
      have := le_of_mem_lineStartsFrom member
      omega

theorem positionAt_eq (lined : surface.Lined) (finish : Position) (offset : Nat) :
    positionAt surface.lineStarts finish offset =
      some (Surface.positionAt surface.lineStarts finish offset) := by
  have ascending := pairwise_lineStartsFrom 0 surface.lines
  have front : (Surface.lineStarts surface).Pairwise fun left right =>
      decide (right ≤ offset) = true → decide (left ≤ offset) = true :=
    ascending.imp fun ordered passes => by
      rw [decide_eq_true_eq] at passes ⊢
      omega
  have nonempty : surface.lineStarts.takeWhile (· ≤ offset) ≠ [] := by
    obtain ⟨first, others, shape⟩ := List.exists_cons_of_ne_nil lined.nonempty
    simp [Surface.lineStarts, shape, Surface.lineStartsFrom]
  have positive := List.length_pos_iff.mpr nonempty
  have started : (surface.lineStarts.takeWhile (· ≤ offset)).getLast nonempty ≤ offset := by
    simpa using List.mem_takeWhile_imp (List.getLast_mem nonempty)
  have found : surface.lineStarts[(surface.lineStarts.takeWhile (· ≤ offset)).length - 1]? =
      some ((surface.lineStarts.takeWhile (· ≤ offset)).getLast nonempty) := by
    rw [List.getLast_eq_getElem, List.IsPrefix.getElem (List.takeWhile_prefix _),
      List.getElem?_eq_getElem]
  rw [positionAt, Surface.positionAt, partitionPoint_eq front]
  simp only [Option.bind_eq_bind, Option.bind_some, difference_eq positive, found,
    difference_eq started, Option.getD_some]
  rfl

theorem rangeOffsets_eq (orderly : surface.Orderly) :
    rangeOffsets surface =
      some (surface.tags.map fun tag => tag.ranges.map fun range =>
        ⟨Surface.offsetIn surface.lineStarts range.start,
          Surface.offsetIn surface.lineStarts range.stop, range.stamp⟩) := by
  refine mapM_eq_map fun tag member => mapM_eq_map fun range held => ?_
  obtain ⟨startInside, stopInside⟩ := (orderly.placed tag member).inside range held
  rw [offsetIn_eq startInside, offsetIn_eq stopInside]
  rfl

/-- Where the ranges of every tag can be restored, the tags can. -/
theorem restoreTags_eq {restore : OffsetRange → Option (Option TagRange)}
    {restored : OffsetRange → Option TagRange} (offsets : TagRange → OffsetRange)
    (succeeds : ∀ range, restore range = some (restored range)) (tags : List Tag) :
    restoreTags restore tags (tags.map fun tag => tag.ranges.map offsets) =
      some (tags.map fun tag =>
        { tag with ranges := tag.ranges.filterMap fun range => restored (offsets range) }) := by
  induction tags with
  | nil => rfl
  | cons tag others inductionHypothesis =>
      simp only [List.map_cons, restoreTags, inductionHypothesis, Option.bind_eq_bind,
        Option.bind_some, mapM_eq_map fun range _ => succeeds range]
      simp [List.filterMap_map]

section Moves

variable {moveStart? moveStop? : Nat → Option Nat} {moveStart moveStop : Nat → Nat}
  (starts : ∀ offset, moveStart? offset = some (moveStart offset))
  (stops : ∀ offset, moveStop? offset = some (moveStop offset))

include starts stops

theorem restoreRange_eq (lined : surface.Lined) (range : OffsetRange) :
    restoreRange surface.lineStarts surface.finish moveStart? moveStop? range =
      some (if moveStart range.start < moveStop range.stop then
        some ⟨Surface.positionAt surface.lineStarts surface.finish (moveStart range.start),
          Surface.positionAt surface.lineStarts surface.finish (moveStop range.stop), range.stamp⟩
      else none) := by
  rw [restoreRange, starts, stops]
  simp only [Option.bind_eq_bind, Option.bind_some, positionAt_eq lined]
  split <;> rfl

theorem replaceText_eq (orderly : surface.Orderly) (text : Text) (cursor : Nat) :
    replaceText surface text moveStart? moveStop? cursor =
      some (surface.replaceText text moveStart moveStop cursor) := by
  have lined := Surface.lined_withText surface text
  simp only [replaceText, rangeOffsets_eq orderly, finish_eq lined, positionOf_eq lined,
    restoreTags_eq _ (restoreRange_eq starts stops lined), Option.bind_eq_bind, Option.bind_some]
  rfl

end Moves

theorem insert_eq (orderly : surface.Orderly) (position : Position) (text : Text) :
    insert surface position text = some (surface.insert position text) := by
  have bounded := Surface.offsetOf_le_length orderly.nonempty position
  rw [insert, offsetOf_eq orderly.toLined, content_eq orderly.toLined]
  simp only [Option.bind_eq_bind, Option.bind_some, Nat.min_eq_left bounded,
    splice_eq (Nat.le_refl _) bounded]
  exact replaceText_eq (fun _ => rfl) (fun _ => rfl) orderly _ _

theorem delete_eq (orderly : surface.Orderly) (start stop : Position) :
    delete surface start stop = some (surface.delete start stop) := by
  have startBounded := Surface.offsetOf_le_length orderly.nonempty start
  have stopBounded := Surface.offsetOf_le_length orderly.nonempty stop
  rw [delete, Surface.delete, offsetOf_eq orderly.toLined, offsetOf_eq orderly.toLined]
  simp only [Option.bind_eq_bind, Option.bind_some]
  split
  next nonempty =>
    have moves : ∀ offset,
        (if surface.offsetOf stop ≤ offset then
          (difference (surface.offsetOf stop) (surface.offsetOf start)).bind (difference offset)
        else return min offset (surface.offsetOf start)) =
          some (if surface.offsetOf stop ≤ offset then
            offset - (surface.offsetOf stop - surface.offsetOf start)
          else min offset (surface.offsetOf start)) := by
      intro offset
      split
      next behind =>
        rw [difference_eq (Nat.le_of_lt nonempty), Option.bind_some, difference_eq (by omega)]
      next => rfl
    simp only [content_eq orderly.toLined, Option.bind_some, Nat.min_eq_left startBounded,
      Nat.min_eq_left stopBounded, splice_eq (Nat.le_of_lt nonempty) stopBounded,
      List.append_nil]
    exact replaceText_eq moves moves orderly _ _
  next => rfl

end Edits

end Highlighter.Checked
