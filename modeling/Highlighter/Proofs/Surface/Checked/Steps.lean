import Highlighter.Proofs.Surface.Overlapping

/-!
# Steps that stay inside their lists

The operations on a surface subtract, index into lists, take parts out of lists and search them by
bisection, and none of them asks beforehand whether the difference, the element or the part exists,
or whether bisection finds anything in the list. `Checked` holds the same operations with every such
step checked: a step that fails makes the operation `none`. This module has the checked steps, and
with them the searches in the ranges of a tag and the ways between positions and offsets. On lines
that are lines and ranges that ascend they give what the unchecked ones give.
-/

namespace Highlighter.Checked

open TagRange

/-! ### Checked steps -/

section Steps

variable {α : Type} {first last : Nat}

/-- The difference of two numbers, unless it lies below zero. -/
def difference (left right : Nat) : Option Nat :=
  if right ≤ left then some (left - right) else none

/-- The part of a list from one index up to another, unless it does not exist. -/
def slice (first last : Nat) (list : List α) : Option (List α) :=
  if first ≤ last ∧ last ≤ list.length then some ((list.take last).drop first) else none

/-- The list with such a part replaced, unless the part does not exist. -/
def splice (first last : Nat) (pieces list : List α) : Option (List α) :=
  if first ≤ last ∧ last ≤ list.length then some (list.take first ++ pieces ++ list.drop last)
  else none

/-- The number of elements in front that pass a test. Bisection finds it only where no element
passes behind one that fails. -/
def partitionPoint (test : α → Bool) (list : List α) : Option Nat :=
  if (list.dropWhile test).any test then none else some (list.takeWhile test).length

theorem difference_eq {left right : Nat} (ordered : right ≤ left) :
    difference left right = some (left - right) :=
  if_pos ordered

theorem slice_eq {list : List α} (ordered : first ≤ last) (bounded : last ≤ list.length) :
    slice first last list = some ((list.take last).drop first) :=
  if_pos ⟨ordered, bounded⟩

theorem splice_eq {pieces list : List α} (ordered : first ≤ last) (bounded : last ≤ list.length) :
    splice first last pieces list = some (list.take first ++ pieces ++ list.drop last) :=
  if_pos ⟨ordered, bounded⟩

theorem partitionPoint_eq {test : α → Bool} {list : List α}
    (front : list.Pairwise fun left right => test right = true → test left = true) :
    partitionPoint test list = some (list.takeWhile test).length := by
  refine if_neg ?_
  rw [Bool.not_eq_true, List.any_eq_false]
  intro element member
  simpa using not_of_mem_dropWhile front element member

/-- Where every step succeeds, so does the way through the whole list. -/
theorem mapM_eq_map {β : Type} {step? : α → Option β} {step : α → β} {list : List α}
    (succeeds : ∀ element ∈ list, step? element = some (step element)) :
    list.mapM step? = some (list.map step) := by
  induction list with
  | nil => rfl
  | cons element others inductionHypothesis =>
      rw [List.mapM_cons, succeeds element List.mem_cons_self,
        inductionHypothesis fun other member => succeeds other (List.mem_cons_of_mem _ member)]
      rfl

/-- Where every step succeeds on what the steps before it may leave, so does the way through the
whole list. -/
theorem foldlM_eq_foldl {β : Type} {step? : β → α → Option β} {step : β → α → β} {list : List α}
    (keeps : β → Prop)
    (succeeds : ∀ element ∈ list, ∀ state, keeps state →
      step? state element = some (step state element) ∧ keeps (step state element))
    {state : β} (kept : keeps state) :
    list.foldlM step? state = some (list.foldl step state) := by
  induction list generalizing state with
  | nil => rfl
  | cons element others inductionHypothesis =>
      obtain ⟨same, next⟩ := succeeds element List.mem_cons_self state kept
      rw [List.foldlM_cons, same, List.foldl_cons, Option.bind_eq_bind, Option.bind_some]
      exact inductionHypothesis (fun other member =>
        succeeds other (List.mem_cons_of_mem _ member)) next

end Steps

/-! ### Ranges of a tag -/

/-- Cut a part out of ranges. -/
def cutRanges (start stop : Position) (ranges : List TagRange) : Option (List TagRange) := do
  let low ← partitionPoint (·.stop ≤ start) ranges
  let high ← partitionPoint (·.start < stop) ranges
  if high ≤ low then return ranges
  let first ← ranges[low]?
  let last ← ranges[← difference high 1]?
  let front := if first.start < start then [{ first with stop := start }] else []
  let back := if stop < last.stop then [{ last with start := stop }] else []
  splice low high (front ++ back) ranges

/-- Add a range in place of everything it overlaps. -/
def addRange (range : TagRange) (ranges : List TagRange) : Option (List TagRange) :=
  match ranges.getLast? with
  | none => return [range]
  | some last =>
    if range.start < last.stop then do
      let others ← cutRanges range.start range.stop ranges
      let index ← partitionPoint (·.start < range.start) others
      splice index index [range] others
    else return ranges ++ [range]

/-- The index of the first range that ends behind a position. -/
def firstAfter (tag : Tag) (position : Position) : Option Nat :=
  partitionPoint (·.stop ≤ position) tag.ranges

/-- Whether the tag covers the character at a position. -/
def covers (tag : Tag) (position : Position) : Option Bool := do
  let first ← firstAfter tag position
  return (tag.ranges[first]?).any (·.start ≤ position)

section Ranges

variable {ranges : List TagRange} {tag : Tag}

theorem firstAfter_eq (ascending : Ascending tag.ranges) (position : Position) :
    firstAfter tag position = some (tag.ranges.takeWhile (·.stop ≤ position)).length :=
  partitionPoint_eq (ascending.stops_front position)

theorem covers_eq (ascending : Ascending tag.ranges) (position : Position) :
    covers tag position = some (tag.covers position) := by
  rw [covers, firstAfter_eq ascending, Tag.covers, Tag.rangesAfter, ← drop_length_takeWhile,
    List.head?_drop]
  rfl

/-- What a test finds at the front is the part of the list up to its length. -/
theorem take_length_takeWhile {α : Type} (test : α → Bool) (list : List α) :
    list.take (list.takeWhile test).length = list.takeWhile test :=
  (List.prefix_iff_eq_take.mp (List.takeWhile_prefix test)).symm

theorem cutRanges_eq (ascending : Ascending ranges) (start stop : Position) :
    cutRanges start stop ranges = some (Tag.cutRanges start stop ranges) := by
  have front := take_length_takeWhile (fun range : TagRange => decide (range.stop ≤ start)) ranges
  have reached := take_length_takeWhile (fun range : TagRange => decide (range.start < stop)) ranges
  have bounded : (ranges.takeWhile (·.start < stop)).length ≤ ranges.length :=
    (List.takeWhile_prefix _).length_le
  simp only [cutRanges, Tag.cutRanges, partitionPoint_eq (ascending.stops_front start),
    partitionPoint_eq (ascending.starts_front stop), Option.bind_eq_bind, Option.bind_some,
    List.head?_drop, List.getLast?_drop]
  generalize (ranges.takeWhile (·.stop ≤ start)) = before at front ⊢
  generalize (ranges.takeWhile (·.start < stop)) = touching at reached bounded ⊢
  split
  next nothing =>
    rw [List.getElem?_eq_none nothing]
    rfl
  next nonempty =>
    have first : touching[before.length]? = ranges[before.length]? := by
      rw [← reached, List.getElem?_take, if_pos (by omega)]
    have last : touching.getLast? = ranges[touching.length - 1]? := by
      rw [List.getLast?_eq_getElem?]
      nth_rewrite 1 [← reached]
      rw [List.getElem?_take, if_pos (by omega)]
    have firstIn : before.length < ranges.length := by omega
    have lastIn : touching.length - 1 < ranges.length := by omega
    rw [first, last, difference_eq (by omega)]
    simp only [List.getElem?_eq_getElem firstIn, List.getElem?_eq_getElem lastIn, Option.bind_some]
    rw [splice_eq (by omega) bounded, front]
    simp only [List.append_assoc]

theorem addRange_eq (ascending : Ascending ranges) (range : TagRange) :
    addRange range ranges = some (Tag.addRange range ranges) := by
  rw [addRange, Tag.addRange]
  cases ranges.getLast? with
  | none => rfl
  | some last =>
      dsimp only
      split
      next =>
        have pieces := Tag.ascending_cutRanges ascending range.start range.stop
        simp only [cutRanges_eq ascending, Option.bind_eq_bind, Option.bind_some,
          partitionPoint_eq (pieces.starts_front range.start)]
        rw [splice_eq (Nat.le_refl _) (List.takeWhile_prefix _).length_le, take_length_takeWhile,
          drop_length_takeWhile, List.append_assoc, List.singleton_append]
      next => rfl

end Ranges

/-! ### Addresses -/

section Addresses

variable {surface : Surface}

/-- The place behind the last character of the text. -/
def finish (surface : Surface) : Option Position := do
  let text ← surface.lines[← difference surface.lineCount 1]?
  return ⟨surface.lineCount, text.length⟩

/-- The place behind the last character of a line. -/
def lineEnd (surface : Surface) (line : Nat) : Option Position :=
  match surface.line? line with
  | some text => return ⟨line, text.length⟩
  | none => finish surface

/-- The place in the text that is nearest to a position. -/
def clamp (surface : Surface) (position : Position) : Option Position :=
  if position.line = 0 then return .start
  else do
    match surface.lines[← difference position.line 1]? with
    | some text => return ⟨position.line, min position.column text.length⟩
    | none => finish surface

/-- The number of characters before a position that is brought into the text. -/
def offsetOf (surface : Surface) (position : Position) : Option Nat :=
  if position.line = 0 then return 0
  else do
    let index ← difference (min position.line surface.lineCount) 1
    let before ← slice 0 index surface.lines
    let text ← surface.lines[index]?
    let column := if surface.lineCount < position.line then text.length else position.column
    return Surface.blockLength before + min column text.length

/-- The place behind the first `offset` characters of lines, and behind all of them `finish`. -/
def placeIn (finish : Option Position) (line offset : Nat) : List Text → Option Position
  | [] => finish
  | text :: others =>
    if offset ≤ text.length then return ⟨line, offset⟩
    else do placeIn finish (line + 1) (← difference offset (text.length + 1)) others

/-- The place behind the first `offset` characters, at most the end of the text. -/
def positionOf (surface : Surface) (offset : Nat) : Option Position :=
  placeIn (finish surface) 1 offset surface.lines

/-- The place `count` characters behind a position, at most the end of the text. -/
def advance (surface : Surface) (position : Position) (count : Nat) : Option Position := do
  positionOf surface ((← offsetOf surface position) + count)

/-- The text between two positions. -/
def text (surface : Surface) (start stop : Position) : Option Text := do
  let first ← offsetOf surface start
  let last ← offsetOf surface stop
  return if first < last then Surface.sliceLines first (last - first) surface.lines else []

/-- The whole text. -/
def content (surface : Surface) : Option Text := do
  text surface .start (← finish surface)

theorem finish_eq (lined : surface.Lined) : finish surface = some surface.finish := by
  have positive : 1 ≤ surface.lineCount := List.length_pos_iff.mpr lined.nonempty
  have last : surface.lines[surface.lineCount - 1]? =
      some (surface.lines.getLast lined.nonempty) := by
    rw [List.getLast_eq_getElem, Surface.lineCount, List.getElem?_eq_getElem]
  rw [finish, difference_eq positive, Surface.finish_eq lined.nonempty]
  simp only [Option.bind_eq_bind, Option.bind_some, last]
  rfl

theorem lineEnd_eq (lined : surface.Lined) (line : Nat) :
    lineEnd surface line = some (surface.lineEnd line) := by
  rw [lineEnd, Surface.lineEnd, finish_eq lined]
  cases surface.line? line <;> rfl

theorem clamp_eq (lined : surface.Lined) (position : Position) :
    clamp surface position = some (surface.clamp position) := by
  obtain ⟨line, column⟩ := position
  cases line with
  | zero => rfl
  | succ index =>
      have behindFirst : 1 ≤ index + 1 := Nat.le_add_left 1 index
      simp only [clamp, Surface.clamp, Nat.succ_ne_zero, if_false, difference_eq behindFirst,
        Option.bind_eq_bind, Option.bind_some, Nat.add_sub_cancel, Surface.line?, finish_eq lined]
      cases surface.lines[index]? <;> rfl

theorem offsetOf_eq (lined : surface.Lined) (position : Position) :
    offsetOf surface position = some (surface.offsetOf position) := by
  have positive : 1 ≤ surface.lineCount := List.length_pos_iff.mpr lined.nonempty
  rw [offsetOf, Surface.offsetOf]
  split
  next => rfl
  next behindFirst =>
    have hasLine : min position.line surface.lineCount - 1 < surface.lines.length := by
      rw [Surface.lineCount] at *
      omega
    have atLine := List.getElem?_eq_getElem hasLine
    have length := Surface.lineLength_of_getElem? atLine
    rw [Nat.sub_add_cancel (by omega)] at length
    simp only [difference_eq (show 1 ≤ min position.line surface.lineCount by omega),
      slice_eq (Nat.zero_le _) (Nat.le_of_lt hasLine), atLine, ← length, List.drop_zero,
      Option.bind_eq_bind, Option.bind_some, Option.pure_def, Option.some_inj]
    by_cases within : position.line ≤ surface.lineCount
    · rw [if_neg (Nat.not_lt.mpr within), if_pos within, Nat.min_eq_left within]
      rfl
    · rw [if_pos (Nat.not_le.mp within), if_neg within, Nat.min_eq_right (by omega), Nat.min_self]
      rfl

theorem placeIn_eq (finish : Position) (line offset : Nat) (lines : List Text) :
    placeIn (some finish) line offset lines =
      some ((Surface.positionIn? line offset lines).getD finish) := by
  induction lines generalizing line offset with
  | nil => rfl
  | cons text others inductionHypothesis =>
      rw [placeIn, Surface.positionIn?]
      split
      next => rfl
      next passed =>
        rw [difference_eq (by omega), Option.bind_eq_bind, Option.bind_some, inductionHypothesis]

theorem positionOf_eq (lined : surface.Lined) (offset : Nat) :
    positionOf surface offset = some (surface.positionOf offset) := by
  rw [positionOf, finish_eq lined, placeIn_eq]
  rfl

theorem advance_eq (lined : surface.Lined) (position : Position) (count : Nat) :
    advance surface position count = some (surface.advance position count) := by
  rw [advance, offsetOf_eq lined, Option.bind_eq_bind, Option.bind_some, positionOf_eq lined]
  rfl

theorem text_eq (lined : surface.Lined) (start stop : Position) :
    text surface start stop = some (surface.text start stop) := by
  rw [text, offsetOf_eq lined, offsetOf_eq lined]
  rfl

theorem content_eq (lined : surface.Lined) : content surface = some surface.content := by
  rw [content, finish_eq lined, Option.bind_eq_bind, Option.bind_some, text_eq lined,
    Surface.text_start_finish lined.nonempty]

end Addresses

end Highlighter.Checked
