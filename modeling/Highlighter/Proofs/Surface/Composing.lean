import Highlighter.Proofs.Surface.Overlapping

/-!
# Edits one after the other

Each edit takes ranges apart into offsets, moves these and puts ranges together again. Of two edits
the second one meets the offsets that the first one left, so both together move the ends of ranges
by the composed functions (`Orderly.replaceText_replaceText`); a range that the first edit drops is
one that both together drop. An edit that moves nothing leaves all ranges as they are
(`Orderly.replaceText_id`). So typing is pasting, deleting in steps is deleting at once
(`edits_compose`), and deleting what was inserted restores the surface (`delete_of_inserted`).
-/

namespace Highlighter.Surface

open TagRange

variable {surface : Surface}

/-! ### Moved ranges -/

section

variable {old middle new : Surface} {moveStart moveStop laterStart laterStop : Nat → Nat}

/-- Moves from a text to a second one and on to a third one are moves from the first to the
third. -/
theorem Moves.comp (moves : Moves old middle moveStart moveStop)
    (later : Moves middle new laterStart laterStop) :
    Moves old new (laterStart ∘ moveStart) (laterStop ∘ moveStop) where
  apart ordered := later.apart (moves.apart ordered)
  bounded within := later.bounded (moves.bounded within)

/-- A range that is moved twice is moved by both functions one after the other. If it is dropped
on the way, its ends stay in the wrong order. -/
theorem movedRange_bind (oldLines : old.lines ≠ []) (middleLines : middle.lines ≠ [])
    (moves : Moves old middle moveStart moveStop)
    (later : Moves middle new laterStart laterStop) (range : TagRange) :
    (movedRange old middle moveStart moveStop range).bind
        (movedRange middle new laterStart laterStop) =
      movedRange old new (laterStart ∘ moveStart) (laterStop ∘ moveStop) range := by
  have bounded := moves.bounded (offsetOf_le_length oldLines range.stop)
  rw [movedRange]
  split
  next ordered =>
    rw [Option.bind_some, movedRange, offsetOf_positionOf middleLines (by omega),
      offsetOf_positionOf middleLines bounded]
    rfl
  next dropped =>
    have dropsToo := later.apart (Nat.not_lt.mp dropped)
    rw [Option.bind_none, movedRange]
    exact (if_neg (Nat.not_lt.mpr dropsToo)).symm

/-- A range of a text is moved to itself by moves that lead nowhere. -/
theorem movedRange_id (lined : old.Lined) (sameLines : new.lines = old.lines) {range : TagRange}
    (startInside : old.Inside range.start) (stopInside : old.Inside range.stop)
    (nonempty : range.start < range.stop) : movedRange old new id id range = some range := by
  rw [movedRange_eq_some_iff, positionOf_congr sameLines]
  refine ⟨(offsetOf_lt_iff lined startInside stopInside).mpr nonempty, ?_⟩
  rw [id, id, positionOf_offsetOf startInside, positionOf_offsetOf stopInside]

end

/-- Moved ranges depend on the texts only. -/
theorem movedRange_congr {old new otherOld otherNew : Surface}
    (oldLines : otherOld.lines = old.lines) (newLines : otherNew.lines = new.lines) :
    movedRange otherOld otherNew = movedRange old new := by
  funext moveStart moveStop range
  rw [movedRange, movedRange, offsetOf_congr oldLines, positionOf_congr newLines]

/-! ### Two edits -/

variable {middle text : Text} {moveStart moveStop laterStart laterStop : Nat → Nat}

/-- What an edit makes of a surface. -/
theorem Orderly.replaceText_eq (orderly : surface.Orderly)
    (moves : Moves surface (surface.withText text) moveStart moveStop) (cursor : Nat) :
    surface.replaceText text moveStart moveStop cursor =
      { surface with
        lines := text.lines
        cursor := (surface.withText text).positionOf cursor
        tags := surface.tags.map fun tag =>
          { tag with
            ranges := tag.ranges.filterMap
              (movedRange surface (surface.withText text) moveStart moveStop) } } := by
  rw [← tags_replaceText orderly.toLined (fun tag member => (orderly.placed tag member).inside)
    moves cursor]
  rfl

/-- Two edits one after the other move the ends of ranges by the composed functions. -/
theorem Orderly.replaceText_replaceText (orderly : surface.Orderly)
    (moves : Moves surface (surface.withText middle) moveStart moveStop) {between : Nat}
    (edited : (surface.replaceText middle moveStart moveStop between).Orderly)
    (later : Moves (surface.replaceText middle moveStart moveStop between)
      ((surface.replaceText middle moveStart moveStop between).withText text) laterStart laterStop)
    (cursor : Nat) :
    (surface.replaceText middle moveStart moveStop between).replaceText text laterStart laterStop
        cursor =
      surface.replaceText text (laterStart ∘ moveStart) (laterStop ∘ moveStop) cursor := by
  have onTexts : Moves (surface.withText middle) (surface.withText text) laterStart laterStop :=
    ⟨later.apart, later.bounded⟩
  have composed : ∀ ranges : List TagRange,
      (ranges.filterMap (movedRange surface (surface.withText middle) moveStart moveStop)).filterMap
          (movedRange (surface.withText middle) (surface.withText text) laterStart laterStop) =
        ranges.filterMap (movedRange surface (surface.withText text) (laterStart ∘ moveStart)
          (laterStop ∘ moveStop)) := by
    intro ranges
    rw [List.filterMap_filterMap]
    congr 1
    funext range
    exact movedRange_bind orderly.nonempty (lined_withText surface middle).nonempty moves onTexts
      range
  have laterRanges : movedRange (surface.replaceText middle moveStart moveStop between)
      ((surface.replaceText middle moveStart moveStop between).withText text) =
        movedRange (surface.withText middle) (surface.withText text) := movedRange_congr rfl rfl
  have laterPlaces : ((surface.replaceText middle moveStart moveStop between).withText
      text).positionOf = (surface.withText text).positionOf := positionOf_congr rfl
  rw [edited.replaceText_eq later, orderly.replaceText_eq (moves.comp onTexts), laterRanges,
    laterPlaces, orderly.replaceText_eq moves]
  simp only [List.map_map, Function.comp_def, composed]

/-- An edit that puts the same text in place and moves nothing moves the cursor only. -/
theorem Orderly.replaceText_id (orderly : surface.Orderly) (cursor : Nat) :
    surface.replaceText surface.content id id cursor =
      { surface with cursor := surface.positionOf cursor } := by
  have sameLines : (surface.withText surface.content).lines = surface.lines :=
    lines_content orderly.toLined
  have moves : Moves surface (surface.withText surface.content) id id :=
    ⟨id, fun within => by rwa [content_withText]⟩
  have kept : ∀ tag ∈ surface.tags,
      { tag with
        ranges := tag.ranges.filterMap
          (movedRange surface (surface.withText surface.content) id id) } = tag := by
    intro tag member
    have placed := orderly.placed tag member
    have same : tag.ranges.filterMap
        (movedRange surface (surface.withText surface.content) id id) = tag.ranges := by
      rw [List.filterMap_congr (g := some), List.filterMap_some]
      intro range held
      obtain ⟨startInside, stopInside⟩ := placed.inside range held
      exact movedRange_id orderly.toLined sameLines startInside stopInside
        (placed.ascending.nonempty range held)
    rw [same]
  rw [orderly.replaceText_eq moves, List.map_congr_left kept, List.map_id',
    positionOf_congr sameLines, lines_content orderly.toLined]

/-! ### Moves of offsets -/

theorem spreadStart_comp (place count more : Nat) :
    spreadStart (place + count) more ∘ spreadStart place count =
      spreadStart place (count + more) := by
  funext offset
  simp only [Function.comp_apply, spreadStart]
  split <;> split <;> omega

theorem spreadStop_comp (place count more : Nat) :
    spreadStop (place + count) more ∘ spreadStop place count = spreadStop place (count + more) := by
  funext offset
  simp only [Function.comp_apply, spreadStop]
  split <;> split <;> omega

theorem collapse_comp {first middle last : Nat} (lower : first ≤ middle) (upper : middle ≤ last) :
    collapse first middle ∘ collapse middle last = collapse first last := by
  funext offset
  simp only [Function.comp_apply, collapse]
  split <;> split <;> omega

theorem collapse_comp_spreadStart (place count : Nat) :
    collapse place (place + count) ∘ spreadStart place count = id := by
  funext offset
  simp only [Function.comp_apply, collapse, spreadStart, id]
  split <;> split <;> omega

theorem collapse_comp_spreadStop (place count : Nat) :
    collapse place (place + count) ∘ spreadStop place count = id := by
  funext offset
  simp only [Function.comp_apply, collapse, spreadStop, id]
  split <;> split <;> omega

/-! ### Addresses before an edit -/

/-- Texts with a common start have the same addresses there. -/
theorem offsetOf_of_common_start {other : Surface} (lined : surface.Lined)
    (otherLined : other.Lined) {position : Position} (inside : surface.Inside position)
    (common : other.content.take (surface.offsetOf position) =
      surface.content.take (surface.offsetOf position)) :
    other.offsetOf position = surface.offsetOf position := by
  have bounded : surface.offsetOf position ≤ other.content.length := by
    have within := offsetOf_le_length lined.nonempty position
    have length := congrArg List.length common
    rw [List.length_take, List.length_take] at length
    omega
  have place : other.positionOf (surface.offsetOf position) = position := by
    rw [positionOf_eq_advancedBy otherLined, common, ← positionOf_eq_advancedBy lined,
      positionOf_offsetOf inside]
  calc other.offsetOf position
      = other.offsetOf (other.positionOf (surface.offsetOf position)) := by rw [place]
    _ = surface.offsetOf position := offsetOf_positionOf otherLined.nonempty bounded

/-! ### Insertions -/

theorem content_insert (surface : Surface) (position : Position) (text : Text) :
    (surface.insert position text).content =
      surface.content.take (surface.offsetOf position) ++ text
        ++ surface.content.drop (surface.offsetOf position) :=
  Text.ofLines_lines _

/-- The cursor is left behind the inserted text. -/
theorem offsetOf_cursor_insert (lined : surface.Lined) (position : Position) (text : Text) :
    (surface.insert position text).offsetOf (surface.insert position text).cursor =
      surface.offsetOf position + text.length := by
  have bounded := offsetOf_le_length lined.nonempty position
  refine offsetOf_positionOf (lined_withText surface _).nonempty ?_
  rw [content_withText]
  simp only [List.length_append, List.length_take, List.length_drop]
  omega

/-- The place of an insertion keeps its address. -/
theorem Orderly.offsetOf_clamp_insert (orderly : surface.Orderly) (position : Position)
    (text : Text) :
    (surface.insert position text).offsetOf (surface.clamp position) =
      surface.offsetOf position := by
  have bounded := offsetOf_le_length orderly.nonempty position
  have same := offsetOf_clamp orderly.nonempty position
  rw [← same]
  refine offsetOf_of_common_start orderly.toLined (orderly.insert position text).toLined
    (inside_clamp orderly.nonempty position) ?_
  rw [same, content_insert, List.append_assoc, List.take_append_of_le_length, List.take_take,
    Nat.min_self]
  rw [List.length_take_of_le bounded]

/-- A text that is inserted behind an inserted text might as well be inserted with it. -/
theorem Orderly.insert_insert (orderly : surface.Orderly) (position : Position)
    (front back : Text) :
    (surface.insert position front).insert (surface.insert position front).cursor back =
      surface.insert position (front ++ back) := by
  have bounded := offsetOf_le_length orderly.nonempty position
  have length : (surface.content.take (surface.offsetOf position) ++ front).length =
      surface.offsetOf position + front.length := by
    rw [List.length_append, List.length_take_of_le bounded]
  have edited := orderly.insert position front
  have later := insert_moves (surface.insert position front)
    (surface.offsetOf position + front.length) back
  rw [insert_eq (surface.insert position front), offsetOf_cursor_insert orderly.toLined]
  rw [content_insert, List.take_left' length, List.drop_left' length] at later ⊢
  rw [insert_eq] at edited later ⊢
  rw [orderly.replaceText_replaceText (insert_moves surface _ front) edited later,
    spreadStart_comp, spreadStop_comp, insert_eq, List.length_append, Nat.add_assoc,
    List.append_assoc (surface.content.take _)]

/-- To insert nothing is to move the cursor. -/
theorem Orderly.insert_nil (orderly : surface.Orderly) (position : Position) :
    surface.insert position [] = surface.setCursor position := by
  have text : surface.content.take (surface.offsetOf position) ++ []
      ++ surface.content.drop (surface.offsetOf position) = surface.content := by
    rw [List.append_nil, List.take_append_drop]
  calc surface.insert position []
      = surface.replaceText surface.content id id (surface.offsetOf position) := by
        simp only [Surface.insert, text, List.length_nil, Nat.add_zero, ite_self]
        rfl
    _ = surface.setCursor position := by
        rw [orderly.replaceText_id, positionOf_offsetOf_eq_clamp orderly.nonempty]
        rfl

/-- Type a text: insert its characters one by one, each of them at the cursor. -/
def typed (surface : Surface) (text : Text) : Surface :=
  text.foldl (fun surface c => surface.insert surface.cursor [c]) surface

/-- What is typed behind an inserted text might as well be inserted with it. -/
theorem Orderly.typed_insert (orderly : surface.Orderly) (position : Position)
    (front back : Text) :
    (surface.insert position front).typed back = surface.insert position (front ++ back) := by
  induction back generalizing front with
  | nil => rw [List.append_nil]; rfl
  | cons c back inductionHypothesis =>
      rw [typed, List.foldl_cons, orderly.insert_insert, ← typed, inductionHypothesis,
        List.append_assoc, List.singleton_append]

/-! ### Deletions -/

theorem content_delete {start stop : Position}
    (ordered : surface.offsetOf start ≤ surface.offsetOf stop) :
    (surface.delete start stop).content =
      surface.content.take (surface.offsetOf start)
        ++ surface.content.drop (surface.offsetOf stop) := by
  rcases Nat.lt_or_eq_of_le ordered with less | same
  · rw [delete_of_lt less]
    exact Text.ofLines_lines _
  · rw [delete_of_le (Nat.le_of_eq same.symm), same, List.take_append_drop]

/-- Places up to a deletion keep their addresses. -/
theorem Orderly.offsetOf_delete (orderly : surface.Orderly) {start stop position : Position}
    (ordered : surface.offsetOf start ≤ surface.offsetOf stop) (inside : surface.Inside position)
    (before : surface.offsetOf position ≤ surface.offsetOf start) :
    (surface.delete start stop).offsetOf position = surface.offsetOf position := by
  have bounded := offsetOf_le_length orderly.nonempty start
  refine offsetOf_of_common_start orderly.toLined (orderly.delete start stop).toLined inside ?_
  rw [content_delete ordered, List.take_append_of_le_length, List.take_take,
    Nat.min_eq_left before]
  rwa [List.length_take_of_le bounded]

/-- A text is deleted in two steps, its end before its start, or at once. -/
theorem Orderly.delete_delete (orderly : surface.Orderly) {first middle last : Position}
    (firstInside : surface.Inside first) (middleInside : surface.Inside middle)
    (lower : surface.offsetOf first ≤ surface.offsetOf middle)
    (upper : surface.offsetOf middle ≤ surface.offsetOf last) :
    (surface.delete middle last).delete first middle = surface.delete first last := by
  have firstPlace := orderly.offsetOf_delete upper firstInside lower
  have middlePlace := orderly.offsetOf_delete upper middleInside (Nat.le_refl _)
  rcases Nat.lt_or_eq_of_le lower with less | same
  swap
  · -- The second step has nothing to do.
    rw [delete_of_le (by rw [firstPlace, middlePlace, same]), Surface.delete, Surface.delete, same]
  rcases Nat.lt_or_eq_of_le upper with lessUpper | sameUpper
  swap
  · -- The first step has nothing to do.
    rw [delete_of_le (Nat.le_of_eq sameUpper.symm), Surface.delete, Surface.delete, sameUpper]
  have bounded := offsetOf_le_length orderly.nonempty last
  have length : (surface.content.take (surface.offsetOf middle)).length =
      surface.offsetOf middle := List.length_take_of_le (by omega)
  have edited := orderly.delete middle last
  have later := delete_moves (surface.delete middle last) (surface.offsetOf first)
    (offsetOf_le_length edited.nonempty middle)
  rw [middlePlace] at later
  rw [delete_of_lt (by rwa [firstPlace, middlePlace]), firstPlace, middlePlace]
  rw [content_delete upper, List.drop_left' length, List.take_append_of_le_length (by omega),
    List.take_take, Nat.min_eq_left lower] at later ⊢
  rw [delete_of_lt lessUpper] at edited later ⊢
  rw [orderly.replaceText_replaceText (delete_moves surface _ bounded) edited later,
    collapse_comp lower upper, delete_of_lt (Nat.lt_trans less lessUpper)]

/-! ### What edits come to -/

/-- After any run of operations, inserting two texts one behind the other is inserting them at once,
and so is typing a text character by character; deleting a text in two steps, its end before its
start, is deleting it at once. Text, cursor, tags and stamps are the same. -/
theorem edits_compose (reachable : Reachable Anything surface) :
    (∀ position front back,
        (surface.insert position front).insert (surface.insert position front).cursor back =
          surface.insert position (front ++ back)) ∧
      (∀ position text, (surface.setCursor position).typed text = surface.insert position text) ∧
      ∀ first middle last, surface.Inside first → surface.Inside middle → surface.Inside last →
        first ≤ middle → middle ≤ last →
          (surface.delete middle last).delete first middle = surface.delete first last := by
  have orderly := Orderly.of_reachable reachable
  refine ⟨orderly.insert_insert, fun position text => ?_, ?_⟩
  · rw [← orderly.insert_nil, orderly.typed_insert, List.nil_append]
  · intro first middle last firstInside middleInside lastInside lower upper
    exact orderly.delete_delete firstInside middleInside
      ((offsetOf_le_iff orderly.toLined firstInside middleInside).mpr lower)
      ((offsetOf_le_iff orderly.toLined middleInside lastInside).mpr upper)

/-- In a range over a line end, a line is put in at once, by two insertions and by typing. The range
is deleted from its middle on and then from its start on, and is dropped. -/
theorem edits_compose_across_lines :
    let surface := (ofText "ab\ncd".toList).tagAdd "word" ⟨1, 1⟩ ⟨2, 1⟩
    let inserted := surface.insert ⟨1, 2⟩ "\nx".toList
    Reachable Anything surface ∧ (surface.insert ⟨1, 2⟩ ['\n']).insert ⟨2, 0⟩ ['x'] = inserted ∧
      (surface.setCursor ⟨1, 2⟩).typed "\nx".toList = inserted ∧
      inserted.tagRanges "word" = [⟨⟨1, 1⟩, ⟨3, 1⟩, 0⟩] ∧
      (surface.Inside ⟨1, 1⟩ ∧ surface.Inside ⟨1, 2⟩ ∧ surface.Inside ⟨2, 1⟩) ∧
      (surface.delete ⟨1, 2⟩ ⟨2, 1⟩).delete ⟨1, 1⟩ ⟨1, 2⟩ = surface.delete ⟨1, 1⟩ ⟨2, 1⟩ ∧
      (surface.delete ⟨1, 1⟩ ⟨2, 1⟩).tagRanges "word" = [] := by
  intro surface inserted
  have reachable : Reachable Anything surface :=
    .step (.tagAdd "word" ⟨1, 1⟩ ⟨2, 1⟩) (.ofText "ab\ncd".toList) trivial
  have first : surface.Inside ⟨1, 1⟩ := ⟨['a', 'b'], by decide, by decide⟩
  have middle : surface.Inside ⟨1, 2⟩ := ⟨['a', 'b'], by decide, by decide⟩
  have last : surface.Inside ⟨2, 1⟩ := ⟨['c', 'd'], by decide, by decide⟩
  obtain ⟨inserts, types, deletes⟩ := edits_compose reachable
  exact ⟨reachable, inserts ⟨1, 2⟩ ['\n'] ['x'], types ⟨1, 2⟩ "\nx".toList, by decide,
    ⟨first, middle, last⟩, deletes _ _ _ first middle last (by decide) (by decide), by decide⟩

/-- After any run of operations, a text that is inserted and then deleted again leaves all as it
was, and the cursor where the text was. -/
theorem delete_of_inserted (reachable : Reachable Anything surface) (position : Position)
    (text : Text) :
    (surface.insert position text).delete (surface.clamp position)
        (surface.insert position text).cursor =
      { surface with cursor := surface.clamp position } := by
  have orderly := Orderly.of_reachable reachable
  have startPlace := orderly.offsetOf_clamp_insert position text
  have stopPlace := offsetOf_cursor_insert orderly.toLined position text
  by_cases empty : text = []
  · subst empty
    rw [delete_of_le (by rw [startPlace, stopPlace]; exact Nat.le_refl _), orderly.insert_nil]
    rfl
  have bounded := offsetOf_le_length orderly.nonempty position
  have positive := List.length_pos_iff.mpr empty
  have frontLength : (surface.content.take (surface.offsetOf position)).length =
      surface.offsetOf position := List.length_take_of_le bounded
  have wholeLength : (surface.content.take (surface.offsetOf position) ++ text).length =
      surface.offsetOf position + text.length := by
    rw [List.length_append, frontLength]
  have restored : (surface.insert position text).content.take (surface.offsetOf position)
        ++ (surface.insert position text).content.drop (surface.offsetOf position + text.length) =
      surface.content := by
    rw [content_insert, List.drop_left' wholeLength, List.append_assoc,
      List.take_left' frontLength, List.take_append_drop]
  have edited := orderly.insert position text
  have later := delete_moves (surface.insert position text) (surface.offsetOf position)
    (offsetOf_le_length edited.nonempty (surface.insert position text).cursor)
  rw [stopPlace, restored] at later
  rw [delete_of_lt (by omega), startPlace, stopPlace, restored]
  rw [insert_eq] at edited later ⊢
  rw [orderly.replaceText_replaceText (insert_moves surface _ text) edited later,
    collapse_comp_spreadStart, collapse_comp_spreadStop, orderly.replaceText_id,
    positionOf_offsetOf_eq_clamp orderly.nonempty]

/-- Two lines are put between ranges that end there and begin there, and into a range that reaches
across. Only the last one grows, and it shrinks again. -/
theorem delete_of_inserted_between_ranges :
    let surface := (((ofText "ab\ncd".toList).tagAdd "left" ⟨1, 0⟩ ⟨1, 1⟩).tagAdd "right" ⟨1, 1⟩
      ⟨2, 2⟩).tagAdd "across" ⟨1, 0⟩ ⟨2, 1⟩
    let inserted := surface.insert ⟨1, 1⟩ "x\ny\n".toList
    Reachable Anything surface ∧ inserted.tagRanges "left" = [⟨⟨1, 0⟩, ⟨1, 1⟩, 0⟩] ∧
      inserted.tagRanges "right" = [⟨⟨3, 0⟩, ⟨4, 2⟩, 1⟩] ∧
      inserted.tagRanges "across" = [⟨⟨1, 0⟩, ⟨4, 1⟩, 2⟩] ∧
      inserted.delete ⟨1, 1⟩ ⟨3, 0⟩ = { surface with cursor := ⟨1, 1⟩ } := by
  intro surface inserted
  have reachable : Reachable Anything surface :=
    (Reachable.ofText "ab\ncd".toList).run_anything [.tagAdd "left" ⟨1, 0⟩ ⟨1, 1⟩,
      .tagAdd "right" ⟨1, 1⟩ ⟨2, 2⟩, .tagAdd "across" ⟨1, 0⟩ ⟨2, 1⟩]
  exact ⟨reachable, by decide, by decide, by decide,
    delete_of_inserted reachable ⟨1, 1⟩ "x\ny\n".toList⟩

end Highlighter.Surface
