import Highlighter.Proofs.Surface.Runs

/-!
# Tags follow the text

An edit takes out a part of the text and puts another text in its place. `Surface.Carried` says
what becomes of the marks of every character: the characters before and behind the place keep
theirs, and the new characters get those of the ranges that reach across the place. Insertions and
deletions both carry tags in this way (`Valid.carried_insert`, `Valid.carried_delete`).
-/

namespace Highlighter.Surface

open TagRange

variable {surface : Surface}

/-! ### Marks at an offset -/

/-- A range between two places of the text holds the characters from the offset of its start to
the offset of its stop. -/
theorem holds_positionOf (lined : surface.Lined) (range : TagRange)
    (startInside : surface.Inside range.start) (stopInside : surface.Inside range.stop)
    (offset : Nat) :
    range.holds (surface.positionOf offset) =
      (decide (surface.offsetOf range.start ≤ offset) &&
        decide (offset < surface.offsetOf range.stop)) := by
  have inside := inside_positionOf lined.nonempty offset
  rw [Bool.eq_iff_iff, holds_iff, Bool.and_eq_true, decide_eq_true_iff, decide_eq_true_iff,
    ← offsetOf_le_iff lined startInside inside, ← offsetOf_lt_iff lined inside stopInside]
  by_cases bounded : offset ≤ surface.content.length
  · rw [offsetOf_positionOf lined.nonempty bounded]
  · -- Behind the text nothing is held, whichever way the place is addressed.
    have stopBounded := offsetOf_le_length lined.nonempty range.stop
    rw [positionOf_of_length_le lined.nonempty (by omega), offsetOf_finish lined.nonempty]
    omega

/-- The marks of a character are found by the offsets of the ranges. -/
theorem Valid.marksAt_positionOf (valid : surface.Valid) (offset : Nat) :
    surface.marksAt (surface.positionOf offset) =
      surface.marksWhere fun range =>
        decide (surface.offsetOf range.start ≤ offset) &&
          decide (offset < surface.offsetOf range.stop) := by
  apply marksWhere_congr
  intro tag member range held
  obtain ⟨startInside, stopInside⟩ := valid.rangesInside tag member range held
  exact holds_positionOf valid.toLined range startInside stopInside offset

/-- The marks of the ranges that reach across a place: those that start before it and stop
behind it. -/
def marksAcross (surface : Surface) (place : Nat) : List (String × Nat) :=
  surface.marksWhere fun range =>
    decide (surface.offsetOf range.start < place) && decide (place < surface.offsetOf range.stop)

/-- The marks of the ranges that reach across a place are those of the ranges that hold the
character behind it and start before it. -/
theorem Valid.marksAcross_eq (valid : surface.Valid) (place : Nat) :
    surface.marksAcross place =
      ((surface.holdersAt (surface.positionOf place)).filter fun holder =>
          decide (surface.offsetOf holder.2.start < place)).map
        fun holder => (holder.1, holder.2.stamp) := by
  rw [marksAcross, marksWhere, holdersAt, List.filter_flatMap, List.map_flatMap]
  apply List.flatMap_congr
  intro tag member
  rw [Tag.marks, Tag.holders, List.filter_map, List.map_map, List.filter_filter]
  refine congrArg (List.map _) (List.filter_congr fun range held => ?_)
  obtain ⟨startInside, stopInside⟩ := valid.rangesInside tag member range held
  rw [holds_positionOf valid.toLined range startInside stopInside]
  grind

/-! ### Marks after an edit -/

variable {text : Text} {moveStart moveStop : Nat → Nat}

/-- A moved range holds the characters between its moved ends. -/
theorem marks_filterMap_movedRange {new : Surface} (newLined : new.Lined)
    (lined : surface.Lined) (moves : Moves surface new moveStart moveStop) {tag : Tag}
    (inside : ∀ range ∈ tag.ranges, surface.Inside range.start ∧ surface.Inside range.stop)
    (offset : Nat) :
    { tag with ranges := tag.ranges.filterMap (movedRange surface new moveStart moveStop) }.marks
        (·.holds (new.positionOf offset)) =
      tag.marks fun range =>
        decide (moveStart (surface.offsetOf range.start) ≤ offset) &&
          decide (offset < moveStop (surface.offsetOf range.stop)) := by
  obtain ⟨name, directive, ranges⟩ := tag
  dsimp only [Tag.marks] at inside ⊢
  induction ranges with
  | nil => rfl
  | cons range others inductionHypothesis =>
      have later := inductionHypothesis fun other held =>
        inside other (List.mem_cons_of_mem _ held)
      obtain ⟨-, stopInside⟩ := inside range List.mem_cons_self
      have bounded := moves.bounded (offsetOf_le_length lined.nonempty range.stop)
      rw [List.filterMap_cons]
      split
      next dropped =>
        have empty : moveStop (surface.offsetOf range.stop) ≤
            moveStart (surface.offsetOf range.start) := by
          simpa [movedRange] using dropped
        rw [later, List.filter_cons_of_neg]
        simpa using by omega
      next moved same =>
        obtain ⟨ordered, rfl⟩ := movedRange_eq_some_iff.mp same
        have held := holds_positionOf newLined
          ⟨new.positionOf (moveStart (surface.offsetOf range.start)),
            new.positionOf (moveStop (surface.offsetOf range.stop)), range.stamp⟩
          (inside_positionOf newLined.nonempty _) (inside_positionOf newLined.nonempty _) offset
        dsimp only at held
        rw [offsetOf_positionOf newLined.nonempty bounded,
          offsetOf_positionOf newLined.nonempty (by omega)] at held
        rw [List.filter_cons, List.filter_cons, held]
        split
        · rw [List.map_cons, List.map_cons, later]
        · exact later

/-- The marks of a character after an edit are those of the ranges whose moved ends enclose it. -/
theorem Valid.marksAt_replaceText (valid : surface.Valid)
    (moves : Moves surface (surface.withText text) moveStart moveStop) (cursor offset : Nat) :
    (surface.replaceText text moveStart moveStop cursor).marksAt
        ((surface.replaceText text moveStart moveStop cursor).positionOf offset) =
      surface.marksWhere fun range =>
        decide (moveStart (surface.offsetOf range.start) ≤ offset) &&
          decide (offset < moveStop (surface.offsetOf range.stop)) := by
  have samePlace : (surface.replaceText text moveStart moveStop cursor).positionOf offset =
      (surface.withText text).positionOf offset := rfl
  rw [samePlace, marksAt, marksWhere,
    tags_replaceText valid.toLined valid.rangesInside moves cursor, marksWhere, List.flatMap_map]
  apply List.flatMap_congr
  intro tag member
  exact marks_filterMap_movedRange (lined_withText surface text) valid.toLined moves
    (valid.rangesInside tag member) offset

/-! ### Carried tags -/

/-- From `place` on, `removed` characters have given way to the text `inserted`, and the tags have
followed the characters. -/
structure Carried (before after : Surface) (place removed : Nat) (inserted : Text) : Prop where
  bounded : place + removed ≤ before.content.length
  content : after.content =
    before.content.take place ++ inserted ++ before.content.drop (place + removed)
  /-- The cursor is left behind the new text. -/
  cursor : after.cursor = after.positionOf (place + inserted.length)
  /-- Characters before the place keep their marks. -/
  front : ∀ {offset}, offset < place →
    after.marksAt (after.positionOf offset) = before.marksAt (before.positionOf offset)
  /-- New characters get the marks of the ranges that reach across the place. -/
  middle : ∀ {offset}, place ≤ offset → offset < place + inserted.length →
    after.marksAt (after.positionOf offset) = before.marksAcross place
  /-- Characters behind the place are shifted and keep their marks. -/
  back : ∀ {offset}, place + removed ≤ offset →
    after.marksAt (after.positionOf (offset - removed + inserted.length)) =
      before.marksAt (before.positionOf offset)
  names : after.tags.map (fun tag => (tag.name, tag.directive)) =
    before.tags.map fun tag => (tag.name, tag.directive)
  mutations : after.mutations = before.mutations
  nextStamp : after.nextStamp = before.nextStamp

section

variable {before after : Surface} {place removed : Nat} {inserted : Text}

/-- An edit changes the length of the text by what it takes out and puts in. -/
theorem Carried.length_content (carried : Carried before after place removed inserted) :
    after.content.length + removed = before.content.length + inserted.length := by
  have bounded := carried.bounded
  simp only [carried.content, List.length_append, List.length_take, List.length_drop]
  omega

/-- The marks of a character after an edit, by where it stands. -/
theorem Carried.marksAt_positionOf (carried : Carried before after place removed inserted)
    (index : Nat) :
    after.marksAt (after.positionOf index) =
      if index < place then before.marksAt (before.positionOf index)
      else if index < place + inserted.length then before.marksAcross place
      else before.marksAt (before.positionOf (index - inserted.length + removed)) := by
  split
  next front => exact carried.front front
  next =>
    split
    next middle => exact carried.middle (by omega) middle
    next =>
      have behind : place + removed ≤ index - inserted.length + removed := by omega
      have back := carried.back behind
      rwa [Nat.add_sub_cancel, Nat.sub_add_cancel (by omega)] at back

/-- The cursor stands behind the new text. -/
theorem Carried.offsetOf_cursor (carried : Carried before after place removed inserted)
    (nonempty : after.lines ≠ []) : after.offsetOf after.cursor = place + inserted.length := by
  have bounded := carried.bounded
  have length := carried.length_content
  rw [carried.cursor, offsetOf_positionOf nonempty (by omega)]

end

/-- An edit leaves the names and the directives of tags as they are. -/
theorem map_names_replaceText (surface : Surface) (text : Text) (moveStart moveStop : Nat → Nat)
    (cursor : Nat) :
    (surface.replaceText text moveStart moveStop cursor).tags.map
        (fun tag => (tag.name, tag.directive)) =
      surface.tags.map fun tag => (tag.name, tag.directive) := by
  simp [replaceText, Function.comp_def]

/-- Inserting a text carries the tags along. -/
theorem Valid.carried_insert (valid : surface.Valid) (position : Position) (text : Text) :
    Carried surface (surface.insert position text) (surface.offsetOf position) 0 text := by
  have moves := insert_moves surface (surface.offsetOf position) text
  have marks := valid.marksAt_replaceText moves (surface.offsetOf position + text.length)
  refine {
    bounded := offsetOf_le_length valid.nonempty position
    content := Text.ofLines_lines _
    cursor := rfl
    front := ?_
    middle := ?_
    back := ?_
    names := map_names_replaceText ..
    mutations := rfl
    nextStamp := rfl }
  · intro offset before
    rw [valid.marksAt_positionOf]
    refine (marks offset).trans (marksWhere_congr fun tag _ range _ => ?_)
    grind [spreadStart, spreadStop]
  · intro offset lower upper
    refine (marks offset).trans (marksWhere_congr fun tag _ range _ => ?_)
    grind [spreadStart, spreadStop]
  · intro offset behind
    rw [valid.marksAt_positionOf]
    refine (marks _).trans (marksWhere_congr fun tag _ range _ => ?_)
    grind [spreadStart, spreadStop]

/-- Deleting the text between two places carries the tags along. -/
theorem Valid.carried_delete (valid : surface.Valid) {start stop : Position}
    (ordered : surface.offsetOf start < surface.offsetOf stop) :
    Carried surface (surface.delete start stop) (surface.offsetOf start)
      (surface.offsetOf stop - surface.offsetOf start) [] := by
  have bounded := offsetOf_le_length valid.nonempty stop
  have moves := delete_moves surface (surface.offsetOf start) bounded
  have marks := valid.marksAt_replaceText moves (surface.offsetOf start)
  rw [delete_of_lt ordered]
  refine {
    bounded := by omega
    content := ?_
    cursor := rfl
    front := ?_
    middle := ?_
    back := ?_
    names := map_names_replaceText ..
    mutations := rfl
    nextStamp := rfl }
  · rw [Nat.add_sub_cancel' (Nat.le_of_lt ordered), List.append_nil]
    exact Text.ofLines_lines _
  · intro offset before
    rw [valid.marksAt_positionOf]
    refine (marks offset).trans (marksWhere_congr fun tag _ range _ => ?_)
    grind [collapse]
  · intro offset lower upper
    exact absurd upper (Nat.not_lt.mpr lower)
  · intro offset behind
    rw [valid.marksAt_positionOf]
    refine (marks _).trans (marksWhere_congr fun tag _ range _ => ?_)
    grind [collapse]

/-- On every surface that ordered operations lead to, insertions and deletions carry the tags of
all characters along. -/
theorem edits_carry_tags (reachable : Reachable Ordered surface) :
    (∀ position text,
        Carried surface (surface.insert position text) (surface.offsetOf position) 0 text) ∧
      ∀ start stop, surface.offsetOf start < surface.offsetOf stop →
        Carried surface (surface.delete start stop) (surface.offsetOf start)
          (surface.offsetOf stop - surface.offsetOf start) [] := by
  have valid := Valid.of_reachable reachable
  exact ⟨valid.carried_insert, fun _ _ ordered => valid.carried_delete ordered⟩

/-- A tag reaches over a line end. A line that is put inside it is tagged as well, and when the
first line is deleted the rest of the range keeps its stamp. -/
theorem edits_carry_tags_across_lines :
    let surface := (ofText ['a', 'b', '\n', 'c', 'd']).tagAdd "word" ⟨1, 1⟩ ⟨2, 1⟩
    Carried surface (surface.insert ⟨1, 2⟩ ['\n', 'x']) 2 0 ['\n', 'x'] ∧
      surface.marksAcross 2 = [("word", 0)] ∧
      Carried surface (surface.delete ⟨1, 0⟩ ⟨2, 0⟩) 0 3 [] ∧
      (surface.delete ⟨1, 0⟩ ⟨2, 0⟩).marksAt .start = [("word", 0)] :=
  have carried := edits_carry_tags (.step (.tagAdd "word" ⟨1, 1⟩ ⟨2, 1⟩)
    (.ofText ['a', 'b', '\n', 'c', 'd']) trivial)
  ⟨carried.1 ⟨1, 2⟩ ['\n', 'x'], by decide, carried.2 ⟨1, 0⟩ ⟨2, 0⟩ (by decide), by decide⟩

end Highlighter.Surface
