import Highlighter.Proofs.Surface.Pointwise

/-!
# Parts that hold nothing

The part between two positions is empty when the second one does not lie behind the first one in
the text. There is no text in it, deleting it changes nothing, and a tag that is added to it gets no
range. A tag that is removed from it covers what it covered, but its ranges change where one of
them reaches over the part (`empty_parts_change_nothing_iff`): the range is split into two pieces,
which overlap if the part is reversed (`empty_parts_split_ranges`). The pass after an edit removes
all tags from such a part when its window is a blank line.
-/

namespace Highlighter

open TagRange

/-- A cut leaves ascending ranges as they are exactly when none of them reaches over it. -/
theorem Tag.cutRanges_eq_self_iff {ranges : List TagRange} (ascending : Ascending ranges)
    (start stop : Position) :
    cutRanges start stop ranges = ranges ↔
      ∀ range ∈ ranges, range.stop ≤ start ∨ stop ≤ range.start := by
  constructor
  · intro same range member
    rw [← same] at member
    exact outside_of_mem_cutRanges ascending member
  · exact cutRanges_of_untouched ascending

namespace Surface

variable {surface : Surface} {start stop : Position}

/-- An empty part has no character. -/
theorem offsetOf_le_of_clamp_le (lined : surface.Lined)
    (empty : surface.clamp stop ≤ surface.clamp start) :
    surface.offsetOf stop ≤ surface.offsetOf start := by
  rw [← offsetOf_clamp lined.nonempty stop, ← offsetOf_clamp lined.nonempty start]
  exact (offsetOf_le_iff lined (inside_clamp lined.nonempty stop)
    (inside_clamp lined.nonempty start)).mpr empty

/-- No position lies in an empty part. -/
theorem not_within_of_clamp_le (empty : surface.clamp stop ≤ surface.clamp start)
    (position : Position) : ¬surface.Within start stop position := fun within =>
  Std.not_lt.mpr empty (Std.lt_of_le_of_lt within.1 within.2)

/-- A removal from an empty part uncovers nothing of any tag. -/
theorem mem_tagsAt_tagRemove_of_clamp_le (reachable : Reachable Anything surface)
    (empty : surface.clamp stop ≤ surface.clamp start) (name other : String)
    (position : Position) :
    other ∈ (surface.tagRemove name start stop).tagsAt position ↔
      other ∈ surface.tagsAt position := by
  by_cases same : other = name
  · rw [same, mem_tagsAt_tagRemove_iff reachable,
      and_iff_left (not_within_of_clamp_le empty position)]
  · have removed : Reachable Anything (surface.tagRemove name start stop) :=
      .step (.tagRemove name start stop) reachable trivial
    rw [mem_tagsAt_iff removed, mem_tagsAt_iff reachable, tagRanges_tagRemove, if_neg same]

/-- After every run of operations, an empty part has no text, deleting it leaves the surface as it
is, adding a tag to it changes the ranges of no tag, and removing a tag from it uncovers no
position. The removal changes the ranges of no tag exactly when no range of the tag reaches over the
part, from before its end to behind its start. -/
theorem empty_parts_change_nothing_iff (reachable : Reachable Anything surface)
    (empty : surface.clamp stop ≤ surface.clamp start) :
    surface.text start stop = [] ∧
      surface.delete start stop = surface ∧
      ∀ name,
        (∀ other, (surface.tagAdd name start stop).tagRanges other = surface.tagRanges other) ∧
        (∀ other position, other ∈ (surface.tagRemove name start stop).tagsAt position ↔
          other ∈ surface.tagsAt position) ∧
        ((∀ other,
            (surface.tagRemove name start stop).tagRanges other = surface.tagRanges other) ↔
          ∀ range ∈ surface.tagRanges name,
            ¬(range.start < surface.clamp stop ∧ surface.clamp start < range.stop)) := by
  have orderly := Orderly.of_reachable reachable
  have noCharacter := offsetOf_le_of_clamp_le orderly.toLined empty
  refine ⟨?text, delete_of_le noCharacter, fun name => ⟨?added, ?covered, ?removed⟩⟩
  case text => rw [text_eq, Nat.sub_eq_zero_of_le noCharacter, List.take_zero]
  case added =>
    intro other
    rw [tagRanges_tagAdd, if_neg fun both => Std.not_lt.mpr empty both.2]
  case covered => exact mem_tagsAt_tagRemove_of_clamp_le reachable empty name
  case removed =>
    have ascending := orderly.ascending_tagRanges name
    have kept := Tag.cutRanges_eq_self_iff ascending (surface.clamp start) (surface.clamp stop)
    simp only [not_and_or, Std.not_lt, or_comm, ← kept, tagRanges_tagRemove]
    constructor
    · intro unchanged
      simpa using unchanged name
    · intro unchanged other
      split
      next same => rw [same, unchanged]
      next => rfl

/-- The empty part of a blank line: a removal from it changes nothing for the tag of the first word,
and splits the range of the tag that reaches over the blank line. -/
theorem empty_parts_change_nothing_of_blank_line :
    let surface := ((ofText "ab\n\ncd".toList).tagAdd "Word" ⟨1, 0⟩ ⟨1, 2⟩).tagAdd "Block" ⟨1, 0⟩
      ⟨3, 2⟩
    Reachable Anything surface ∧ surface.clamp ⟨2, 0⟩ ≤ surface.clamp ⟨2, 5⟩ ∧
      surface.text ⟨2, 5⟩ ⟨2, 0⟩ = [] ∧ surface.delete ⟨2, 5⟩ ⟨2, 0⟩ = surface ∧
      (surface.tagAdd "Word" ⟨2, 5⟩ ⟨2, 0⟩).tagRanges "Word" = [⟨⟨1, 0⟩, ⟨1, 2⟩, 0⟩] ∧
      (surface.tagRemove "Word" ⟨2, 5⟩ ⟨2, 0⟩).tagRanges "Word" = [⟨⟨1, 0⟩, ⟨1, 2⟩, 0⟩] ∧
      ¬∀ other, (surface.tagRemove "Block" ⟨2, 5⟩ ⟨2, 0⟩).tagRanges other =
        surface.tagRanges other := by
  intro surface
  have reachable : Reachable Anything surface :=
    .step (.tagAdd "Block" ⟨1, 0⟩ ⟨3, 2⟩) (.step (.tagAdd "Word" ⟨1, 0⟩ ⟨1, 2⟩) (.ofText _) trivial)
      trivial
  have empty : surface.clamp ⟨2, 0⟩ ≤ surface.clamp ⟨2, 5⟩ := by decide
  obtain ⟨noText, deleted, tagged⟩ := empty_parts_change_nothing_iff reachable empty
  obtain ⟨added, -, word⟩ := tagged "Word"
  obtain ⟨-, -, block⟩ := tagged "Block"
  refine ⟨reachable, empty, noText, deleted, (added "Word").trans (by decide),
    (word.mpr (by decide) "Word").trans (by decide), ?_⟩
  exact fun unchanged => absurd (block.mp unchanged) (by decide)

/-- A range that reaches over an empty part is split by a removal from it, and if the part is
reversed, the pieces overlap. -/
theorem empty_parts_split_ranges :
    let surface := (ofText "abcd".toList).tagAdd "Word" ⟨1, 0⟩ ⟨1, 4⟩
    Reachable Anything surface ∧ surface.tagRanges "Word" = [⟨⟨1, 0⟩, ⟨1, 4⟩, 0⟩] ∧
      surface.clamp ⟨1, 2⟩ ≤ surface.clamp ⟨1, 2⟩ ∧
      (surface.tagRemove "Word" ⟨1, 2⟩ ⟨1, 2⟩).tagRanges "Word" =
        [⟨⟨1, 0⟩, ⟨1, 2⟩, 0⟩, ⟨⟨1, 2⟩, ⟨1, 4⟩, 0⟩] ∧
      surface.clamp ⟨1, 1⟩ ≤ surface.clamp ⟨1, 3⟩ ∧
      (surface.tagRemove "Word" ⟨1, 3⟩ ⟨1, 1⟩).tagRanges "Word" =
        [⟨⟨1, 0⟩, ⟨1, 3⟩, 0⟩, ⟨⟨1, 1⟩, ⟨1, 4⟩, 0⟩] :=
  ⟨.step (.tagAdd "Word" ⟨1, 0⟩ ⟨1, 4⟩) (.ofText _) trivial, by decide⟩

end Surface

end Highlighter
