import Highlighter.Proofs.Surface.Overlapping

/-!
# Tags as sets of positions

A tag covers a set of positions, and the tag operations are operations on this set: an addition is
the union with a range, a removal is the difference. `Tag.any_holds_addRange_iff` and
`Tag.any_holds_cutRanges_iff` say so of ranges that ascend, also of overlapping ones and of places
in either order, and `tagging_is_pointwise` of every surface that a run of operations leads to.
Which stamp a position has is decided only where ranges do not overlap.

A query looks for one range by halving the list. `bisect_eq` says what halving finds in a list that
is not sorted by the test but has all elements that pass it in front, and
`Tag.coversByHalving_eq_any` that this one range decides for all of them.
-/

namespace Highlighter

/-! ### Halving a list -/

section Bisection

variable {α : Type} {test : α → Bool} {list : List α}

/-- The number of elements in front of a list that pass a test, searched between two bounds by
testing the element in the middle. -/
def bisectBetween (test : α → Bool) (list : List α) (low high : Nat) : Nat :=
  if low < high then
    let middle := (low + high) / 2
    if (list[middle]?).any test then bisectBetween test list (middle + 1) high
    else bisectBetween test list low middle
  else low
termination_by high - low

/-- The number of elements in front of a list that pass a test, searched by halving. -/
def bisect (test : α → Bool) (list : List α) : Nat :=
  bisectBetween test list 0 list.length

/-- Where no element passes behind one that fails, those that pass are told by their index. -/
theorem any_getElem?_of_front
    (front : list.Pairwise fun left right => test right = true → test left = true) (index : Nat) :
    (list[index]?).any test = decide (index < (list.takeWhile test).length) := by
  induction list generalizing index with
  | nil => simp
  | cons first others inductionHypothesis =>
      obtain ⟨before, later⟩ := List.pairwise_cons.mp front
      by_cases passes : test first = true
      · cases index with
        | zero => simp [passes]
        | succ index => simp [passes, inductionHypothesis later]
      · have fail : ∀ element ∈ first :: others, ¬test element = true := by
          intro element member
          rcases List.mem_cons.mp member with rfl | behind
          exacts [passes, mt (before element behind) passes]
        rw [List.takeWhile_cons_of_neg passes]
        cases found : (first :: others)[index]? with
        | none => rfl
        | some element => simpa using fail element (List.mem_of_getElem? found)

theorem bisectBetween_eq
    (front : list.Pairwise fun left right => test right = true → test left = true)
    {low high : Nat} (lower : low ≤ (list.takeWhile test).length)
    (upper : (list.takeWhile test).length ≤ high) :
    bisectBetween test list low high = (list.takeWhile test).length := by
  fun_induction bisectBetween test list low high with
  | case1 low high open_ middle passes inductionHypothesis =>
      rw [any_getElem?_of_front front, decide_eq_true_eq] at passes
      exact inductionHypothesis passes upper
  | case2 low high open_ middle fails inductionHypothesis =>
      rw [any_getElem?_of_front front, decide_eq_true_eq] at fails
      exact inductionHypothesis lower (Nat.not_lt.mp fails)
  | case3 low high closed => omega

/-- Halving finds the elements in front where no element passes behind one that fails. -/
theorem bisect_eq
    (front : list.Pairwise fun left right => test right = true → test left = true) :
    bisect test list = (list.takeWhile test).length :=
  bisectBetween_eq front (Nat.zero_le _) (List.takeWhile_prefix _).length_le

end Bisection

namespace Tag

open TagRange

variable {start stop : Position} {range : TagRange} {ranges : List TagRange}

/-- What a cut leaves of the ranges that it touches holds the positions outside of the cut that
one of these ranges held: before the cut those of the first range, behind it those of the last. -/
theorem Dissection.any_holds_iff {before touched behind : List TagRange}
    (parts : Dissection start stop before touched behind) (ascending : Ascending touched)
    (nonempty : touched ≠ []) (position : Position) :
    ((touched.head nonempty).partBefore start ++
        (touched.getLast nonempty).partBehind stop).any (·.holds position) = true ↔
      touched.any (·.holds position) = true ∧ ¬(start ≤ position ∧ position < stop) := by
  have firstMember := List.head_mem nonempty
  have lastMember := List.getLast_mem nonempty
  have isLast := List.getLast?_eq_some_getLast nonempty
  rw [List.any_eq_true, List.any_eq_true]
  constructor
  · rintro ⟨piece, member, held⟩
    rw [holds_iff] at held
    rcases List.mem_append.mp member with front | back
    · obtain ⟨-, rfl⟩ := mem_partBefore_iff.mp front
      have touches := parts.touches _ firstMember
      refine ⟨⟨_, firstMember, holds_iff.mpr ⟨held.1, ?_⟩⟩, ?_⟩ <;> grind
    · obtain ⟨-, rfl⟩ := mem_partBehind_iff.mp back
      have touches := parts.touches _ lastMember
      refine ⟨⟨_, lastMember, holds_iff.mpr ⟨?_, held.2⟩⟩, ?_⟩ <;> grind
  · rintro ⟨⟨range, member, held⟩, outside⟩
    rw [holds_iff] at held
    by_cases early : position < start
    · have first : (touched.head nonempty).start ≤ position := by
        obtain ⟨head, others, rfl⟩ := List.exists_cons_of_ne_nil nonempty
        exact Std.le_trans (ascending.head_precedes member).1 held.1
      have reaches := Std.lt_of_le_of_lt first early
      exact ⟨_, List.mem_append_left _ (mem_partBefore_iff.mpr ⟨reaches, rfl⟩),
        holds_iff.mpr ⟨first, early⟩⟩
    · have last : position < (touched.getLast nonempty).stop :=
        Std.lt_of_lt_of_le held.2 (ascending.precedes_getLast isLast member).2
      have late : stop ≤ position := by grind
      have reaches := Std.lt_of_le_of_lt late last
      exact ⟨_, List.mem_append_right _ (mem_partBehind_iff.mpr ⟨reaches, rfl⟩),
        holds_iff.mpr ⟨late, last⟩⟩

/-- After a cut the ranges hold what they held outside of it. -/
theorem any_holds_cutRanges_iff (ascending : Ascending ranges) (start stop position : Position) :
    (cutRanges start stop ranges).any (·.holds position) = true ↔
      ranges.any (·.holds position) = true ∧ ¬(start ≤ position ∧ position < stop) := by
  have outside {others : List TagRange}
      (free : ∀ range ∈ others, range.stop ≤ start ∨ stop ≤ range.start)
      (held : others.any (·.holds position) = true) : ¬(start ≤ position ∧ position < stop) := by
    obtain ⟨range, member, holds⟩ := List.any_eq_true.mp held
    have apart := free range member
    rw [holds_iff] at holds
    grind
  rcases untouched_or_exists_dissection ascending start stop with untouched |
    ⟨before, touched, behind, rfl, nonempty, parts⟩
  · rw [cutRanges_of_untouched ascending untouched, iff_self_and]
    exact outside untouched
  · have touchedAscending := (Ascending.append_iff.mp (Ascending.append_iff.mp ascending).2.1).1
    have inTouched := parts.any_holds_iff touchedAscending nonempty position
    have inBefore := outside fun range member => .inl (parts.endsBefore range member).1
    have inBehind := outside fun range member => .inr (parts.startsBehind range member)
    have split (middle : List TagRange) :
        (before ++ (middle ++ behind)).any (·.holds position) = true ↔
          before.any (·.holds position) = true ∨ middle.any (·.holds position) = true ∨
            behind.any (·.holds position) = true := by
      simp only [List.any_append, Bool.or_eq_true]
    rw [parts.cutRanges_eq nonempty, ← List.append_assoc (partBefore _ _), split, split, inTouched,
      or_and_right, or_and_right, and_iff_left_of_imp inBefore, and_iff_left_of_imp inBehind]

/-- After an addition the ranges hold what they held and what the new range holds. -/
theorem any_holds_addRange_iff (ascending : Ascending ranges) (position : Position) :
    (addRange range ranges).any (·.holds position) = true ↔
      ranges.any (·.holds position) = true ∨ range.holds position = true := by
  have left := any_holds_cutRanges_iff ascending range.start range.stop position
  rw [← holds_iff] at left
  simp only [List.any_eq_true] at left ⊢
  simp only [mem_addRange_of_ascending ascending, or_and_right, exists_or, exists_eq_left, left]
  by_cases held : range.holds position = true <;> simp [held]

/-! ### Coverage -/

/-- Whether the tag covers the character at a position, where the one range to look at is found by
halving. -/
def coversByHalving (tag : Tag) (position : Position) : Bool :=
  (tag.ranges[bisect (·.stop ≤ position) tag.ranges]?).any (·.start ≤ position)

/-- The range that halving finds decides whether any range of the tag holds a position. -/
theorem coversByHalving_eq_any {tag : Tag} (ascending : Ascending tag.ranges)
    (position : Position) :
    tag.coversByHalving position = tag.ranges.any (·.holds position) := by
  rw [← covers_eq_any_of_ascending ascending, coversByHalving,
    bisect_eq (ascending.stops_front position), covers, rangesAfter, ← drop_length_takeWhile,
    List.head?_drop]

end Tag

namespace Surface

open TagRange

variable {surface : Surface}

/-- An addition changes the ranges of its tag, unless nothing lies between its places. -/
theorem tagRanges_tagAdd (surface : Surface) (name : String) (start stop : Position)
    (other : String) :
    (surface.tagAdd name start stop).tagRanges other =
      if other = name ∧ surface.clamp start < surface.clamp stop then
        Tag.addRange ⟨surface.clamp start, surface.clamp stop, surface.nextStamp⟩
          (surface.tagRanges other)
      else surface.tagRanges other := by
  have keeps (tag : Tag) : (if surface.clamp start < surface.clamp stop then
      tag.add ⟨surface.clamp start, surface.clamp stop, surface.nextStamp⟩ else tag).name =
        tag.name := by
    split <;> rfl
  rw [tagRanges, tag?, tagAdd]
  dsimp only
  rw [find?_updateTag keeps, tagRanges, tag?]
  by_cases same : other = name
  · subst same
    by_cases ordered : surface.clamp start < surface.clamp stop
    · cases surface.tags.find? (·.name == other) <;> simp [ordered, Tag.add]
    · cases surface.tags.find? (·.name == other) <;> simp [ordered]
  · simp [same]

/-- A removal cuts its part out of the ranges of its tag. -/
theorem tagRanges_tagRemove (surface : Surface) (name : String) (start stop : Position)
    (other : String) :
    (surface.tagRemove name start stop).tagRanges other =
      if other = name then
        Tag.cutRanges (surface.clamp start) (surface.clamp stop) (surface.tagRanges other)
      else surface.tagRanges other := by
  rw [tagRanges, tag?, tagRemove, List.find?_map, tagRanges, tag?]
  simp only [Function.comp_def, name_ite_cut]
  cases found : surface.tags.find? (·.name == other) with
  | none =>
    split <;> rfl
  | some tag =>
      have named : tag.name = other := by simpa using List.find?_some found
      simp only [Option.map_some, Option.getD_some, named, apply_ite Tag.ranges]
      rfl

/-- Where names are distinct, the look-up finds the tag with a name. -/
theorem tag?_eq_some_iff (distinct : (surface.tags.map (·.name)).Nodup) {name : String}
    {tag : Tag} : surface.tag? name = some tag ↔ tag ∈ surface.tags ∧ tag.name = name := by
  constructor
  · intro found
    exact ⟨List.mem_of_find?_eq_some found, by simpa using List.find?_some found⟩
  · rintro ⟨member, named⟩
    obtain ⟨found, same⟩ := Option.isSome_iff_exists.mp
      (List.find?_isSome (p := (·.name == name)).mpr ⟨tag, member, by simpa using named⟩)
    have foundNamed : found.name = name := by simpa using List.find?_some same
    rw [tag?, same, List.inj_on_of_nodup_map distinct (List.mem_of_find?_eq_some same) member
      (foundNamed.trans named.symm)]

/-- The ranges that are listed under a name ascend. -/
theorem Orderly.ascending_tagRanges (orderly : surface.Orderly) (name : String) :
    Ascending (surface.tagRanges name) := by
  rw [tagRanges, tag?]
  cases found : surface.tags.find? (·.name == name) with
  | none => exact .nil
  | some tag => exact (orderly.placed tag (List.mem_of_find?_eq_some found)).ascending

/-- The query for the tags at a position names a tag when one of its ranges holds the position. -/
theorem mem_tagsAt_iff (reachable : Reachable Anything surface) {name : String}
    {position : Position} :
    name ∈ surface.tagsAt position ↔
      (surface.tagRanges name).any (·.holds position) = true := by
  have orderly := Orderly.of_reachable reachable
  have distinct := nodup_names_of_reachable reachable
  rw [tagsAt, List.mem_map, tagRanges]
  constructor
  · rintro ⟨tag, member, named⟩
    obtain ⟨held, covers⟩ := List.mem_filter.mp member
    rw [Tag.covers_eq_any_of_ascending (orderly.placed tag held).ascending] at covers
    rwa [(tag?_eq_some_iff distinct).mpr ⟨held, named⟩]
  · intro covers
    cases found : surface.tag? name with
    | none => simp [found] at covers
    | some tag =>
        obtain ⟨held, named⟩ := (tag?_eq_some_iff distinct).mp found
        rw [found, Option.map_some, Option.getD_some,
          ← Tag.covers_eq_any_of_ascending (orderly.placed tag held).ascending] at covers
        exact ⟨tag, List.mem_filter.mpr ⟨held, covers⟩, named⟩

/-! ### Both operations -/

/-- A position lies between the places of the text that are nearest to two positions: not before
the first one, and before the second one. -/
def Within (surface : Surface) (start stop position : Position) : Prop :=
  surface.clamp start ≤ position ∧ position < surface.clamp stop

instance (surface : Surface) (start stop position : Position) :
    Decidable (surface.Within start stop position) :=
  inferInstanceAs (Decidable (_ ∧ _))

/-- The stamps of the ranges of a tag that hold a position. -/
def stampsAt (surface : Surface) (name : String) (position : Position) : List Nat :=
  ((surface.tagRanges name).filter (·.holds position)).map (·.stamp)

/-- An addition covers its part and uncovers nothing. -/
theorem mem_tagsAt_tagAdd_iff (reachable : Reachable Anything surface) (name : String)
    (start stop position : Position) :
    name ∈ (surface.tagAdd name start stop).tagsAt position ↔
      name ∈ surface.tagsAt position ∨ surface.Within start stop position := by
  have added : Reachable Anything (surface.tagAdd name start stop) :=
    .step (.tagAdd name start stop) reachable trivial
  have ascending := (Orderly.of_reachable reachable).ascending_tagRanges name
  rw [mem_tagsAt_iff added, mem_tagsAt_iff reachable, tagRanges_tagAdd, Within]
  split
  next => rw [Tag.any_holds_addRange_iff ascending, holds_iff]
  next missing =>
    have nothing : ¬(surface.clamp start ≤ position ∧ position < surface.clamp stop) :=
      fun ⟨lower, upper⟩ => missing ⟨rfl, Std.lt_of_le_of_lt lower upper⟩
    rw [or_iff_left nothing]

/-- A removal uncovers its part and nothing else, also where its places are reversed. -/
theorem mem_tagsAt_tagRemove_iff (reachable : Reachable Anything surface) (name : String)
    (start stop position : Position) :
    name ∈ (surface.tagRemove name start stop).tagsAt position ↔
      name ∈ surface.tagsAt position ∧ ¬surface.Within start stop position := by
  have removed : Reachable Anything (surface.tagRemove name start stop) :=
    .step (.tagRemove name start stop) reachable trivial
  have ascending := (Orderly.of_reachable reachable).ascending_tagRanges name
  rw [mem_tagsAt_iff removed, mem_tagsAt_iff reachable, tagRanges_tagRemove, if_pos rfl,
    Tag.any_holds_cutRanges_iff ascending, Within]

/-- Where the ranges of a tag do not overlap, the positions of an added part have the stamp of the
addition, and the others keep theirs. -/
theorem stampsAt_tagAdd (orderly : surface.Orderly) {name : String}
    (apart : (surface.tagRanges name).Pairwise Apart) (start stop position : Position) :
    (surface.tagAdd name start stop).stampsAt name position =
      if surface.Within start stop position then [surface.nextStamp]
      else surface.stampsAt name position := by
  have separated := (orderly.ascending_tagRanges name).separated apart
  rw [stampsAt, stampsAt, tagRanges_tagAdd]
  split
  next ordered =>
    rw [Tag.stamps_addRange separated ordered.2]
    exact if_congr holds_iff rfl rfl
  next missing =>
    have nothing : ¬surface.Within start stop position := fun within =>
      missing ⟨rfl, Std.lt_of_le_of_lt within.1 within.2⟩
    rw [if_neg nothing]

/-- Where the ranges of a tag do not overlap, the positions outside of a removed part keep their
stamps, unless the part is reversed. -/
theorem stampsAt_tagRemove (orderly : surface.Orderly) {name : String}
    (apart : (surface.tagRanges name).Pairwise Apart) {start stop : Position}
    (ordered : surface.clamp start ≤ surface.clamp stop) (position : Position) :
    (surface.tagRemove name start stop).stampsAt name position =
      if surface.Within start stop position then [] else surface.stampsAt name position := by
  have separated := (orderly.ascending_tagRanges name).separated apart
  rw [stampsAt, stampsAt, tagRanges_tagRemove, if_pos rfl, Tag.stamps_cutRanges separated ordered]
  rfl

/-- After every run of operations, also one that removes tags from reversed ranges, adding a tag to
a part of the text is the union with the part and removing it is the difference, position by
position, and the ranges of the other tags stay as they are. If the ranges of the tag do not
overlap, the positions of an added part have the stamp of the addition, and every other position
keeps its stamp, also when a part is removed that is not reversed. What a tag covers is what any of
its ranges holds, although the query looks at a single range, which it finds by halving. -/
theorem tagging_is_pointwise (reachable : Reachable Anything surface) (name : String)
    (start stop position : Position) :
    (name ∈ (surface.tagAdd name start stop).tagsAt position ↔
      name ∈ surface.tagsAt position ∨ surface.Within start stop position) ∧
    (name ∈ (surface.tagRemove name start stop).tagsAt position ↔
      name ∈ surface.tagsAt position ∧ ¬surface.Within start stop position) ∧
    (∀ other, other ≠ name →
      (surface.tagAdd name start stop).tagRanges other = surface.tagRanges other ∧
        (surface.tagRemove name start stop).tagRanges other = surface.tagRanges other) ∧
    ((surface.tagRanges name).Pairwise Apart →
      (surface.tagAdd name start stop).stampsAt name position =
          (if surface.Within start stop position then [surface.nextStamp]
            else surface.stampsAt name position) ∧
        (surface.clamp start ≤ surface.clamp stop →
          (surface.tagRemove name start stop).stampsAt name position =
            if surface.Within start stop position then []
            else surface.stampsAt name position)) ∧
    ∀ tag ∈ surface.tags, tag.covers position = tag.ranges.any (·.holds position) ∧
      tag.coversByHalving position = tag.ranges.any (·.holds position) := by
  have orderly := Orderly.of_reachable reachable
  refine ⟨mem_tagsAt_tagAdd_iff reachable name start stop position,
    mem_tagsAt_tagRemove_iff reachable name start stop position, ?others, ?stamps, ?lookUp⟩
  case others =>
    intro other different
    rw [tagRanges_tagAdd, tagRanges_tagRemove, if_neg (fun both => different both.1),
      if_neg different]
    exact ⟨rfl, rfl⟩
  case stamps =>
    intro apart
    exact ⟨stampsAt_tagAdd orderly apart start stop position, fun ordered =>
      stampsAt_tagRemove orderly apart ordered position⟩
  case lookUp =>
    intro tag member
    have ascending := (orderly.placed tag member).ascending
    exact ⟨Tag.covers_eq_any_of_ascending ascending position,
      Tag.coversByHalving_eq_any ascending position⟩

/-- One tag has overlapping ranges since it was removed from a reversed range: another removal
uncovers the positions that both of them hold, and a reversed one uncovers nothing. The other tag
has one range, and an addition up to the end of the text takes its end over. -/
theorem tagging_is_pointwise_of_overlapping :
    let tagged := ((ofText "abcdef\ngh".toList).tagAdd "Wide" ⟨1, 0⟩ ⟨2, 2⟩).tagRemove "Wide"
      ⟨1, 4⟩ ⟨1, 2⟩
    let surface := tagged.tagAdd "Small" ⟨1, 1⟩ ⟨1, 5⟩
    Reachable Anything surface ∧
      surface.tagRanges "Wide" = [⟨⟨1, 0⟩, ⟨1, 4⟩, 0⟩, ⟨⟨1, 2⟩, ⟨2, 2⟩, 0⟩] ∧
      "Wide" ∉ (surface.tagRemove "Wide" ⟨1, 1⟩ ⟨1, 3⟩).tagsAt ⟨1, 2⟩ ∧
      "Wide" ∈ (surface.tagRemove "Wide" ⟨1, 3⟩ ⟨1, 1⟩).tagsAt ⟨1, 2⟩ ∧
      (surface.tagRanges "Small").Pairwise Apart ∧
      (surface.tagAdd "Small" ⟨1, 3⟩ ⟨9, 9⟩).stampsAt "Small" ⟨1, 4⟩ = [2] ∧
      (surface.tagRemove "Small" ⟨1, 3⟩ ⟨9, 9⟩).stampsAt "Small" ⟨1, 2⟩ = [1] := by
  intro tagged surface
  have reachable : Reachable Anything surface :=
    .step (.tagAdd "Small" ⟨1, 1⟩ ⟨1, 5⟩) (.step (.tagRemove "Wide" ⟨1, 4⟩ ⟨1, 2⟩)
      (.step (.tagAdd "Wide" ⟨1, 0⟩ ⟨2, 2⟩) (.ofText _) trivial) trivial) trivial
  have apart : (surface.tagRanges "Small").Pairwise Apart := by decide
  have ordered : surface.clamp ⟨1, 3⟩ ≤ surface.clamp ⟨9, 9⟩ := by decide
  obtain ⟨-, removed, -⟩ := tagging_is_pointwise reachable "Wide" ⟨1, 1⟩ ⟨1, 3⟩ ⟨1, 2⟩
  obtain ⟨-, reversed, -⟩ := tagging_is_pointwise reachable "Wide" ⟨1, 3⟩ ⟨1, 1⟩ ⟨1, 2⟩
  obtain ⟨-, -, -, inside, -⟩ := tagging_is_pointwise reachable "Small" ⟨1, 3⟩ ⟨9, 9⟩ ⟨1, 4⟩
  obtain ⟨-, -, -, outside, -⟩ := tagging_is_pointwise reachable "Small" ⟨1, 3⟩ ⟨9, 9⟩ ⟨1, 2⟩
  refine ⟨reachable, by decide, ?_, ?_, apart, ?_, ?_⟩
  · exact fun covered => (removed.mp covered).2 (by decide)
  · exact reversed.mpr (by decide)
  · exact (inside apart).1.trans (by decide)
  · exact ((outside apart).2 ordered).trans (by decide)

end Surface

end Highlighter
