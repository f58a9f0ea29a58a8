import Highlighter.Proofs.Surface.Ascending

/-!
# Adding a range

Adding a range to ranges that ascend cuts its place out of them and puts it between what starts
before it and what does not (`Tag.addRange_eq_of_ascending`), also where the range lies behind all
others and is only appended. So the ranges afterwards are the new range and what the cut leaves
(`Tag.addRange_perm`), and what holds of an addition follows from what holds of the cut: the ranges
keep ascending, separated ranges stay separated, and a position of the new range is held by it alone
(`Tag.filter_holds_addRange`).
-/

namespace Highlighter.Tag

open TagRange

variable {range : TagRange} {ranges : List TagRange}

/-- A range behind all others is appended. -/
theorem addRange_of_behind (behind : ∀ other ∈ ranges, other.stop ≤ range.start) :
    addRange range ranges = ranges ++ [range] := by
  rw [addRange]
  split
  next noneLast =>
    rw [List.getLast?_eq_none_iff.mp noneLast]
    rfl
  next last isLast =>
    rw [if_neg (by
      have before := behind last (List.mem_of_getLast? isLast)
      grind)]

/-- An addition cuts its place out of the other ranges and puts the range between those that start
before it and those that do not. -/
theorem addRange_eq_of_ascending (ascending : Ascending ranges) :
    addRange range ranges =
      (cutRanges range.start range.stop ranges).takeWhile (·.start < range.start) ++
        range :: (cutRanges range.start range.stop ranges).dropWhile (·.start < range.start) := by
  rw [addRange]
  split
  next noneLast =>
    rw [List.getLast?_eq_none_iff.mp noneLast]
    rfl
  next last isLast =>
    split
    next => rfl
    next behind =>
      -- The last range ends before the new one, so all ranges do.
      have allBefore : ∀ other ∈ ranges,
          other.stop ≤ range.start ∧ other.start < range.start := by
        intro other member
        have otherNonempty := ascending.nonempty other member
        have lastStop := (ascending.precedes_getLast isLast member).2
        grind
      rw [cutRanges_of_untouched ascending fun other member => .inl (allBefore other member).1,
        List.takeWhile_eq_self_iff.mpr fun other member =>
          decide_eq_true (allBefore other member).2,
        List.dropWhile_eq_nil_iff.mpr fun other member =>
          decide_eq_true (allBefore other member).2]

/-- The ranges after an addition are the new range and what is left of the others. -/
theorem addRange_perm (ascending : Ascending ranges) :
    (addRange range ranges).Perm (range :: cutRanges range.start range.stop ranges) := by
  rw [addRange_eq_of_ascending ascending]
  refine List.perm_middle.trans ?_
  rw [List.takeWhile_append_dropWhile]

theorem mem_addRange_of_ascending (ascending : Ascending ranges) {held : TagRange} :
    held ∈ addRange range ranges ↔
      held = range ∨ held ∈ cutRanges range.start range.stop ranges := by
  rw [(addRange_perm ascending).mem_iff, List.mem_cons]

/-- Adding a range keeps ranges ascending. -/
theorem ascending_addRange (ascending : Ascending ranges)
    (nonempty : range.start < range.stop) : Ascending (addRange range ranges) := by
  have pieces := ascending_cutRanges ascending range.start range.stop
  have outside : ∀ piece ∈ cutRanges range.start range.stop ranges,
      piece.stop ≤ range.start ∨ range.stop ≤ piece.start := fun piece member =>
    outside_of_mem_cutRanges ascending member
  rw [addRange_eq_of_ascending ascending]
  generalize cutRanges range.start range.stop ranges = others at pieces outside
  rw [← List.takeWhile_append_dropWhile (p := (·.start < range.start)) (l := others)] at pieces
  obtain ⟨frontAscending, backAscending, across⟩ := Ascending.append_iff.mp pieces
  have front : ∀ other ∈ others.takeWhile (·.start < range.start), other.Precedes range := by
    intro other member
    have early := Ascending.start_lt_of_mem_takeWhile member
    have place := outside other ((List.takeWhile_prefix _).subset member)
    rw [Precedes]
    grind
  have back : ∀ other ∈ others.dropWhile (·.start < range.start), range.Precedes other := by
    intro other member
    rw [List.takeWhile_append_dropWhile] at pieces
    have late := pieces.le_start_of_mem_dropWhile member
    have otherNonempty := backAscending.nonempty other member
    have place := outside other ((List.dropWhile_suffix _).subset member)
    rw [Precedes]
    grind
  rw [Ascending.append_iff, Ascending.cons_iff]
  refine ⟨frontAscending, ⟨nonempty, back, backAscending⟩, ?_⟩
  intro left early right member
  rcases List.mem_cons.mp member with rfl | late
  · exact front left early
  · exact across left early right late

/-- Adding a range keeps ranges separated. -/
theorem separated_addRange (separated : Separated ranges) (nonempty : range.start < range.stop) :
    Separated (addRange range ranges) := by
  have ascending := separated.ascending
  have pieces := separated_cutRanges separated (Std.le_of_lt nonempty)
  refine (ascending_addRange ascending nonempty).separated ?_
  rw [(addRange_perm ascending).pairwise_iff Apart.symm, List.pairwise_cons]
  exact ⟨fun piece member => (outside_of_mem_cutRanges ascending member).symm,
    pieces.apart.imp .inl⟩

/-! ### Positions after an addition -/

/-- The positions of an added range are held by it alone. Elsewhere the ranges hold what the cut
for it leaves. -/
theorem filter_holds_addRange (ascending : Ascending ranges) (position : Position) :
    (addRange range ranges).filter (·.holds position) =
      if range.holds position then [range]
      else (cutRanges range.start range.stop ranges).filter (·.holds position) := by
  have outside : range.holds position = true →
      (cutRanges range.start range.stop ranges).filter (·.holds position) = [] := by
    intro held
    rw [List.filter_eq_nil_iff]
    intro piece member
    have place := outside_of_mem_cutRanges ascending member
    grind [holds]
  rw [addRange_eq_of_ascending ascending]
  generalize cutRanges range.start range.stop ranges = others at outside ⊢
  rw [← List.takeWhile_append_dropWhile (p := (·.start < range.start)) (l := others),
    List.filter_append] at outside
  rw [List.filter_append, List.filter_cons]
  split
  next held =>
    obtain ⟨front, back⟩ := List.append_eq_nil_iff.mp (outside held)
    rw [front, back, List.nil_append]
  next free => rw [← List.filter_append, List.takeWhile_append_dropWhile]

/-- The characters of an added range are held by it alone. Elsewhere the ranges hold what they
held. -/
theorem stamps_addRange (separated : Separated ranges) (nonempty : range.start < range.stop)
    (position : Position) :
    ((addRange range ranges).filter (·.holds position)).map (·.stamp) =
      if range.holds position then [range.stamp]
      else (ranges.filter (·.holds position)).map (·.stamp) := by
  rw [filter_holds_addRange separated.ascending]
  split
  next held => rfl
  next free =>
    rw [stamps_cutRanges separated (Std.le_of_lt nonempty), if_neg (mt holds_iff.mpr free)]

end Highlighter.Tag
