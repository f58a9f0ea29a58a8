import Highlighter.Proofs.Text.Position
import Highlighter.Surface.Tag

/-!
# Cutting ranges

As long as the ranges of a tag are separated, cutting a part out of them is cutting it out of each
of them (`Tag.cutRanges_eq_flatMap`), and it keeps them separated. Neither statement holds for a
part whose start lies behind its end.
-/

namespace Highlighter

namespace TagRange

/-- Whether the range holds the character at a position. -/
def holds (range : TagRange) (position : Position) : Bool :=
  decide (range.start ≤ position) && decide (position < range.stop)

theorem holds_iff {range : TagRange} {position : Position} :
    range.holds position = true ↔ range.start ≤ position ∧ position < range.stop := by
  simp [holds]

/-- The part of a range before a place, if there is one. -/
def partBefore (range : TagRange) (place : Position) : List TagRange :=
  if range.start < place then [{ range with stop := place }] else []

/-- The part of a range behind a place, if there is one. -/
def partBehind (range : TagRange) (place : Position) : List TagRange :=
  if place < range.stop then [{ range with start := place }] else []

/-- What is left of a range without the part from `start` to `stop`. -/
def without (range : TagRange) (start stop : Position) : List TagRange :=
  if range.stop ≤ start ∨ stop ≤ range.start then [range]
  else range.partBefore start ++ range.partBehind stop

/-- A piece that is left of a range is a part of it with the same stamp, outside of what was
taken. -/
theorem of_mem_without {range piece : TagRange} {start stop : Position}
    (nonempty : range.start < range.stop) (member : piece ∈ range.without start stop) :
    piece.stamp = range.stamp ∧ piece.start < piece.stop ∧
      range.start ≤ piece.start ∧ piece.stop ≤ range.stop ∧
      (piece.start = range.start ∨ piece.start = stop) ∧
      (piece.stop = range.stop ∨ piece.stop = start) ∧
      (piece.stop ≤ start ∨ stop ≤ piece.start) := by
  grind [without, partBefore, partBehind]

/-- The pieces that are left of a range do not overlap. -/
theorem pairwise_without (range : TagRange) {start stop : Position} (ordered : start ≤ stop) :
    (range.without start stop).Pairwise fun left right => left.stop ≤ right.start := by
  unfold without partBefore partBehind
  split
  · exact List.pairwise_singleton _ _
  · split <;> split <;> simp [ordered]

/-- Outside of what was taken, the pieces hold what the range held. -/
theorem stamps_without (range : TagRange) {start stop : Position} (ordered : start ≤ stop)
    (position : Position) :
    ((range.without start stop).filter (·.holds position)).map (·.stamp) =
      if start ≤ position ∧ position < stop then []
      else ([range].filter (·.holds position)).map (·.stamp) := by
  grind [without, partBefore, partBehind, holds]

/-- A range that does not overlap the part that is taken is left as it is. -/
theorem without_of_disjoint {range : TagRange} {start stop : Position}
    (disjoint : range.stop ≤ start ∨ stop ≤ range.start) :
    range.without start stop = [range] :=
  if_pos disjoint

/-- Ranges that are not empty, ascend and do not overlap. -/
structure Separated (ranges : List TagRange) : Prop where
  nonempty : ∀ range ∈ ranges, range.start < range.stop
  apart : ranges.Pairwise fun left right => left.stop ≤ right.start

namespace Separated

variable {range : TagRange} {ranges : List TagRange}

theorem nil : Separated [] :=
  ⟨by simp, .nil⟩

theorem cons_iff :
    Separated (range :: ranges) ↔
      range.start < range.stop ∧ (∀ other ∈ ranges, range.stop ≤ other.start) ∧
        Separated ranges := by
  constructor
  · rintro ⟨nonempty, apart⟩
    rw [List.pairwise_cons] at apart
    exact ⟨nonempty range List.mem_cons_self, apart.1,
      fun other member => nonempty other (List.mem_cons_of_mem _ member), apart.2⟩
  · rintro ⟨first, before, nonempty, apart⟩
    exact ⟨by simpa using ⟨first, nonempty⟩, List.pairwise_cons.mpr ⟨before, apart⟩⟩

theorem tail (separated : Separated (range :: ranges)) : Separated ranges :=
  (cons_iff.mp separated).2.2

/-- Where the first range starts behind a place, all ranges do. -/
theorem le_start_of_mem {place : Position} (separated : Separated (range :: ranges))
    (behind : place ≤ range.start) {other : TagRange} (member : other ∈ range :: ranges) :
    place ≤ other.start := by
  obtain ⟨nonempty, before, -⟩ := cons_iff.mp separated
  rcases List.mem_cons.mp member with rfl | member
  · exact behind
  · have apart := before other member
    grind

/-- Taking a part out of separated ranges leaves separated pieces. -/
theorem flatMap_without {start stop : Position} (separated : Separated ranges)
    (ordered : start ≤ stop) : Separated (ranges.flatMap (·.without start stop)) where
  nonempty piece member := by
    obtain ⟨range, held, left⟩ := List.mem_flatMap.mp member
    exact (of_mem_without (separated.nonempty range held) left).2.1
  apart := by
    rw [List.pairwise_flatMap]
    refine ⟨fun range _ => pairwise_without range ordered, ?_⟩
    apply separated.apart.imp_of_mem
    intro left right leftHeld rightHeld before leftPiece leftMember rightPiece rightMember
    have leftPart := of_mem_without (separated.nonempty left leftHeld) leftMember
    have rightPart := of_mem_without (separated.nonempty right rightHeld) rightMember
    exact Std.le_trans (Std.le_trans leftPart.2.2.2.1 before) rightPart.2.2.1

end Separated

end TagRange

namespace Tag

open TagRange

variable {start stop : Position} {range : TagRange} {ranges : List TagRange}

/-! ### Cutting -/

/-- Ranges that do not overlap the part that is cut out are left as they are. -/
theorem flatMap_without_of_disjoint
    (disjoint : ∀ range ∈ ranges, range.stop ≤ start ∨ stop ≤ range.start) :
    ranges.flatMap (·.without start stop) = ranges := by
  induction ranges with
  | nil => rfl
  | cons range others inductionHypothesis =>
      rw [List.flatMap_cons, without_of_disjoint (disjoint range List.mem_cons_self),
        inductionHypothesis fun other member => disjoint other (List.mem_cons_of_mem _ member)]
      rfl

/-- Of the ranges that the cut reaches, all but the last lose everything behind its start. The
last one keeps what lies behind the cut. -/
theorem partBehind_getLast (stop : Position) (separated : Separated (range :: ranges))
    (reached : start < range.stop) :
    let touched := range :: ranges.takeWhile (·.start < stop)
    (touched.getLast (List.cons_ne_nil _ _)).partBehind stop ++
        ranges.drop (ranges.takeWhile (·.start < stop)).length =
      range.partBehind stop ++ ranges.flatMap (·.without start stop) := by
  induction ranges generalizing range with
  | nil => simp
  | cons next later inductionHypothesis =>
      obtain ⟨nonempty, before, others⟩ := Separated.cons_iff.mp separated
      have nextNonempty := others.nonempty next List.mem_cons_self
      have nextBehind := before next List.mem_cons_self
      by_cases touches : next.start < stop
      · have onlyBehind : next.without start stop = next.partBehind stop := by
          grind [without, partBefore]
        have nothing : range.partBehind stop = [] := if_neg (by grind)
        rw [List.flatMap_cons, onlyBehind, nothing, List.nil_append,
          ← inductionHypothesis others (by grind)]
        simp [touches]
      · have unchanged : (next :: later).flatMap (·.without start stop) = next :: later :=
          flatMap_without_of_disjoint fun other member =>
            .inr (others.le_start_of_mem (Std.not_lt.mp touches) member)
        simp [touches, unchanged]

/-- Cutting a part out of separated ranges takes it out of each of them. -/
theorem cutRanges_eq_flatMap (separated : Separated ranges) (ordered : start ≤ stop) :
    cutRanges start stop ranges = ranges.flatMap (·.without start stop) := by
  induction ranges with
  | nil => rfl
  | cons range others inductionHypothesis =>
      obtain ⟨nonempty, before, othersSeparated⟩ := Separated.cons_iff.mp separated
      by_cases passed : range.stop ≤ start
      · rw [List.flatMap_cons, without_of_disjoint (.inl passed),
          ← inductionHypothesis othersSeparated]
        have reached : range.start < stop := by grind
        simp only [cutRanges, List.takeWhile_cons, passed, reached, decide_true, if_true,
          List.length_cons, List.drop_succ_cons]
        split <;> rfl
      · by_cases reached : range.start < stop
        · have touched : range.without start stop =
              range.partBefore start ++ range.partBehind stop := if_neg (by grind)
          have last := partBehind_getLast stop separated (Std.not_le.mp passed)
          rw [List.flatMap_cons, touched, List.append_assoc, ← last]
          simp [cutRanges, passed, reached, List.getLast?_eq_some_getLast, partBefore, partBehind]
        · rw [flatMap_without_of_disjoint fun other member => .inr
            (separated.le_start_of_mem (Std.not_lt.mp reached) member)]
          simp [cutRanges, reached]

/-- Cutting keeps ranges separated. -/
theorem separated_cutRanges (separated : Separated ranges) (ordered : start ≤ stop) :
    Separated (cutRanges start stop ranges) := by
  rw [cutRanges_eq_flatMap separated ordered]
  exact separated.flatMap_without ordered

/-- Outside of the part that is cut out, the ranges hold what they held. -/
theorem stamps_cutRanges (separated : Separated ranges) (ordered : start ≤ stop)
    (position : Position) :
    ((cutRanges start stop ranges).filter (·.holds position)).map (·.stamp) =
      if start ≤ position ∧ position < stop then []
      else (ranges.filter (·.holds position)).map (·.stamp) := by
  rw [cutRanges_eq_flatMap separated ordered]
  clear separated
  induction ranges with
  | nil => simp
  | cons range others inductionHypothesis =>
      rw [List.flatMap_cons, List.filter_append, List.map_append, inductionHypothesis,
        stamps_without range ordered position]
      split
      · rfl
      · rw [← List.map_append, ← List.filter_append]
        rfl

/-- At most one of separated ranges holds a character. -/
theorem filter_holds_length_le_one (separated : Separated ranges) (position : Position) :
    (ranges.filter (·.holds position)).length ≤ 1 := by
  induction ranges with
  | nil => simp
  | cons range others inductionHypothesis =>
      have short := inductionHypothesis separated.tail
      rw [List.filter_cons]
      split
      next held =>
        have othersFree : others.filter (·.holds position) = [] := by
          rw [List.filter_eq_nil_iff]
          intro other member
          have apart := (Separated.cons_iff.mp separated).2.1 other member
          grind [holds]
        simp [othersFree]
      next => exact short

end Tag

end Highlighter
