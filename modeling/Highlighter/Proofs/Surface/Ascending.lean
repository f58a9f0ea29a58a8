import Highlighter.Proofs.Surface.Ranges
import Mathlib.Data.List.Infix

/-!
# Ranges that ascend

Once a tag is removed from a reversed range, its ranges may overlap, and `TagRange.Separated` is
lost for good. What every operation keeps is weaker: the starts of the ranges ascend, and so do
their ends. `Tag.ascending_cutRanges` says that cutting keeps it for any two places, in either
order. Ascending ranges that have no position in common are separated (`Ascending.separated`).

It is enough for the searches. The ranges that end up to a place, and those that start before it,
lie at the front (`Ascending.stops_front`, `Ascending.starts_front`), and the first range that ends
behind a place decides for all of them whether the place is covered
(`Tag.covers_eq_any_of_ascending`).
-/

namespace Highlighter

/-! ### Tests that hold at the front of a list -/

section Front

variable {α : Type} {test : α → Bool} {list : List α}

/-- Where every element before a passing one passes, none passes behind the first that fails. -/
theorem not_of_mem_dropWhile
    (front : list.Pairwise fun left right => test right = true → test left = true) :
    ∀ element ∈ list.dropWhile test, test element = false := by
  induction list with
  | nil => simp
  | cons first others inductionHypothesis =>
      obtain ⟨before, later⟩ := List.pairwise_cons.mp front
      by_cases passes : test first = true
      · rw [List.dropWhile_cons_of_pos passes]
        exact inductionHypothesis later
      · rw [List.dropWhile_cons_of_neg passes]
        intro element member
        rcases List.mem_cons.mp member with rfl | behind
        · simpa using passes
        · have fails := mt (before element behind) passes
          simpa using fails

/-- What a test leaves at the front and what it leaves behind are the whole list. -/
theorem drop_length_takeWhile (test : α → Bool) (list : List α) :
    list.drop (list.takeWhile test).length = list.dropWhile test := by
  induction list with
  | nil => rfl
  | cons first others inductionHypothesis =>
      by_cases passes : test first = true <;> simp [passes, inductionHypothesis]

end Front

namespace TagRange

/-- A range starts no later than another one, and ends no later. -/
def Precedes (left right : TagRange) : Prop :=
  left.start ≤ right.start ∧ left.stop ≤ right.stop

/-- Two ranges have no position in common. -/
def Apart (left right : TagRange) : Prop :=
  left.stop ≤ right.start ∨ right.stop ≤ left.start

instance (left right : TagRange) : Decidable (Apart left right) :=
  inferInstanceAs (Decidable (_ ∨ _))

theorem Apart.symm {left right : TagRange} (apart : Apart left right) : Apart right left :=
  Or.symm apart

/-- Ranges that are not empty, with ascending starts and ascending ends. -/
structure Ascending (ranges : List TagRange) : Prop where
  nonempty : ∀ range ∈ ranges, range.start < range.stop
  precedes : ranges.Pairwise Precedes

/-- Separated ranges ascend. -/
theorem Separated.ascending {ranges : List TagRange} (separated : Separated ranges) :
    Ascending ranges where
  nonempty := separated.nonempty
  precedes := by
    apply separated.apart.imp_of_mem
    intro left right leftMember rightMember apart
    have leftNonempty := separated.nonempty left leftMember
    have rightNonempty := separated.nonempty right rightMember
    rw [Precedes]
    grind

namespace Ascending

variable {range : TagRange} {ranges front back : List TagRange} {place : Position}

theorem nil : Ascending [] :=
  ⟨by simp, .nil⟩

theorem cons_iff :
    Ascending (range :: ranges) ↔
      range.start < range.stop ∧ (∀ other ∈ ranges, range.Precedes other) ∧
        Ascending ranges := by
  constructor
  · rintro ⟨nonempty, precedes⟩
    obtain ⟨before, later⟩ := List.pairwise_cons.mp precedes
    exact ⟨nonempty range List.mem_cons_self, before,
      fun other member => nonempty other (List.mem_cons_of_mem _ member), later⟩
  · rintro ⟨first, before, nonempty, later⟩
    exact ⟨by simpa using ⟨first, nonempty⟩, List.pairwise_cons.mpr ⟨before, later⟩⟩

theorem append_iff :
    Ascending (front ++ back) ↔
      Ascending front ∧ Ascending back ∧
        ∀ left ∈ front, ∀ right ∈ back, left.Precedes right := by
  constructor
  · rintro ⟨nonempty, precedes⟩
    obtain ⟨frontPrecedes, backPrecedes, across⟩ := List.pairwise_append.mp precedes
    exact ⟨⟨fun other member => nonempty other (List.mem_append_left _ member), frontPrecedes⟩,
      ⟨fun other member => nonempty other (List.mem_append_right _ member), backPrecedes⟩, across⟩
  · rintro ⟨frontAscending, backAscending, across⟩
    refine ⟨fun other member => ?_, List.pairwise_append.mpr
      ⟨frontAscending.precedes, backAscending.precedes, across⟩⟩
    rcases List.mem_append.mp member with inFront | inBack
    · exact frontAscending.nonempty other inFront
    · exact backAscending.nonempty other inBack

/-- The first range precedes all of them, itself included. -/
theorem head_precedes (ascending : Ascending (range :: ranges)) {other : TagRange}
    (member : other ∈ range :: ranges) : range.Precedes other := by
  rcases List.mem_cons.mp member with rfl | later
  · exact ⟨Std.le_refl _, Std.le_refl _⟩
  · exact (cons_iff.mp ascending).2.1 other later

/-- All ranges precede the last one, itself included. -/
theorem precedes_getLast (ascending : Ascending ranges) {last other : TagRange}
    (isLast : ranges.getLast? = some last) (member : other ∈ ranges) : other.Precedes last := by
  obtain ⟨front, rfl⟩ := List.getLast?_eq_some_iff.mp isLast
  rcases List.mem_append.mp member with early | late
  · exact (append_iff.mp ascending).2.2 other early last List.mem_cons_self
  · rw [List.mem_singleton.mp late]
    exact ⟨Std.le_refl _, Std.le_refl _⟩

/-- Ascending ranges that have no position in common are separated. -/
theorem separated (ascending : Ascending ranges) (apart : ranges.Pairwise Apart) :
    Separated ranges where
  nonempty := ascending.nonempty
  apart := by
    apply (ascending.precedes.and apart).imp_of_mem
    intro left right leftMember rightMember both
    have rightNonempty := ascending.nonempty right rightMember
    obtain ⟨precedes, apart⟩ := both
    rw [Precedes] at precedes
    rw [Apart] at apart
    grind

theorem sublist {others : List TagRange} (ascending : Ascending ranges)
    (part : others.Sublist ranges) : Ascending others :=
  ⟨fun range member => ascending.nonempty range (part.subset member),
    ascending.precedes.sublist part⟩

/-- The ranges that end up to a place are found at the front. -/
theorem stops_front (ascending : Ascending ranges) (place : Position) :
    ranges.Pairwise fun left right =>
      decide (right.stop ≤ place) = true → decide (left.stop ≤ place) = true := by
  apply ascending.precedes.imp
  intro left right precedes passes
  rw [Precedes] at precedes
  grind

/-- The ranges that start before a place are found at the front. -/
theorem starts_front (ascending : Ascending ranges) (place : Position) :
    ranges.Pairwise fun left right =>
      decide (right.start < place) = true → decide (left.start < place) = true := by
  apply ascending.precedes.imp
  intro left right precedes passes
  rw [Precedes] at precedes
  grind

/-- The ranges at the front that end up to a place do so. -/
theorem stop_le_of_mem_takeWhile (member : range ∈ ranges.takeWhile (·.stop ≤ place)) :
    range.stop ≤ place := by
  simpa using List.mem_takeWhile_imp member

/-- The ranges at the front that start before a place do so. -/
theorem start_lt_of_mem_takeWhile (member : range ∈ ranges.takeWhile (·.start < place)) :
    range.start < place := by
  simpa using List.mem_takeWhile_imp member

/-- Behind the ranges at the front that end up to a place, all ranges end behind it. -/
theorem lt_stop_of_mem_dropWhile (ascending : Ascending ranges)
    (member : range ∈ ranges.dropWhile (·.stop ≤ place)) : place < range.stop := by
  have fails := not_of_mem_dropWhile (ascending.stops_front place) range member
  exact Std.not_le.mp (of_decide_eq_false fails)

/-- Behind the ranges at the front that start before a place, no range starts before it. -/
theorem le_start_of_mem_dropWhile (ascending : Ascending ranges)
    (member : range ∈ ranges.dropWhile (·.start < place)) : place ≤ range.start := by
  have fails := not_of_mem_dropWhile (ascending.starts_front place) range member
  exact Std.not_lt.mp (of_decide_eq_false fails)

end Ascending

/-! ### Parts of a range -/

section Parts

variable {range piece : TagRange} {place : Position}

theorem mem_partBefore_iff :
    piece ∈ range.partBefore place ↔
      range.start < place ∧ piece = { range with stop := place } := by
  rw [partBefore]
  split <;> simp [*]

theorem mem_partBehind_iff :
    piece ∈ range.partBehind place ↔
      place < range.stop ∧ piece = { range with start := place } := by
  rw [partBehind]
  split <;> simp [*]

theorem ascending_partBefore : Ascending (range.partBefore place) := by
  rw [partBefore]
  split
  next reaches => exact Ascending.cons_iff.mpr ⟨reaches, by simp, .nil⟩
  next => exact .nil

theorem ascending_partBehind : Ascending (range.partBehind place) := by
  rw [partBehind]
  split
  next reaches => exact Ascending.cons_iff.mpr ⟨reaches, by simp, .nil⟩
  next => exact .nil

end Parts

end TagRange

namespace Tag

open TagRange

variable {start stop : Position} {range : TagRange} {ranges : List TagRange}

/-! ### Cutting -/

/-- How a cut takes ranges apart that it touches: some end before the cut, some are touched by it,
and some start behind it. -/
structure Dissection (start stop : Position) (before touched behind : List TagRange) : Prop where
  endsBefore : ∀ range ∈ before, range.stop ≤ start ∧ range.start < stop
  touches : ∀ range ∈ touched, start < range.stop ∧ range.start < stop
  startsBehind : ∀ range ∈ behind, stop ≤ range.start

section Dissection

variable {before touched behind : List TagRange}

/-- The ranges that end before the cut are those at the front that do. -/
theorem Dissection.takeWhile_stop (parts : Dissection start stop before touched behind)
    (nonempty : touched ≠ []) :
    (before ++ (touched ++ behind)).takeWhile (·.stop ≤ start) = before := by
  obtain ⟨first, others, rfl⟩ := List.exists_cons_of_ne_nil nonempty
  have firstTouched := (parts.touches first List.mem_cons_self).1
  rw [List.takeWhile_append_of_pos fun range member =>
      decide_eq_true (parts.endsBefore range member).1, List.cons_append,
    List.takeWhile_cons_of_neg (by simpa using Std.not_le.mpr firstTouched), List.append_nil]

/-- The ranges that start before the end of the cut are those at the front that do. -/
theorem Dissection.takeWhile_start (parts : Dissection start stop before touched behind) :
    (before ++ (touched ++ behind)).takeWhile (·.start < stop) = before ++ touched := by
  rw [List.takeWhile_append_of_pos fun range member =>
      decide_eq_true (parts.endsBefore range member).2,
    List.takeWhile_append_of_pos fun range member =>
      decide_eq_true (parts.touches range member).2]
  cases behind with
  | nil => simp
  | cons first others =>
      have firstBehind := parts.startsBehind first List.mem_cons_self
      rw [List.takeWhile_cons_of_neg (by simpa using Std.not_lt.mpr firstBehind),
        List.append_nil]

/-- Of the ranges that a cut touches, the first keeps what lies before the cut, the last keeps what
lies behind it, and nothing else is left. -/
theorem Dissection.cutRanges_eq (parts : Dissection start stop before touched behind)
    (nonempty : touched ≠ []) :
    cutRanges start stop (before ++ (touched ++ behind)) =
      before ++ ((touched.head nonempty).partBefore start ++
        ((touched.getLast nonempty).partBehind stop ++ behind)) := by
  have rest : (before ++ (touched ++ behind)).drop (before ++ touched).length = behind := by
    rw [← List.append_assoc, List.drop_left]
  simp only [cutRanges, parts.takeWhile_stop nonempty, parts.takeWhile_start, List.drop_left,
    List.head?_eq_some_head nonempty, List.getLast?_eq_some_getLast nonempty, rest, partBefore,
    partBehind, List.append_assoc]

end Dissection

/-- A cut either touches none of ascending ranges or takes them apart. -/
theorem untouched_or_exists_dissection (ascending : Ascending ranges) (start stop : Position) :
    (∀ range ∈ ranges, range.stop ≤ start ∨ stop ≤ range.start) ∨
      ∃ before touched behind, ranges = before ++ (touched ++ behind) ∧ touched ≠ [] ∧
        Dissection start stop before touched behind := by
  let before := ranges.takeWhile (·.stop ≤ start)
  let rest := ranges.dropWhile (·.stop ≤ start)
  let touched := rest.takeWhile (·.start < stop)
  let behind := rest.dropWhile (·.start < stop)
  have whole : ranges = before ++ (touched ++ behind) := by
    rw [List.takeWhile_append_dropWhile, List.takeWhile_append_dropWhile]
  have restAscending : Ascending rest := ascending.sublist (List.dropWhile_suffix _).sublist
  have endsBefore : ∀ range ∈ before, range.stop ≤ start := fun range member =>
    Ascending.stop_le_of_mem_takeWhile member
  have startsBehind : ∀ range ∈ behind, stop ≤ range.start := fun range member =>
    restAscending.le_start_of_mem_dropWhile member
  by_cases nonempty : touched = []
  · refine .inl fun range member => ?_
    rw [whole, nonempty, List.nil_append, List.mem_append] at member
    exact member.imp (endsBefore range) (startsBehind range)
  · refine .inr ⟨before, touched, behind, whole, nonempty, ?_, ?_, startsBehind⟩
    · intro range member
      refine ⟨endsBefore range member, ?_⟩
      -- A range before the cut starts no later than the first one that is touched.
      obtain ⟨first, others, shape⟩ := List.exists_cons_of_ne_nil nonempty
      have firstTouched : first ∈ touched := shape ▸ List.mem_cons_self
      have firstStart : first.start < stop := Ascending.start_lt_of_mem_takeWhile firstTouched
      rw [whole, Ascending.append_iff] at ascending
      have precedes := ascending.2.2 range member first (List.mem_append_left _ firstTouched)
      exact Std.lt_of_le_of_lt precedes.1 firstStart
    · intro range member
      exact ⟨ascending.lt_stop_of_mem_dropWhile ((List.takeWhile_prefix _).subset member),
        Ascending.start_lt_of_mem_takeWhile member⟩

/-- A cut that touches none of ascending ranges leaves them as they are. -/
theorem cutRanges_of_untouched (ascending : Ascending ranges)
    (untouched : ∀ range ∈ ranges, range.stop ≤ start ∨ stop ≤ range.start) :
    cutRanges start stop ranges = ranges := by
  have nothing : (ranges.takeWhile (·.start < stop)).drop
      (ranges.takeWhile (·.stop ≤ start)).length = [] := by
    rw [List.eq_nil_iff_forall_not_mem]
    intro range member
    have starts : range.start < stop :=
      Ascending.start_lt_of_mem_takeWhile (List.mem_of_mem_drop member)
    have behind : range ∈ ranges.dropWhile (·.stop ≤ start) := by
      rw [← drop_length_takeWhile]
      exact (List.IsPrefix.drop (List.takeWhile_prefix _) _).subset member
    have stops := ascending.lt_stop_of_mem_dropWhile behind
    rcases untouched range ((List.dropWhile_suffix _).subset behind) with early | late
    · exact absurd early (Std.not_le.mpr stops)
    · exact absurd late (Std.not_le.mpr starts)
  simp only [cutRanges, nothing, List.head?_nil]

/-- A range that is left by a cut has its ends and its stamp from an old range and from the cut. -/
theorem of_mem_cutRanges {piece : TagRange} (ascending : Ascending ranges)
    (member : piece ∈ cutRanges start stop ranges) :
    ∃ range ∈ ranges, piece.stamp = range.stamp ∧
      (piece.start = range.start ∨ piece.start = stop) ∧
      (piece.stop = range.stop ∨ piece.stop = start) := by
  have unchanged : piece ∈ ranges → ∃ range ∈ ranges, piece.stamp = range.stamp ∧
      (piece.start = range.start ∨ piece.start = stop) ∧
      (piece.stop = range.stop ∨ piece.stop = start) := fun old =>
    ⟨piece, old, rfl, .inl rfl, .inl rfl⟩
  rcases untouched_or_exists_dissection ascending start stop with untouched |
    ⟨before, touched, behind, rfl, nonempty, parts⟩
  · rw [cutRanges_of_untouched ascending untouched] at member
    exact unchanged member
  · rw [parts.cutRanges_eq nonempty] at member
    simp only [List.mem_append] at member unchanged ⊢
    rcases member with early | front | back | late
    · exact unchanged (.inl early)
    · refine ⟨_, .inr (.inl (List.head_mem nonempty)), ?_⟩
      grind [partBefore]
    · refine ⟨_, .inr (.inl (List.getLast_mem nonempty)), ?_⟩
      grind [partBehind]
    · exact unchanged (.inr (.inr late))

/-- Cutting keeps ranges ascending, also between places that are reversed. -/
theorem ascending_cutRanges (ascending : Ascending ranges) (start stop : Position) :
    Ascending (cutRanges start stop ranges) := by
  rcases untouched_or_exists_dissection ascending start stop with untouched |
    ⟨before, touched, behind, rfl, nonempty, parts⟩
  · rwa [cutRanges_of_untouched ascending untouched]
  · rw [parts.cutRanges_eq nonempty]
    obtain ⟨beforeAscending, restAscending, beforeAll⟩ := Ascending.append_iff.mp ascending
    obtain ⟨touchedAscending, behindAscending, touchedAll⟩ := Ascending.append_iff.mp restAscending
    have firstMember := List.head_mem nonempty
    have lastMember := List.getLast_mem nonempty
    have firstTouched := parts.touches _ firstMember
    have firstLast : (touched.head nonempty).Precedes (touched.getLast nonempty) := by
      obtain ⟨first, others, rfl⟩ := List.exists_cons_of_ne_nil nonempty
      exact touchedAscending.head_precedes lastMember
    generalize touched.head nonempty = first at firstMember firstTouched firstLast ⊢
    generalize touched.getLast nonempty = last at lastMember firstLast ⊢
    simp only [Ascending.append_iff, List.mem_append]
    refine ⟨beforeAscending, ⟨ascending_partBefore, ⟨ascending_partBehind, behindAscending, ?_⟩,
      ?_⟩, ?_⟩
    · intro piece part other late
      obtain ⟨reaches, rfl⟩ := mem_partBehind_iff.mp part
      exact ⟨parts.startsBehind other late, (touchedAll last lastMember other late).2⟩
    · intro piece part other member
      obtain ⟨reaches, rfl⟩ := mem_partBefore_iff.mp part
      rcases member with back | late
      · obtain ⟨-, rfl⟩ := mem_partBehind_iff.mp back
        exact ⟨Std.le_of_lt firstTouched.2,
          Std.le_trans (Std.le_of_lt firstTouched.1) firstLast.2⟩
      · have precedes := touchedAll first firstMember other late
        exact ⟨precedes.1, Std.le_trans (Std.le_of_lt firstTouched.1) precedes.2⟩
    · intro range early other member
      have ends := parts.endsBefore range early
      rcases member with front | back | late
      · obtain ⟨-, rfl⟩ := mem_partBefore_iff.mp front
        have precedes := beforeAll range early first (List.mem_append_left _ firstMember)
        exact ⟨precedes.1, ends.1⟩
      · obtain ⟨-, rfl⟩ := mem_partBehind_iff.mp back
        have precedes := beforeAll range early last (List.mem_append_left _ lastMember)
        exact ⟨Std.le_of_lt ends.2, precedes.2⟩
      · exact beforeAll range early other (List.mem_append_right _ late)

/-- No range that is left by a cut reaches from before its end to behind its start. -/
theorem outside_of_mem_cutRanges {piece : TagRange} (ascending : Ascending ranges)
    (member : piece ∈ cutRanges start stop ranges) :
    piece.stop ≤ start ∨ stop ≤ piece.start := by
  rcases untouched_or_exists_dissection ascending start stop with untouched |
    ⟨before, touched, behind, rfl, nonempty, parts⟩
  · rw [cutRanges_of_untouched ascending untouched] at member
    exact untouched piece member
  · rw [parts.cutRanges_eq nonempty] at member
    simp only [List.mem_append] at member
    rcases member with early | front | back | late
    · exact .inl (parts.endsBefore piece early).1
    · obtain ⟨-, rfl⟩ := mem_partBefore_iff.mp front
      exact .inl (Std.le_refl _)
    · obtain ⟨-, rfl⟩ := mem_partBehind_iff.mp back
      exact .inr (Std.le_refl _)
    · exact .inr (parts.startsBehind piece late)

/-! ### Coverage -/

/-- A tag covers a character when one of its ranges holds it, also where they overlap. -/
theorem covers_eq_any_of_ascending {tag : Tag} (ascending : Ascending tag.ranges)
    (position : Position) : tag.covers position = tag.ranges.any (·.holds position) := by
  have early : (tag.ranges.takeWhile (·.stop ≤ position)).any (·.holds position) = false := by
    rw [List.any_eq_false]
    intro range member
    have ends := Ascending.stop_le_of_mem_takeWhile member
    grind [holds]
  have late : ∀ range ∈ tag.ranges.dropWhile (·.stop ≤ position), position < range.stop :=
    fun _ => ascending.lt_stop_of_mem_dropWhile
  have rest := ascending.sublist
    (List.dropWhile_suffix fun range => decide (range.stop ≤ position)).sublist
  rw [covers, rangesAfter,
    ← List.takeWhile_append_dropWhile (p := (·.stop ≤ position)) (l := tag.ranges),
    List.any_append, early, Bool.false_or, List.takeWhile_append_dropWhile]
  generalize tag.ranges.dropWhile (·.stop ≤ position) = ranges at late rest
  cases ranges with
  | nil => rfl
  | cons first others =>
      have firstStop := late first List.mem_cons_self
      by_cases reaches : first.start ≤ position
      · simp [reaches, holds, firstStop]
      · have firstFree : first.holds position = false := by simp [holds, reaches]
        have othersFree : others.any (·.holds position) = false := by
          rw [List.any_eq_false]
          intro other member
          have precedes := (Ascending.cons_iff.mp rest).2.1 other member
          rw [Precedes] at precedes
          grind [holds]
        rw [List.any_cons, firstFree, othersFree]
        simpa using reaches

end Tag

end Highlighter
