import Highlighter.Proofs.Surface.Ascending
import Highlighter.Proofs.Surface.Runs
import Mathlib.Order.Monotone.Basic

/-!
# Surfaces whose ranges may overlap

`Surface.Orderly` is what is left of the invariant of a surface when a tag may also be removed from
a reversed range: the lines are lines, and the ranges of each tag ascend and lie in the text. Every
operation keeps it (`Orderly.apply`), so it holds after every run (`Orderly.of_reachable`).
-/

namespace Highlighter.Surface

open TagRange

/-- Any operation may be made on any surface. -/
def Anything (_ : Surface) (_ : Operation) : Prop :=
  True

/-- Ranges ascend, and both ends of each are places of the text. -/
structure Placed (surface : Surface) (ranges : List TagRange) : Prop where
  ascending : Ascending ranges
  inside : ∀ range ∈ ranges, surface.Inside range.start ∧ surface.Inside range.stop

/-- The lines are lines, and the ranges of every tag ascend and lie in the text. -/
structure Orderly (surface : Surface) : Prop extends Lined surface where
  placed : ∀ tag ∈ surface.tags, surface.Placed tag.ranges

variable {surface : Surface}

/-- The invariant of runs that remove tags from ordered ranges only is stronger. -/
theorem Valid.orderly (valid : surface.Valid) : surface.Orderly where
  toLined := valid.toLined
  placed tag member := ⟨(valid.separated tag member).ascending, valid.rangesInside tag member⟩

theorem Placed.nil : surface.Placed [] :=
  ⟨.nil, by simp⟩

/-! ### Edits -/

/-- Moved ranges ascend if their starts and their ends are moved in order. -/
theorem ascending_filterMap_movedRange {old new : Surface} {moveStart moveStop : Nat → Nat}
    {ranges : List TagRange} (oldLined : old.Lined) (newLined : new.Lined)
    (moves : Moves old new moveStart moveStop) (starts : Monotone moveStart)
    (stops : Monotone moveStop) (placed : old.Placed ranges) :
    Ascending (ranges.filterMap (movedRange old new moveStart moveStop)) where
  nonempty moved member := by
    obtain ⟨range, -, same⟩ := List.mem_filterMap.mp member
    exact start_lt_stop_of_movedRange newLined moves oldLined same
  precedes := by
    rw [List.pairwise_filterMap]
    apply placed.ascending.precedes.imp_of_mem
    intro left right leftHeld rightHeld precedes leftMoved leftSame rightMoved rightSame
    obtain ⟨-, rfl⟩ := movedRange_eq_some_iff.mp leftSame
    obtain ⟨-, rfl⟩ := movedRange_eq_some_iff.mp rightSame
    have leftInside := placed.inside left leftHeld
    have rightInside := placed.inside right rightHeld
    exact ⟨positionOf_le newLined (starts
        ((offsetOf_le_iff oldLined leftInside.1 rightInside.1).mpr precedes.1)),
      positionOf_le newLined (stops
        ((offsetOf_le_iff oldLined leftInside.2 rightInside.2).mpr precedes.2))⟩

/-- An edit that moves the ends of ranges in order keeps them ascending. -/
theorem Orderly.replaceText (orderly : surface.Orderly) {text : Text}
    {moveStart moveStop : Nat → Nat}
    (moves : Moves surface (surface.withText text) moveStart moveStop)
    (starts : Monotone moveStart) (stops : Monotone moveStop) (cursor : Nat) :
    (surface.replaceText text moveStart moveStop cursor).Orderly where
  toLined := lined_of_lines_eq rfl
  placed edited member := by
    have lined := lined_withText surface text
    rw [tags_replaceText orderly.toLined (fun tag old => (orderly.placed tag old).inside) moves]
      at member
    obtain ⟨tag, old, rfl⟩ := List.mem_map.mp member
    refine ⟨ascending_filterMap_movedRange orderly.toLined lined moves starts stops
      (orderly.placed tag old), ?_⟩
    intro moved held
    obtain ⟨range, -, same⟩ := List.mem_filterMap.mp held
    obtain ⟨-, rfl⟩ := movedRange_eq_some_iff.mp same
    exact ⟨inside_positionOf lined.nonempty _, inside_positionOf lined.nonempty _⟩

theorem monotone_spreadStart (place count : Nat) : Monotone (spreadStart place count) := by
  intro left right ordered
  rw [spreadStart, spreadStart]
  split <;> split <;> omega

theorem monotone_spreadStop (place count : Nat) : Monotone (spreadStop place count) := by
  intro left right ordered
  rw [spreadStop, spreadStop]
  split <;> split <;> omega

theorem monotone_collapse {first last : Nat} (ordered : first ≤ last) :
    Monotone (collapse first last) := by
  intro left right below
  rw [collapse, collapse]
  split <;> split <;> omega

theorem Orderly.insert (orderly : surface.Orderly) (position : Position) (text : Text) :
    (surface.insert position text).Orderly :=
  orderly.replaceText (insert_moves surface (surface.offsetOf position) text)
    (monotone_spreadStart _ _) (monotone_spreadStop _ _) _

theorem Orderly.delete (orderly : surface.Orderly) (start stop : Position) :
    (surface.delete start stop).Orderly := by
  by_cases ordered : surface.offsetOf start < surface.offsetOf stop
  · have monotone := monotone_collapse (Nat.le_of_lt ordered)
    rw [delete_of_lt ordered]
    exact orderly.replaceText
      (delete_moves surface _ (offsetOf_le_length orderly.nonempty stop)) monotone monotone _
  · rwa [delete_of_le (Nat.not_lt.mp ordered)]

theorem Orderly.setContent (surface : Surface) (text : Text) :
    (surface.setContent text).Orderly where
  toLined := lined_of_lines_eq rfl
  placed edited member := by
    obtain ⟨tag, -, rfl⟩ := List.mem_map.mp member
    exact .nil

/-! ### Tag operations -/

/-- Cutting between two places keeps ranges ascending and inside the text. -/
theorem Placed.cutRanges {ranges : List TagRange} (placed : surface.Placed ranges)
    {start stop : Position} (startInside : surface.Inside start)
    (stopInside : surface.Inside stop) : surface.Placed (Tag.cutRanges start stop ranges) where
  ascending := Tag.ascending_cutRanges placed.ascending start stop
  inside piece member := by
    obtain ⟨range, held, -, pieceStart, pieceStop⟩ := Tag.of_mem_cutRanges placed.ascending member
    have inside := placed.inside range held
    constructor
    · rcases pieceStart with same | same <;> rw [same]
      exacts [inside.1, stopInside]
    · rcases pieceStop with same | same <;> rw [same]
      exacts [inside.2, startInside]

/-- Adding a range between two places keeps ranges ascending and inside the text. -/
theorem Placed.addRange {ranges : List TagRange} (placed : surface.Placed ranges)
    {range : TagRange} (startInside : surface.Inside range.start)
    (stopInside : surface.Inside range.stop) (nonempty : range.start < range.stop) :
    surface.Placed (Tag.addRange range ranges) where
  ascending := Tag.ascending_addRange placed.ascending nonempty
  inside held member := by
    rcases (Tag.mem_addRange_of_ascending placed.ascending).mp member with rfl | piece
    · exact ⟨startInside, stopInside⟩
    · exact (placed.cutRanges startInside stopInside).inside held piece

/-- New tags on the same lines are as orderly as their ranges. -/
theorem Orderly.retag (orderly : surface.Orderly) {next : Surface}
    (sameLines : next.lines = surface.lines)
    (placed : ∀ tag ∈ next.tags, surface.Placed tag.ranges) : next.Orderly where
  nonempty := sameLines ▸ orderly.nonempty
  newlineFree := sameLines ▸ orderly.newlineFree
  placed tag member := by
    refine ⟨(placed tag member).ascending, fun range held => ?_⟩
    rw [inside_congr sameLines, inside_congr sameLines]
    exact (placed tag member).inside range held

/-- A change of one tag keeps all ranges in order if it keeps those of that tag. -/
theorem Orderly.updateTag (orderly : surface.Orderly) {next : Surface}
    (sameLines : next.lines = surface.lines) {name : String} {change : Tag → Tag}
    (changed : next.tags = Surface.updateTag name change surface.tags)
    (keeps : ∀ tag : Tag, surface.Placed tag.ranges → surface.Placed (change tag).ranges) :
    next.Orderly := by
  refine orderly.retag sameLines fun tag member => ?_
  rw [changed] at member
  rcases mem_updateTag member with old | ⟨tag, old | rfl, -, rfl⟩
  · exact orderly.placed tag old
  · exact keeps tag (orderly.placed tag old)
  · exact keeps { name } .nil

theorem Orderly.tagAdd (orderly : surface.Orderly) (name : String) (start stop : Position) :
    (surface.tagAdd name start stop).Orderly := by
  refine orderly.updateTag rfl rfl fun tag placed => ?_
  split
  next nonempty =>
    exact placed.addRange (inside_clamp orderly.nonempty start)
      (inside_clamp orderly.nonempty stop) nonempty
  next => exact placed

theorem Orderly.tagRemove (orderly : surface.Orderly) (name : String) (start stop : Position) :
    (surface.tagRemove name start stop).Orderly := by
  refine orderly.retag rfl fun removed member => ?_
  obtain ⟨tag, old, rfl⟩ := List.mem_map.mp member
  split
  next =>
    exact (orderly.placed tag old).cutRanges (inside_clamp orderly.nonempty start)
      (inside_clamp orderly.nonempty stop)
  next => exact orderly.placed tag old

theorem Orderly.tagDelete (orderly : surface.Orderly) (name : String) :
    (surface.tagDelete name).Orderly :=
  orderly.retag rfl fun tag member => orderly.placed tag (List.mem_filter.mp member).1

theorem Orderly.tagConfigure (orderly : surface.Orderly) (name : String)
    (directive : StyleDirective) : (surface.tagConfigure name directive).Orderly :=
  orderly.updateTag rfl rfl fun _ placed => placed

/-! ### Runs -/

/-- Every operation keeps ranges ascending and inside the text. -/
theorem Orderly.apply (orderly : surface.Orderly) (operation : Operation) :
    (surface.apply operation).Orderly := by
  cases operation with
  | insert position text => exact orderly.insert position text
  | delete start stop => exact orderly.delete start stop
  | setContent text => exact .setContent surface text
  | setCursor position => exact orderly.retag rfl orderly.placed
  | tagAdd name start stop => exact orderly.tagAdd name start stop
  | tagRemove name start stop => exact orderly.tagRemove name start stop
  | tagDelete name => exact orderly.tagDelete name
  | tagConfigure name directive => exact orderly.tagConfigure name directive

/-- A sequence of operations keeps ranges ascending and inside the text. -/
theorem Orderly.run (orderly : surface.Orderly) (operations : List Operation) :
    (surface.run operations).Orderly := by
  induction operations generalizing surface with
  | nil => exact orderly
  | cons operation later inductionHypothesis => exact inductionHypothesis (orderly.apply operation)

/-- Any sequence of operations leads from a reachable surface to a reachable surface. -/
theorem Reachable.run_anything (reachable : Reachable Anything surface)
    (operations : List Operation) : Reachable Anything (surface.run operations) := by
  induction operations generalizing surface with
  | nil => exact reachable
  | cons operation later inductionHypothesis =>
      exact inductionHypothesis (.step operation reachable trivial)

/-- After every run of operations, ranges ascend and lie in the text. -/
theorem Orderly.of_reachable (reachable : Reachable Anything surface) : surface.Orderly := by
  induction reachable with
  | empty => exact (Valid.ofText []).orderly
  | ofText text => exact (Valid.ofText text).orderly
  | step operation prior admitted orderly => exact orderly.apply operation

end Highlighter.Surface
