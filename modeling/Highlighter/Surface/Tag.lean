import Highlighter.Style.Directive
import Highlighter.Text.Position

/-!
# Tags and their ranges

A tag covers ranges of a text. The starts of its ranges ascend, and so do their ends, so the
ranges that end before a place and the ranges that start before it are both found at the front.
Ranges overlap only where a tag was removed from a reversed range.
-/

namespace Highlighter

/-- A range that a tag covers. -/
structure TagRange where
  start : Position
  /-- The place right behind the range. -/
  stop : Position
  /-- The number of the addition that made the range. -/
  stamp : Nat
  deriving DecidableEq, Repr

/-- A named tag. -/
structure Tag where
  name : String
  directive : Option StyleDirective := none
  /-- The ranges in ascending order. -/
  ranges : List TagRange := []
  deriving DecidableEq, Repr

namespace Tag

/-- Cut the part from `start` to `stop` out of ranges. What is left of a range keeps its stamp. -/
def cutRanges (start stop : Position) (ranges : List TagRange) : List TagRange :=
  let before := ranges.takeWhile (·.stop ≤ start)
  let reached := ranges.takeWhile (·.start < stop)
  let touched := reached.drop before.length
  match touched.head?, touched.getLast? with
  | some first, some last =>
    before
      ++ (if first.start < start then [{ first with stop := start }] else [])
      ++ (if stop < last.stop then [{ last with start := stop }] else [])
      ++ ranges.drop reached.length
  | _, _ => ranges

/-- Add a range in place of everything it overlaps. A range behind all others is appended. -/
def addRange (range : TagRange) (ranges : List TagRange) : List TagRange :=
  match ranges.getLast? with
  | none => [range]
  | some last =>
    if range.start < last.stop then
      let others := cutRanges range.start range.stop ranges
      others.takeWhile (·.start < range.start)
        ++ range :: others.dropWhile (·.start < range.start)
    else ranges ++ [range]

/-- Cut a part out of the ranges of the tag. -/
def cut (tag : Tag) (start stop : Position) : Tag :=
  { tag with ranges := cutRanges start stop tag.ranges }

/-- Add a range to the tag. -/
def add (tag : Tag) (range : TagRange) : Tag :=
  { tag with ranges := addRange range tag.ranges }

/-- The ranges from the first one on that ends behind a position. -/
def rangesAfter (tag : Tag) (position : Position) : List TagRange :=
  tag.ranges.dropWhile (·.stop ≤ position)

/-- Whether the tag covers the character at a position. Only the first range that ends behind
the position is looked at. -/
def covers (tag : Tag) (position : Position) : Bool :=
  (tag.rangesAfter position).head?.any (·.start ≤ position)

end Tag

end Highlighter
