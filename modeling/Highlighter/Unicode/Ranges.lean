/-!
# Sorted ranges of code points

Character properties are given as sorted, disjoint ranges of code points. This module
holds the one search that all property tables share, so a table is only data. Unless a module
says otherwise, its tables follow version 16 of the Unicode standard.
-/

namespace Highlighter.Unicode

/-- Closed ranges of code points, ascending and disjoint. -/
abbrev Ranges := Array (Nat × Nat)

namespace Ranges

/-- Binary search among the ranges with index in `[low, high)`. Each step halves that window,
so `steps` equal to the number of ranges is always enough. -/
def search (ranges : Ranges) (code : Nat) : (steps low high : Nat) → Option (Nat × Nat)
  | 0, _, _ => none
  | steps + 1, low, high =>
    if low < high then
      let middle := (low + high) / 2
      match ranges[middle]? with
      | none => none
      | some (first, last) =>
        if code < first then search ranges code steps low middle
        else if last < code then search ranges code steps (middle + 1) high
        else some (first, last)
    else none

/-- The range that holds `code`, if there is one. -/
def find? (ranges : Ranges) (code : Nat) : Option (Nat × Nat) :=
  search ranges code ranges.size 0 ranges.size

/-- Whether `code` lies in one of the ranges. -/
def contains (ranges : Ranges) (code : Nat) : Bool :=
  (ranges.find? code).isSome

/-- Whether `code` lies in one of the ranges at an even distance from its start. The
alternating ranges of upper-case and lower-case letters are read this way. -/
def containsAlternate (ranges : Ranges) (code : Nat) : Bool :=
  match ranges.find? code with
  | some (first, _) => (code - first) % 2 == 0
  | none => false

end Ranges

/-- Ranges of code points that move as a block: first, last, and the image of the first. -/
abbrev Shifts := Array (Nat × Nat × Nat)

namespace Shifts

/-- The image of `code`, if one of the blocks holds it. -/
def image? (shifts : Shifts) (code : Nat) : Option Nat :=
  (shifts.find? fun (first, last, _) => first ≤ code && code ≤ last).map
    fun (first, _, target) => target + (code - first)

/-- Every code point whose image is `code`. -/
def preimages (shifts : Shifts) (code : Nat) : List Nat :=
  shifts.toList.filterMap fun (first, last, target) =>
    if target ≤ code && code - target ≤ last - first then some (first + (code - target)) else none

end Shifts

end Highlighter.Unicode
