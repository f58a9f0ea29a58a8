import Highlighter.Surface.Basic

/-!
# Editing a surface

Tags follow the text they cover. Text inserted inside a range extends it, text inserted at an
end of a range stays outside, and deleting text shrinks or removes the ranges it overlaps.
-/

namespace Highlighter.Surface

/-- The offset at which each line starts, for lines of which the first starts at `offset`. -/
def lineStartsFrom (offset : Nat) : List Text → List Nat
  | [] => []
  | line :: others => offset :: lineStartsFrom (offset + (line.length + 1)) others

/-- The offset at which each line starts. -/
def lineStarts (surface : Surface) : List Nat :=
  lineStartsFrom 0 surface.lines

/-- The offset of a place in the text. -/
def offsetIn (starts : List Nat) (position : Position) : Nat :=
  (starts[position.line - 1]?).getD 0 + position.column

/-- The place at an offset, at most `finish`. -/
def positionAt (starts : List Nat) (finish : Position) (offset : Nat) : Position :=
  let line := (starts.takeWhile (· ≤ offset)).length
  min ⟨line, offset - (starts[line - 1]?).getD 0⟩ finish

/-- The ranges that were made over one text, brought over to another one. The start and the end
of each range move as the two functions say, and ranges that become empty are dropped. -/
def moveRanges (old new : Surface) (moveStart moveStop : Nat → Nat) (ranges : List TagRange) :
    List TagRange :=
  let oldStarts := old.lineStarts
  let newStarts := new.lineStarts
  let finish := new.finish
  ranges.filterMap fun range =>
    let start := moveStart (offsetIn oldStarts range.start)
    let stop := moveStop (offsetIn oldStarts range.stop)
    if start < stop then
      some
        { start := positionAt newStarts finish start
          stop := positionAt newStarts finish stop
          stamp := range.stamp }
    else none

/-- Replace the text, with all ranges moved and the cursor behind the first `cursor`
characters. -/
def replaceText (surface : Surface) (text : Text) (moveStart moveStop : Nat → Nat)
    (cursor : Nat) : Surface :=
  let edited := { surface with lines := text.lines }
  let tags := surface.tags.map fun tag =>
    { tag with ranges := moveRanges surface edited moveStart moveStop tag.ranges }
  { edited with tags, cursor := edited.positionOf cursor }

/-- Insert a text at a position, and leave the cursor behind it. -/
def insert (surface : Surface) (position : Position) (text : Text) : Surface :=
  let place := surface.offsetOf position
  let content := surface.content
  surface.replaceText (content.take place ++ text ++ content.drop place)
    (fun offset => if place ≤ offset then offset + text.length else offset)
    (fun offset => if place < offset then offset + text.length else offset)
    (place + text.length)

/-- Delete the text between two positions, and leave the cursor there. Nothing happens if there
is no text between them. -/
def delete (surface : Surface) (start stop : Position) : Surface :=
  let first := surface.offsetOf start
  let last := surface.offsetOf stop
  if first < last then
    let content := surface.content
    let move offset := if last ≤ offset then offset - (last - first) else min offset first
    surface.replaceText (content.take first ++ content.drop last) move move first
  else surface

/-- Replace the whole text. Tags keep their directives and lose their ranges. -/
def setContent (surface : Surface) (text : Text) : Surface :=
  { surface with
    lines := text.lines
    tags := surface.tags.map fun tag => { tag with ranges := [] }
    cursor := .start }

end Highlighter.Surface
