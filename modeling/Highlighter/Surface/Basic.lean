import Highlighter.Surface.Tag

/-!
# Surfaces

A surface is a buffer of lines with a cursor and tags. This module holds the text side: how
positions and character offsets correspond, and how any position is brought into the text.
-/

namespace Highlighter

/-- A text buffer with tags. -/
structure Surface where
  /-- The lines without their newlines; there is at least one. -/
  lines : List Text := [[]]
  cursor : Position := .start
  /-- The tags, the oldest first. -/
  tags : List Tag := []
  /-- The number of tag operations so far. -/
  mutations : Nat := 0
  /-- The stamp of the next addition to a tag. -/
  nextStamp : Nat := 0
  deriving DecidableEq, Repr

namespace Surface

/-- The empty surface. -/
def empty : Surface := {}

/-- The surface that holds a text, without tags. -/
def ofText (text : Text) : Surface :=
  { lines := text.lines }

/-- The whole text. -/
def content (surface : Surface) : Text :=
  Text.ofLines surface.lines

/-- The number of lines. -/
def lineCount (surface : Surface) : Nat :=
  surface.lines.length

/-- The text of a line, counted from one. -/
def line? (surface : Surface) (line : Nat) : Option Text :=
  match line with
  | 0 => none
  | index + 1 => surface.lines[index]?

/-- The length of a line, or zero if there is no such line. -/
def lineLength (surface : Surface) (line : Nat) : Nat :=
  ((surface.line? line).map List.length).getD 0

/-- The place behind the last character of the text. -/
def finish (surface : Surface) : Position :=
  ⟨surface.lineCount, surface.lineLength surface.lineCount⟩

/-- The place behind the last character of a line; for a line that does not exist, the end of
the text. -/
def lineEnd (surface : Surface) (line : Nat) : Position :=
  match surface.line? line with
  | some text => ⟨line, text.length⟩
  | none => surface.finish

/-- The place in the text that is nearest to a position. -/
def clamp (surface : Surface) (position : Position) : Position :=
  if position.line = 0 then .start
  else
    match surface.line? position.line with
    | some text => ⟨position.line, min position.column text.length⟩
    | none => surface.finish

/-- The number of characters in the lines before a line, their newlines included. -/
def lengthBefore (surface : Surface) (line : Nat) : Nat :=
  (surface.lines.take (line - 1)).foldr (fun text length => text.length + 1 + length) 0

/-- The number of characters before a position that is brought into the text. -/
def offsetOf (surface : Surface) (position : Position) : Nat :=
  if position.line = 0 then 0
  else if position.line ≤ surface.lineCount then
    surface.lengthBefore position.line + min position.column (surface.lineLength position.line)
  else surface.lengthBefore surface.lineCount + surface.lineLength surface.lineCount

/-- The place behind the first `offset` characters of lines of which the first has the number
`line`, if they have as many. -/
def positionIn? (line offset : Nat) : List Text → Option Position
  | [] => none
  | text :: others =>
    if offset ≤ text.length then some ⟨line, offset⟩
    else positionIn? (line + 1) (offset - (text.length + 1)) others

/-- The place behind the first `offset` characters, at most the end of the text. -/
def positionOf (surface : Surface) (offset : Nat) : Position :=
  (positionIn? 1 offset surface.lines).getD surface.finish

/-- The place `count` characters behind a position, at most the end of the text. -/
def advance (surface : Surface) (position : Position) (count : Nat) : Position :=
  surface.positionOf (surface.offsetOf position + count)

/-- The `count` characters of lines from the offset `skip` on, newlines between lines included. -/
def sliceLines : (skip count : Nat) → List Text → Text
  | _, _, [] => []
  | skip, count, [line] => (line.drop skip).take count
  | skip, count, line :: others =>
    if skip ≤ line.length then
      let front := ((line ++ ['\n']).drop skip).take count
      front ++ sliceLines 0 (count - front.length) others
    else sliceLines (skip - (line.length + 1)) count others

/-- The text between two positions. -/
def text (surface : Surface) (start stop : Position) : Text :=
  let first := surface.offsetOf start
  let last := surface.offsetOf stop
  if first < last then sliceLines first (last - first) surface.lines else []

/-- Move the cursor to the place nearest to a position. -/
def setCursor (surface : Surface) (position : Position) : Surface :=
  { surface with cursor := surface.clamp position }

end Surface

end Highlighter
