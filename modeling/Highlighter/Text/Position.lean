import Highlighter.Text.Basic

/-!
# Positions

A position addresses a place in a buffer by its line, counted from one, and its column, counted
from zero in characters. Positions are ordered by line first and by column within a line.
-/

namespace Highlighter

/-- A place in a buffer. -/
structure Position where
  /-- The line, counted from one. -/
  line : Nat
  /-- The number of characters before the place on its line. -/
  column : Nat
  deriving DecidableEq, Repr

namespace Position

/-- The first place of every buffer. -/
def start : Position := ⟨1, 0⟩

/-- The first place of a line. -/
def lineStart (line : Nat) : Position := ⟨line, 0⟩

instance : LT Position where
  lt left right := left.line < right.line ∨ (left.line = right.line ∧ left.column < right.column)

instance : LE Position where
  le left right := left.line < right.line ∨ (left.line = right.line ∧ left.column ≤ right.column)

instance (left right : Position) : Decidable (left < right) :=
  inferInstanceAs (Decidable (_ ∨ _))

instance (left right : Position) : Decidable (left ≤ right) :=
  inferInstanceAs (Decidable (_ ∨ _))

instance : Min Position where
  min left right := if left ≤ right then left else right

instance : Ord Position where
  compare left right := (compare left.line right.line).then (compare left.column right.column)

/-- The place reached by walking over a text from here: a newline leads to the first column of
the next line, and every other character leads one column further. -/
def advancedBy (position : Position) (text : Text) : Position :=
  if text.contains '\n' then
    ⟨position.line + text.count '\n', (text.reverse.takeWhile (· != '\n')).length⟩
  else ⟨position.line, position.column + text.length⟩

/-- Line and column with a point between them. -/
def display (position : Position) : String :=
  toString position.line ++ "." ++ toString position.column

/-- The place with both counts reduced to 64 bits, the form in which places are exchanged with
other programs. -/
def toWords (position : Position) : Position :=
  ⟨position.line % UInt64.size, position.column % UInt64.size⟩

end Position

end Highlighter
