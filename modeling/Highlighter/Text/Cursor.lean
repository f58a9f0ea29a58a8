import Highlighter.Text.Basic

/-!
# Cursors

A cursor is a place in a text as a search sees it: how many characters lie before the place,
the last of them, and everything that follows. A search that starts inside a text still sees
the character before it, which decides word boundaries and line starts.
-/

namespace Highlighter

/-- A place in a text. -/
structure Cursor where
  /-- The number of characters before the place. -/
  offset : Nat
  /-- The last character before the place. -/
  before : Option Char
  /-- The text from the place on. -/
  rest : Text
  deriving DecidableEq, Repr

/-- The part of a text from the offset `start` to the offset `stop`. -/
structure Extent where
  start : Nat
  stop : Nat
  deriving DecidableEq, Repr

namespace Cursor

/-- The place before the first character. -/
def start (text : Text) : Cursor :=
  { offset := 0, before := none, rest := text }

/-- The place `count` characters further on, at most the end of the text. -/
def advance (cursor : Cursor) (count : Nat) : Cursor :=
  match count, cursor.rest with
  | 0, _ | _, [] => cursor
  | count + 1, c :: rest => advance { offset := cursor.offset + 1, before := some c, rest } count

/-- The place after `offset` characters of a text. -/
def atOffset (text : Text) (offset : Nat) : Cursor :=
  (start text).advance offset

/-- The same place when the text ends at the offset `limit`. -/
def upTo (cursor : Cursor) (limit : Nat) : Cursor :=
  { cursor with rest := cursor.rest.take (limit - cursor.offset) }

/-- The offset of the end of the text. -/
def limit (cursor : Cursor) : Nat :=
  cursor.offset + cursor.rest.length

end Cursor

end Highlighter
