import Highlighter.Text.Position
import Highlighter.Token.Kind

/-!
# Spans

A span is a range of a buffer, given by two positions, together with the kind of what it holds.
-/

namespace Highlighter

/-- A classified range of a buffer. -/
structure Span where
  /-- The first place of the range. -/
  start : Position
  /-- The place right behind the range. -/
  stop : Position
  kind : TokenKind
  deriving DecidableEq, Repr

namespace Span

/-- Whether a position lies in the range. -/
def contains (span : Span) (position : Position) : Bool :=
  span.start ≤ position && position < span.stop

/-- Whether the range holds nothing. -/
def isEmpty (span : Span) : Bool :=
  span.stop ≤ span.start

end Span

end Highlighter
