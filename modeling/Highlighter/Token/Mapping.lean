import Highlighter.Token.Basic
import Highlighter.Token.Span

/-!
# From tokens to spans

A token stream is laid onto a buffer by walking over its lexemes from a first position. Empty
lexemes leave no span. A stream that is checked against the text it was made from stops where
it departs from that text, so nothing behind that place is ever classified.
-/

namespace Highlighter

/-- The outcome of laying a token stream onto the text it was made from. -/
structure Mapping where
  /-- The spans in buffer order. -/
  spans : List Span
  /-- The place behind the last lexeme that was laid. -/
  stop : Position
  /-- Whether the stream gave back the whole text. -/
  complete : Bool
  deriving DecidableEq, Repr

namespace Mapping

/-- The spans of a token stream laid from `position` on. -/
def spansFrom (position : Position) : List Token → List Span
  | [] => []
  | token :: tokens =>
    if token.text.isEmpty then spansFrom position tokens
    else
      let stop := position.advancedBy token.text
      ⟨position, stop, token.kind⟩ :: spansFrom stop tokens

/-- Lay a token stream from `position` on, as long as its lexemes agree with `source`. -/
def ofTokens (position : Position) (source : Text) : List Token → Mapping
  | [] => { spans := [], stop := position, complete := source.isEmpty }
  | token :: tokens =>
    if token.text.isEmpty then ofTokens position source tokens
    else if token.text.isPrefixOf source then
      let stop := position.advancedBy token.text
      let others := ofTokens stop (source.drop token.text.length) tokens
      { others with spans := ⟨position, stop, token.kind⟩ :: others.spans }
    else { spans := [], stop := position, complete := false }

end Mapping

end Highlighter
