import Highlighter.Pattern.Search
import Highlighter.Token.Kind

/-!
# Lexical rules

A pattern rule classifies one match of a pattern. A region rule classifies everything from an
opening match to a closing one, as strings and block comments need.
-/

namespace Highlighter

/-- A rule that classifies the nonempty matches of one pattern. -/
structure PatternRule where
  name : String
  pattern : Pattern
  kind : TokenKind
  /-- Rules of higher priority are tried first. -/
  priority : Int
  deriving DecidableEq, Repr

namespace PatternRule

/-- A rule for the pattern that `pattern` writes, if it writes one. -/
def make? (name pattern : String) (kind : TokenKind) (priority : Int) : Option PatternRule :=
  (Pattern.compile? pattern).map fun pattern => { name, pattern, kind, priority }

/-- The first nonempty match at or after the cursor. -/
def find? (rule : PatternRule) (cursor : Cursor) : Option Extent :=
  rule.pattern.findNonempty? cursor

end PatternRule

/-- A rule that classifies a delimited region. -/
structure RegionRule where
  name : String
  /-- The pattern that opens the region. -/
  opening : Pattern
  /-- The pattern that closes the region. -/
  closing : Pattern
  kind : TokenKind
  /-- An odd run of this character right before a closing match disables that match. -/
  escape : Option Char := none
  /-- Whether the region is confined to one line. -/
  singleLine : Bool := false
  deriving DecidableEq, Repr

namespace RegionRule

/-- A rule for the patterns that `opening` and `closing` write, if both write one. -/
def make? (name opening closing : String) (kind : TokenKind) (escape : Option Char := none)
    (singleLine : Bool := false) : Option RegionRule := do
  let opening ← Pattern.compile? opening
  let closing ← Pattern.compile? closing
  return { name, opening, closing, kind, escape, singleLine }

/-- The first nonempty opening match at or after the cursor. -/
def findStart? (rule : RegionRule) (cursor : Cursor) : Option Extent :=
  rule.opening.findNonempty? cursor

/-- The offset that a region with its body at the cursor does not go beyond: the end of the
text, or of the line if the region is confined to one. -/
def limit (rule : RegionRule) (body : Cursor) : Nat :=
  if rule.singleLine then body.offset + (body.rest.takeWhile (· != '\n')).length else body.limit

/-- Whether an odd run of the escape character ends right before the offset `start`. Only
characters of the body count. -/
def isEscaped (rule : RegionRule) (body : Cursor) (start : Nat) : Bool :=
  match rule.escape with
  | none => false
  | some escape =>
    let run := (body.rest.take (start - body.offset)).reverse.takeWhile (· == escape)
    run.length % 2 == 1

/-- Look for the closing match at or after the cursor, and after each one that is escaped look
again behind it. Every round starts at a later offset, so `rounds` equal to the number of
offsets from the body to its limit is always enough. -/
def findEndFrom (rule : RegionRule) (body : Cursor) : (rounds : Nat) → Cursor → Nat
  | 0, cursor => cursor.limit
  | rounds + 1, cursor =>
    match rule.closing.find? cursor with
    | none => cursor.limit
    | some closing =>
      if rule.isEscaped body closing.start then
        let resume := max closing.stop (closing.start + 1)
        if resume ≤ cursor.limit then
          findEndFrom rule body rounds (cursor.advance (resume - cursor.offset))
        else cursor.limit
      else closing.stop

/-- The offset where a region with its body at the cursor ends: just past the closing match, or
at the limit if there is none. -/
def findEnd (rule : RegionRule) (body : Cursor) : Nat :=
  let body := body.upTo (rule.limit body)
  rule.findEndFrom body (body.rest.length + 1) body

end RegionRule

/-- A rule of a grammar. -/
inductive Rule where
  | region (rule : RegionRule)
  | pattern (rule : PatternRule)
  deriving DecidableEq, Repr

namespace Rule

/-- The kind of the tokens that the rule yields. -/
def kind : Rule → TokenKind
  | .region rule => rule.kind
  | .pattern rule => rule.kind

/-- The first place at or after the cursor where the rule applies. -/
def find? : Rule → Cursor → Option Extent
  | .region rule, cursor => rule.findStart? cursor
  | .pattern rule, cursor => rule.find? cursor

/-- The end of the token that begins with the match `opening` found from the cursor. -/
def tokenEnd : Rule → Cursor → (opening : Extent) → Nat
  | .region rule, cursor, opening => rule.findEnd (cursor.advance (opening.stop - cursor.offset))
  | .pattern _, _, opening => opening.stop

end Rule

end Highlighter
