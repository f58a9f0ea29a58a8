import Highlighter.Pattern.CharSet

/-!
# Pattern expressions

What a pattern means, once its notation is read: characters, edges, sequence, ordered choice,
groups and repetition. Counts stay numbers here, so an expression is never much larger than its
notation.
-/

namespace Highlighter

/-- A condition on the place between two characters. -/
inductive Edge where
  /-- Before the first character of the text. -/
  | textStart
  /-- After the last character of the text. -/
  | textEnd
  /-- At the start of the text or after a newline. -/
  | lineStart
  /-- At the end of the text or before a newline. -/
  | lineEnd
  /-- Between a word character and something else. -/
  | wordBoundary
  /-- Between two word characters or two other characters. -/
  | noWordBoundary
  deriving DecidableEq, Repr

namespace Edge

/-- Whether the place between `before` and `after` is a word boundary. The ends of the text
count as characters outside any word. -/
def atWordBoundary (before after : Option Char) : Bool :=
  before.any Unicode.isWord != after.any Unicode.isWord

/-- Whether the condition holds between the characters `before` and `after`, where `none`
stands for an end of the text. -/
def holds (edge : Edge) (before after : Option Char) : Bool :=
  match edge with
  | .textStart => before.isNone
  | .textEnd => after.isNone
  | .lineStart => before.all (· == '\n')
  | .lineEnd => after.all (· == '\n')
  | .wordBoundary => atWordBoundary before after
  | .noWordBoundary => !atWordBoundary before after

end Edge

/-- A pattern expression. Of two ways to match, the first alternative is preferred, and a
greedy repetition prefers another round. -/
inductive Expr where
  | empty
  /-- One character of the set. -/
  | char (set : CharSet)
  | edge (edge : Edge)
  | seq (first second : Expr)
  | choice (first second : Expr)
  /-- A group that is numbered or named. It matches as its body does. -/
  | group (body : Expr)
  /-- Between `least` and `most` times `body`; no upper limit if `most` is `none`. -/
  | repetition (body : Expr) (least : Nat) (most : Option Nat) (greedy : Bool)
  deriving DecidableEq, Repr, Inhabited

namespace Expr

/-- Whether the expression may match without consuming a character. -/
def nullable : Expr → Bool
  | .empty | .edge _ => true
  | .char _ => false
  | .seq first second => first.nullable && second.nullable
  | .choice first second => first.nullable || second.nullable
  | .group body => body.nullable
  | .repetition body least _ _ => least == 0 || body.nullable

/-- Whether the expression never consumes a character. -/
def consumesNothing : Expr → Bool
  | .empty | .edge _ => true
  | .char _ => false
  | .seq first second | .choice first second => first.consumesNothing && second.consumesNothing
  | .group body | .repetition body _ _ _ => body.consumesNothing

/-- The expressions one after the other. -/
def sequence : List Expr → Expr
  | [] => .empty
  | [last] => last
  | first :: rest => .seq first (sequence rest)

/-- The expressions as alternatives, the first preferred. -/
def alternatives : List Expr → Expr
  | [] => .empty
  | [last] => last
  | first :: rest => .choice first (alternatives rest)

/-- Between `least` and `most` times `body`. A body that consumes nothing is never worth a second
round, no round at all is the empty expression, and exactly one round is the body itself. -/
def repeated (body : Expr) (least : Nat) (most : Option Nat) (greedy : Bool) : Expr :=
  let (least, most) :=
    if body.consumesNothing then (min least 1, some ((most.map (min · 1)).getD 1))
    else (least, most)
  match least, most with
  | 0, some 0 => .empty
  | 1, some 1 => body
  | least, most => .repetition body least most greedy

end Expr

end Highlighter
