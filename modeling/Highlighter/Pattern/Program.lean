import Highlighter.Pattern.Notation
import Highlighter.Pattern.Size

/-!
# Pattern programs

An expression is laid out as a graph of nodes. A node reads a character, checks an edge, tries
two nodes in order, or accepts. The layout goes from back to front: `layOut` receives the node
that follows an expression and returns the node that starts it.
-/

namespace Highlighter

/-- One node of a pattern program. The numbers are positions of other nodes. -/
inductive Node where
  /-- Read one character of `set`. -/
  | read (set : CharSet) (next : Nat)
  /-- Go on if the edge holds. -/
  | check (edge : Edge) (next : Nat)
  /-- Try `first`, and `second` after it. -/
  | fork (first second : Nat)
  | accept
  deriving DecidableEq, Repr

/-- The nodes laid out so far. -/
abbrev Nodes := Array Node

namespace Nodes

/-- Append a node; its position comes with the result. -/
def place (nodes : Nodes) (node : Node) : Nat × Nodes :=
  (nodes.size, nodes.push node)

/-- The node that prefers `body` to `next` if greedy, and `next` to `body` otherwise. -/
def preferring (greedy : Bool) (body next : Nat) : Node :=
  if greedy then .fork body next else .fork next body

/-- A way to lay something out in front of the node `next`. The result is the node that starts
it. -/
abbrev Layout := (next : Nat) → Nodes → Nat × Nodes

/-- Lay out `count` copies of a body, one in front of the other. -/
def times (body : Layout) : (count : Nat) → Layout
  | 0, next, nodes => (next, nodes)
  | count + 1, next, nodes =>
    let (start, nodes) := body next nodes
    times body count start nodes

/-- Lay out `count` further rounds of a body in front of `start`, each of which can be left for
the node `exit`. -/
def upTo (body : Layout) (greedy : Bool) (exit : Nat) : (count : Nat) → (start : Nat) → Nodes →
    Nat × Nodes
  | 0, start, nodes => (start, nodes)
  | count + 1, start, nodes =>
    let (inner, nodes) := body start nodes
    let (start, nodes) := nodes.place (preferring greedy inner exit)
    upTo body greedy exit count start nodes

/-- Lay out a body that leads back to a fork, which is reserved before the body is laid out. The
results are the fork and the start of the body. -/
def cycle (body : Layout) (greedy : Bool) (next : Nat) (nodes : Nodes) : Nat × Nat × Nodes :=
  let (again, nodes) := nodes.place .accept
  let (start, nodes) := body again nodes
  (again, start, nodes.setIfInBounds again (preferring greedy start next))

/-- Lay out a repeated body. Without an upper limit it ends in a cycle that has to be run at
least once, or can be left at once. A body that can match the empty text is left after an empty
round, so a cycle around it is run at least once and then offered as an option. -/
def rounds (body : Layout) (nullable : Bool) (least : Nat) (most : Option Nat) (greedy : Bool) :
    Layout := fun next nodes =>
  match least, most with
  | 0, none =>
    let (again, start, nodes) := cycle body greedy next nodes
    if nullable then nodes.place (preferring greedy start next) else (again, nodes)
  | least + 1, none =>
    let (_, start, nodes) := cycle body greedy next nodes
    times body least start nodes
  | least, some most =>
    let (start, nodes) := upTo body greedy next (most - least) next nodes
    times body least start nodes

/-- Lay out an expression. -/
def layOut : Expr → (next : Nat) → Nodes → Nat × Nodes
  | .empty, next, nodes => (next, nodes)
  | .char set, next, nodes => nodes.place (.read set next)
  | .edge edge, next, nodes => nodes.place (.check edge next)
  | .seq first second, next, nodes =>
    let (start, nodes) := layOut second next nodes
    layOut first start nodes
  | .choice first second, next, nodes =>
    let (otherwise, nodes) := layOut second next nodes
    let (preferred, nodes) := layOut first next nodes
    nodes.place (.fork preferred otherwise)
  | .group body, next, nodes => layOut body next nodes
  | .repetition body least most greedy, next, nodes =>
    rounds (layOut body) body.nullable least most greedy next nodes

end Nodes

/-- A pattern ready to be searched for. -/
structure Pattern where
  nodes : Nodes
  start : Nat
  deriving DecidableEq, Repr

namespace Pattern

/-- The program of an expression. -/
def ofExpr (expr : Expr) : Pattern :=
  let (accept, nodes) := Nodes.place #[] .accept
  let (start, nodes) := Nodes.layOut expr accept nodes
  { nodes, start }

/-- The pattern that a text writes, or the reason why it is refused. Counted repetition can make
the program of a short text very large, so the size is judged before anything is laid out. -/
def compile (text : String) : Except PatternError Pattern := do
  let expr ← Expr.ofText text.toList
  if expr.fits then .ok (ofExpr expr) else .error .tooLarge

/-- The pattern that a text writes, if it writes one in the part of the notation that is read. A
text is also refused for the switches `x`, `R` and `u`, for properties besides those of
`PatternSymbol.property?`, and for edges of words besides `\b` and `\B`. -/
def compile? (text : String) : Option Pattern :=
  (compile text).toOption

end Pattern

end Highlighter
