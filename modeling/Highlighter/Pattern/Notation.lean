import Highlighter.Pattern.Symbol

/-!
# From symbols to expressions

Symbols are assembled from left to right with a stack of open groups. The step function treats
one symbol, so a whole pattern is one fold over its symbols.
-/

namespace Highlighter

namespace Expr

/-- An expression with the depth to which brackets, repetitions, sequences and alternatives are
nested in its notation. -/
structure Nested where
  expr : Expr
  depth : Nat := 0
  deriving DecidableEq, Repr

namespace Nested

/-- The depth of a row of parts. A row counts as nesting if it has several parts. -/
def rowDepth (depths : List Nat) : Nat :=
  let deepest := depths.foldl max 0
  if depths.length ≤ 1 then deepest else deepest + 1

end Nested

/-- The content of a group whose closing bracket has not been met. -/
structure OpenGroup where
  flags : PatternFlags
  /-- Whether the group is numbered or named. -/
  captures : Bool := false
  /-- Finished alternatives, the last one first. -/
  alternatives : List Nested := []
  /-- The parts of the current alternative, the last one first. A `none` stands where switches
  were set: nothing is matched there, and nothing there can be repeated. -/
  parts : List (Option Nested) := []

namespace OpenGroup

/-- The current alternative as one expression. -/
def currentAlternative (group : OpenGroup) : Nested where
  expr :=
    sequence ((group.parts.reverse.filterMap fun part => part.map (·.expr)).filter (· != .empty))
  depth := Nested.rowDepth (group.parts.map fun part => (part.map (·.depth)).getD 0)

/-- All alternatives as one expression. -/
def content (group : OpenGroup) : Nested :=
  let all := (group.currentAlternative :: group.alternatives).reverse
  { expr := Expr.alternatives (all.map (·.expr)), depth := Nested.rowDepth (all.map (·.depth)) }

/-- The whole group as one expression. -/
def close (group : OpenGroup) : Nested :=
  let content := group.content
  { expr := if group.captures then .group content.expr else content.expr
    depth := content.depth + 1 }

/-- Append a part to the current alternative. -/
def add (group : OpenGroup) (part : Nested) : OpenGroup :=
  { group with parts := some part :: group.parts }

/-- Append a set, read without regard to case if the switch says so. -/
def addSet (group : OpenGroup) (set : CharSet) (depth : Nat) : OpenGroup :=
  group.add { expr := .char (if group.flags.ignoreCase then set.ignoringCase else set), depth }

/-- Start the next alternative. -/
def nextAlternative (group : OpenGroup) : OpenGroup :=
  { group with alternatives := group.currentAlternative :: group.alternatives, parts := [] }

end OpenGroup

/-- The groups open at a place of the pattern, and the group names met so far. -/
structure Assembly where
  group : OpenGroup
  /-- The groups that enclose `group`, innermost first. -/
  outer : List OpenGroup := []
  names : List String := []

namespace Assembly

/-- Change the innermost group. -/
def update (assembly : Assembly) (change : OpenGroup → OpenGroup) : Assembly :=
  { assembly with group := change assembly.group }

/-- Open a group with its switches inside the innermost one. -/
def enter (assembly : Assembly) (flags : PatternFlags) (captures : Bool) : Assembly :=
  { assembly with group := { flags, captures }, outer := assembly.group :: assembly.outer }

/-- Take in one symbol. -/
def step (assembly : Assembly) : PatternSymbol → Except PatternError Assembly
  | .char c => .ok (assembly.update (·.addSet (.single c) 0))
  | .oneOf set depth => .ok (assembly.update (·.addSet set depth))
  | .dot =>
    .ok (assembly.update fun group =>
      group.add { expr := .char (if group.flags.dotMatchesNewline then .any else .notNewline) })
  | .caret =>
    .ok (assembly.update fun group =>
      group.add { expr := .edge (if group.flags.multiLine then .lineStart else .textStart) })
  | .dollar =>
    .ok (assembly.update fun group =>
      group.add { expr := .edge (if group.flags.multiLine then .lineEnd else .textEnd) })
  | .edge place => .ok (assembly.update (·.add { expr := .edge place }))
  | .repetition least most greedy =>
    match assembly.group.parts with
    | some part :: parts =>
      let greedy := greedy != assembly.group.flags.swapGreed
      let part : Nested :=
        { expr := part.expr.repeated least most greedy, depth := part.depth + 1 }
      .ok { assembly with group := { assembly.group with parts := some part :: parts } }
    | _ => .error .nothingToRepeat
  | .bar => .ok (assembly.update (·.nextAlternative))
  | .openGroup kind =>
    match kind with
    | .plain changes => .ok (assembly.enter (assembly.group.flags.apply changes) false)
    | .numbered => .ok (assembly.enter assembly.group.flags true)
    | .named name =>
      if assembly.names.contains name then .error .badGroupName
      else
        .ok { assembly.enter assembly.group.flags true with names := name :: assembly.names }
  | .closeGroup =>
    match assembly.outer with
    | [] => .error .unopenedGroup
    | parent :: outer =>
      .ok { assembly with group := parent.add assembly.group.close, outer }
  | .flags changes =>
    .ok (assembly.update fun group =>
      { group with flags := group.flags.apply changes, parts := none :: group.parts })

end Assembly

/-- The greatest depth to which a pattern may be nested. -/
def maxDepth : Nat := 250

/-- The expression that the symbols write. -/
def ofSymbols (symbols : List PatternSymbol) : Except PatternError Expr := do
  let start : Assembly := { group := { flags := {} } }
  let assembly ← symbols.foldlM Assembly.step start
  let content := assembly.group.content
  if !assembly.outer.isEmpty then .error .unclosedGroup
  else if content.depth > maxDepth then .error .tooDeep
  else .ok content.expr

/-- The expression that a text writes in the pattern notation. -/
def ofText (text : List Char) : Except PatternError Expr := do
  ofSymbols (← PatternSymbol.ofText text)

end Expr

end Highlighter
