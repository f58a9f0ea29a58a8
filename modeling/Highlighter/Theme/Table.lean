import Highlighter.Style.Directive
import Highlighter.Theme.Basic
import Highlighter.Token.Kind

/-!
# Which kinds are styled

The table of token kinds that have a style, and how a kind outside the table finds one: from
the nearest enclosing kind in the table.
-/

namespace Highlighter

/-- A token kind with its style. -/
structure StyleRow where
  /-- The name of the kind, which is also the name of its tag. -/
  kind : String
  /-- The role that gives the foreground color. -/
  role : Option Role := none
  font : Option FontVariant := none
  deriving DecidableEq, Repr

namespace StyleRow

/-- A row that sets the color of a role. -/
def colored (kind : String) (role : Role) : StyleRow :=
  { kind, role := some role }

/-- A row that sets a font variant. -/
def lettered (kind : String) (font : FontVariant) : StyleRow :=
  { kind, font := some font }

/-- A row that changes nothing. -/
def plain (kind : String) : StyleRow :=
  { kind }

/-- The directive of the row under a theme. -/
def directive (row : StyleRow) (theme : Theme) : StyleDirective where
  foreground := row.role.map theme.color
  font := row.font

end StyleRow

namespace StyleTable

/-- Every token kind with a style. -/
def rows : List StyleRow := [
  .colored "Comment" .comment,
  .colored "Comment.Single" .comment,
  .colored "Comment.Multiline" .comment,
  .colored "Comment.Preproc" .comment,
  .colored "Comment.PreprocFile" .comment,
  .colored "Literal.String" .string,
  .colored "Literal.String.Char" .string,
  .colored "Literal.String.Single" .string,
  .colored "Literal.String.Double" .string,
  .colored "Literal.String.Interpol" .string,
  .colored "Literal.String.Affix" .function,
  .colored "Literal.Number" .number,
  .colored "Literal.Number.Integer" .number,
  .colored "Literal.Number.Float" .number,
  .colored "Literal.Number.Oct" .number,
  .colored "Literal.Scalar.Plain" .number,
  .colored "Keyword" .keyword,
  .colored "Keyword.Type" .keyword,
  .colored "Keyword.Declaration" .keyword,
  .colored "Keyword.Reserved" .keyword,
  .colored "Keyword.Namespace" .namespaceName,
  .colored "Keyword.Constant" .number,
  .colored "Operator" .operator,
  .colored "Operator.Word" .operator,
  .colored "Punctuation.Indicator" .function,
  .colored "Name.Class" .object,
  .colored "Name.Function" .object,
  .colored "Name.Function.Magic" .function,
  .colored "Name.Builtin" .function,
  .colored "Name.Builtin.Pseudo" .classSelf,
  .colored "Name.Attribute" .function,
  .colored "Name.Decorator" .number,
  .colored "Name.Tag" .namespaceName,
  .colored "Name.Label" .classSelf,
  .lettered "Generic.Emph" .italic,
  .lettered "Generic.Strong" .bold,
  .lettered "Generic.Heading" .heading,
  .lettered "Generic.Subheading" .subheading,
  .plain "Text.Whitespace"]

/-- The row of exactly this kind. -/
def find? (kind : String) : Option StyleRow :=
  rows.find? (·.kind == kind)

/-- The kinds of the table with their directives under a theme. -/
def directives (theme : Theme) : List (String × StyleDirective) :=
  rows.map fun row => (row.kind, row.directive theme)

end StyleTable

/-- How a token kind finds its style. -/
inductive Resolution where
  /-- The kind is in the table. -/
  | exact (directive : StyleDirective)
  /-- The nearest enclosing kind in the table gives the style. -/
  | inherited (ancestor : String) (directive : StyleDirective)
  /-- No kind of the chain is in the table. -/
  | unstyled
  deriving DecidableEq, Repr

/-- The directive that was found. -/
def Resolution.directive? : Resolution → Option StyleDirective
  | .exact directive | .inherited _ directive => some directive
  | .unstyled => none

namespace Theme

/-- Find the style of a kind: its own row, or that of the nearest enclosing kind with one. -/
def resolve (theme : Theme) (kind : TokenKind) : Resolution :=
  match StyleTable.find? kind.name with
  | some row => .exact (row.directive theme)
  | none =>
    match kind.ancestors.findSome? StyleTable.find? with
    | some row => .inherited row.kind (row.directive theme)
    | none => .unstyled

/-- The directive of a kind, if it finds one. -/
def directive? (theme : Theme) (kind : TokenKind) : Option StyleDirective :=
  (theme.resolve kind).directive?

end Theme

end Highlighter
