/-!
# Color roles

A theme gives a color to each of fourteen roles. The order of `Role.all` is the order in which
a theme is read and written.
-/

namespace Highlighter

/-- What a color of a theme is for. -/
inductive Role where
  | comment
  | string
  | number
  | keyword
  | operator
  | function
  | classSelf
  | namespaceName
  | object
  /-- Text without a style of its own. -/
  | font
  | selection
  | background
  | menuActiveBackground
  | menuActiveForeground
  deriving DecidableEq, Repr

namespace Role

/-- Every role in the order of theme files. -/
def all : List Role := [
  .comment, .string, .number, .keyword, .operator, .function, .classSelf, .namespaceName,
  .object, .font, .selection, .background, .menuActiveBackground, .menuActiveForeground]

/-- The key of a role in theme files. -/
def key : Role → String
  | .comment => "comment_color"
  | .string => "string_color"
  | .number => "number_color"
  | .keyword => "keyword_color"
  | .operator => "operator_color"
  | .function => "function_color"
  | .classSelf => "class_self_color"
  | .namespaceName => "namespace_color"
  | .object => "object_color"
  | .font => "font_color"
  | .selection => "selection_color"
  | .background => "bg_color"
  | .menuActiveBackground => "menu_bg_active"
  | .menuActiveForeground => "menu_fg_active"

end Role

end Highlighter
