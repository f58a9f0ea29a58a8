import Highlighter.Grammar.Basic

/-!
# Shared rules

Numbers, operators, punctuation, names and white space are alike in the languages that write blocks
in braces.
-/

namespace Highlighter.Language

/-- Add the rules for numbers, operators, punctuation, names and white space. -/
def withCommonRules (grammar : Grammar) : Grammar :=
  grammar
    |>.pattern "hex" r"\b0[xX][0-9a-fA-F_]+[uUlL]*\b" "Literal.Number.Hex" 65
    |>.pattern "binary" r"\b0[bB][01_]+[uUlL]*\b" "Literal.Number.Bin" 65
    |>.pattern "float" r"\b\d[\d_]*\.\d[\d_]*(?:[eE][+-]?\d+)?[fFdD]?\b" "Literal.Number.Float" 64
    |>.pattern "integer" r"\b\d[\d_]*[uUlL]*\b" "Literal.Number.Integer" 63
    |>.pattern "operator" r"[+\-*/%&|^!<>=~?]+" "Operator" 40
    |>.pattern "punctuation" "[()\\[\\]\x7b\x7d,;:.]" "Punctuation" 30
    |>.pattern "name" "[\\p\x7bL\x7d_][\\p\x7bL\x7d\\p\x7bN\x7d_]*" "Name" 10
    |>.pattern "whitespace" r"\s+" "Text.Whitespace" 5

end Highlighter.Language
