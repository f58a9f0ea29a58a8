import Highlighter.Grammar.Basic

/-!
# Markup and style languages

The grammars of HTML, CSS and Markdown.
-/

namespace Highlighter.Language

/-- HTML, with the delimiters of page templates. A quoted attribute value closes on its own line, so
a stray apostrophe in body text stays plain. -/
def html : Grammar :=
  Grammar.named "HTML"
    |>.region "comment" "<!--" "-->" "Comment.Multiline"
    |>.region "template_comment" "\\\x7b#" "#\\\x7d" "Comment"
    |>.pattern "doctype" "(?i)<!DOCTYPE[^>]*>" "Comment.Preproc" 100
    |>.pattern "open_tag" r"</?[a-zA-Z][\w:-]*" "Name.Tag" 90
    |>.pattern "tag_end" "/?>" "Name.Tag" 85
    |>.pattern "template_tag"
      "\\\x7b%-?|-?%\\\x7d|\\\x7b\\\x7b-?|-?\\\x7d\\\x7d"
      "Comment.Preproc" 80
    |>.pattern "attribute" r"[a-zA-Z_:][\w:.-]*\s*=" "Name.Attribute" 70
    |>.pattern "double_string" "\"[^\"\\n]*\"" "Literal.String.Double" 60
    |>.pattern "single_string" r"'[^'\n]*'" "Literal.String.Single" 60
    |>.pattern "entity" r"&(?:#\d+|#[xX][0-9a-fA-F]+|\w+);" "Name.Entity" 50
    |>.pattern "whitespace" r"\s+" "Text.Whitespace" 5

/-- Style sheets. An indented `name:` is a declaration, while selectors start at the first column;
a newline is a token of its own, so that indentation stays with the declaration. -/
def css : Grammar :=
  Grammar.named "CSS"
    |>.region "comment" r"/\*" r"\*/" "Comment.Multiline"
    |>.string "double_string" "\"" "Literal.String.Double"
    |>.string "single_string" "'" "Literal.String.Single"
    |>.pattern "property" r"(?m)^[ \t]+-?[a-zA-Z][\w-]*\s*:" "Keyword" 100
    |>.pattern "at_rule" r"@[\w-]+" "Keyword.Namespace" 95
    |>.pattern "important" r"!\s*important\b" "Keyword.Constant" 95
    |>.pattern "color" "#[0-9a-fA-F]\x7b3,8\x7d\\b" "Literal.Number.Hex" 90
    |>.pattern "id" r"#[\w-]+" "Name.Namespace" 85
    |>.pattern "class" r"\.[a-zA-Z_][\w-]*" "Name.Class" 85
    |>.pattern "pseudo" r"::?[a-zA-Z][\w-]*" "Name.Decorator" 84
    |>.pattern "function" r"\b[a-zA-Z][\w-]*\(" "Name.Function" 80
    |>.pattern "dimension" r"-?\b\d+\.\d+(?:[a-zA-Z]+|%)?" "Literal.Number.Float" 65
    |>.pattern "number" r"-?\b\d+(?:[a-zA-Z]+|%)?" "Literal.Number.Integer" 64
    |>.pattern "tag" r"\b[a-zA-Z][\w-]*" "Name.Tag" 20
    |>.pattern "operator" "[>+~*=|^$]" "Operator" 40
    |>.pattern "punctuation" "[\x7b\x7d();:,\\[\\]]" "Punctuation" 30
    |>.pattern "whitespace" r"\n|[^\S\n]+" "Text.Whitespace" 5

/-- Markdown. -/
def markdown : Grammar :=
  Grammar.named "Markdown"
    |>.region "fenced_code" "```" "```" "Literal.String.Backtick"
    |>.pattern "subheading" "(?m)^#\x7b2,6\x7d[ \\t].*" "Generic.Subheading" 100
    |>.pattern "heading" r"(?m)^#[ \t].*" "Generic.Heading" 100
    |>.pattern "quote" "(?m)^>.*" "Generic.Emph" 95
    |>.pattern "list_marker" r"(?m)^[ \t]*(?:[-*+]|\d+\.)[ \t]" "Keyword" 90
    |>.pattern "rule" "(?m)^(?:-\x7b3,\x7d|\\*\x7b3,\x7d|_\x7b3,\x7d)[ \\t]*$" "Keyword" 91
    |>.pattern "inline_code" r"`[^`\n]+`" "Literal.String.Backtick" 85
    |>.pattern "strong" r"\*\*[^*\n]+\*\*|__[^_\n]+__" "Generic.Strong" 80
    |>.pattern "emphasis" r"\*[^*\n]+\*|\b_[^_\n]+_\b" "Generic.Emph" 75
    |>.pattern "link" r"!?\[[^\]\n]*\]\([^)\n]*\)" "Name.Tag" 70
    |>.pattern "word" "[\\p\x7bL\x7d\\p\x7bN\x7d]+" "Text" 10
    |>.pattern "whitespace" r"\s+" "Text.Whitespace" 5

end Highlighter.Language
