import Highlighter.Language.Shared

/-!
# Application languages

The grammars of Java, JavaScript and Python.
-/

namespace Highlighter.Language

/-- The Java language. -/
def java : Grammar :=
  Grammar.named "Java"
    |>.region "javadoc" r"/\*\*" r"\*/" "Literal.String.Doc"
    |>.region "block_comment" r"/\*" r"\*/" "Comment.Multiline"
    |>.region "text_block" "\"\"\"" "\"\"\"" "Literal.String"
    |>.string "string" "\"" "Literal.String.Double"
    |>.pattern "line_comment" "//.*" "Comment.Single" 100
    |>.pattern "annotation" r"@\w+" "Name.Decorator" 95
    |>.pattern "char" r"'(?:\\.|[^'\\])'" "Literal.String.Char" 90
    |>.words "namespace" ["package", "import"] "Keyword.Namespace" 86
    |>.words "constant" ["true", "false", "null"] "Keyword.Constant" 85
    |>.words "declaration"
      ["class", "interface", "enum", "record", "extends", "implements", "abstract", "final",
        "static", "public", "private", "protected", "synchronized", "transient", "volatile",
        "native"]
      "Keyword.Declaration" 81
    |>.words "keyword"
      ["assert", "break", "case", "catch", "continue", "default", "do", "else", "finally", "for",
        "if", "instanceof", "new", "return", "switch", "throw", "throws", "try", "while", "var",
        "yield"]
      "Keyword" 80
    |>.words "this" ["this", "super"] "Name.Builtin.Pseudo" 79
    |>.words "type"
      ["boolean", "byte", "char", "double", "float", "int", "long", "short", "void"]
      "Keyword.Type" 78
    |>.pattern "class_name" r"\b[A-Z][A-Za-z0-9_]*\b" "Name.Class" 70
    |> withCommonRules

/-- The JavaScript language. Template literals span lines. -/
def javascript : Grammar :=
  Grammar.named "JavaScript"
    |>.region "block_comment" r"/\*" r"\*/" "Comment.Multiline"
    |>.string "double_string" "\"" "Literal.String.Double"
    |>.string "single_string" "'" "Literal.String.Single"
    |>.regionWith "template" "`" "`" "Literal.String.Backtick" (some '\\') false
    |>.pattern "line_comment" "//.*" "Comment.Single" 100
    |>.words "namespace" ["import", "export", "from"] "Keyword.Namespace" 86
    |>.words "constant"
      ["true", "false", "null", "undefined", "NaN", "Infinity"]
      "Keyword.Constant" 85
    |>.words "declaration"
      ["var", "let", "const", "function", "class", "extends", "static", "get", "set"]
      "Keyword.Declaration" 81
    |>.words "keyword"
      ["async", "await", "break", "case", "catch", "continue", "debugger", "default", "delete",
        "do", "else", "finally", "for", "if", "in", "instanceof", "new", "of", "return", "switch",
        "throw", "try", "typeof", "void", "while", "with", "yield"]
      "Keyword" 80
    |>.words "this" ["this", "super"] "Name.Builtin.Pseudo" 79
    |>.words "builtin"
      ["Array", "Boolean", "Date", "Error", "JSON", "Map", "Math", "Number", "Object", "Promise",
        "RegExp", "Set", "String", "Symbol", "console", "document", "window", "require", "module"]
      "Name.Builtin" 75
    |>.pattern "arrow" "=>" "Operator" 41
    |> withCommonRules

/-- The Python language. Triple-quoted strings come before strings with one quote, and a prefixed
string keeps its prefix inside the token. -/
def python : Grammar :=
  Grammar.named "Python"
    |>.region "prefixed_triple_double"
      "\\b[fFrRbBuU]\x7b1,2\x7d\"\"\""
      "\"\"\"" "Literal.String.Doc"
    |>.region "prefixed_triple_single" "\\b[fFrRbBuU]\x7b1,2\x7d'''" "'''" "Literal.String.Doc"
    |>.region "triple_double" "\"\"\"" "\"\"\"" "Literal.String.Doc"
    |>.region "triple_single" "'''" "'''" "Literal.String.Doc"
    |>.string "prefixed_double" "\\b[fFrRbBuU]\x7b1,2\x7d\"" "Literal.String.Double"
    |>.string "prefixed_single" "\\b[fFrRbBuU]\x7b1,2\x7d'" "Literal.String.Single"
    |>.string "double_string" "\"" "Literal.String.Double"
    |>.string "single_string" "'" "Literal.String.Single"
    |>.pattern "comment" "#.*" "Comment.Single" 100
    |>.pattern "decorator" r"@[\w.]+" "Name.Decorator" 95
    |>.words "constant" ["True", "False", "None"] "Keyword.Constant" 85
    |>.words "namespace" ["import", "from"] "Keyword.Namespace" 84
    |>.words "operator_word" ["and", "or", "not", "in", "is"] "Operator.Word" 83
    |>.words "keyword"
      ["as", "assert", "async", "await", "break", "class", "continue", "def", "del", "elif",
        "else", "except", "finally", "for", "global", "if", "lambda", "nonlocal", "pass", "raise",
        "return", "try", "while", "with", "yield", "match", "case"]
      "Keyword" 80
    |>.words "self" ["self", "cls"] "Name.Builtin.Pseudo" 77
    |>.pattern "magic" r"\b__\w+__\b" "Name.Function.Magic" 76
    |>.words "builtin"
      ["abs", "all", "any", "ascii", "bin", "bool", "bytearray", "bytes", "callable", "chr",
        "classmethod", "compile", "complex", "delattr", "dict", "dir", "divmod", "enumerate",
        "eval", "exec", "filter", "float", "format", "frozenset", "getattr", "globals", "hasattr",
        "hash", "help", "hex", "id", "input", "int", "isinstance", "issubclass", "iter", "len",
        "list", "locals", "map", "max", "memoryview", "min", "next", "object", "oct", "open",
        "ord", "pow", "print", "property", "range", "repr", "reversed", "round", "set", "setattr",
        "slice", "sorted", "staticmethod", "str", "sum", "super", "tuple", "type", "vars", "zip"]
      "Name.Builtin" 75
    |>.pattern "hex" r"\b0[xX][0-9a-fA-F_]+\b" "Literal.Number.Hex" 65
    |>.pattern "binary" r"\b0[bB][01_]+\b" "Literal.Number.Bin" 65
    |>.pattern "octal" r"\b0[oO][0-7_]+\b" "Literal.Number.Oct" 65
    |>.pattern "float" r"\b\d[\d_]*\.\d[\d_]*(?:[eE][+-]?\d+)?j?\b" "Literal.Number.Float" 64
    |>.pattern "integer" r"\b\d[\d_]*j?\b" "Literal.Number.Integer" 63
    |>.pattern "operator" r"[+\-*/%&|^!<>=@~]+" "Operator" 40
    |>.pattern "punctuation" "[()\\[\\]\x7b\x7d,;:.]" "Punctuation" 30
    |>.pattern "name" "[\\p\x7bL\x7d_][\\p\x7bL\x7d\\p\x7bN\x7d_]*" "Name" 10
    |>.pattern "whitespace" r"\s+" "Text.Whitespace" 5

end Highlighter.Language
