import Highlighter.Language.Shared

/-!
# Systems languages

The grammars of C, C++, Rust and Go.
-/

namespace Highlighter.Language

/-- The rules that C and C++ share, under the given name. -/
def cFamily (name : String) : Grammar :=
  Grammar.named name
    |>.region "block_comment" r"/\*" r"\*/" "Comment.Multiline"
    |>.string "string" "\"" "Literal.String.Double"
    |>.pattern "include_file" r"#\s*include\s*<[^>\n]*>" "Comment.PreprocFile" 105
    |>.pattern "preprocessor" r"#\s*\w+" "Comment.Preproc" 100
    |>.pattern "line_comment" "//.*" "Comment.Single" 100
    |>.pattern "char" r"'(?:\\.|[^'\\])'" "Literal.String.Char" 90
    |>.words "constant" ["NULL", "true", "false"] "Keyword.Constant" 85
    |>.words "keyword"
      ["break", "case", "continue", "default", "do", "else", "for", "goto", "if", "return",
        "sizeof", "switch", "while", "typedef", "extern", "static", "register", "volatile",
        "inline", "restrict"]
      "Keyword" 80
    |>.words "type"
      ["auto", "char", "const", "double", "enum", "float", "int", "long", "short", "signed",
        "struct", "union", "unsigned", "void", "size_t", "ssize_t", "bool", "int8_t", "int16_t",
        "int32_t", "int64_t", "uint8_t", "uint16_t", "uint32_t", "uint64_t"]
      "Keyword.Type" 78
    |> withCommonRules

/-- The C language. -/
def c : Grammar :=
  cFamily "C"

/-- The C++ language: the rules of C, and more keywords and types. -/
def cpp : Grammar :=
  cFamily "C++"
    |>.words "namespace" ["namespace", "using"] "Keyword.Namespace" 86
    |>.words "cpp_keyword"
      ["class", "public", "private", "protected", "virtual", "override", "final", "template",
        "typename", "new", "delete", "try", "catch", "throw", "operator", "friend", "explicit",
        "mutable", "constexpr", "noexcept", "static_cast", "dynamic_cast", "reinterpret_cast",
        "const_cast", "decltype"]
      "Keyword" 81
    |>.pattern "this" r"\bthis\b" "Name.Builtin.Pseudo" 79
    |>.pattern "cpp_constant" r"\bnullptr\b" "Keyword.Constant" 85
    |>.pattern "cpp_type" r"\b(std::\w+|string|vector|map|auto)\b" "Keyword.Type" 78

/-- The Rust language. Ordinary and byte strings may span lines and escape their quote. -/
def rust : Grammar :=
  Grammar.named "Rust"
    |>.region "block_comment" r"/\*" r"\*/" "Comment.Multiline"
    |>.region "raw_string_hashed" "\\br#+\"" "\"#+" "Literal.String"
    |>.region "raw_string" "\\br\"" "\"" "Literal.String"
    |>.regionWith "byte_string" "\\bb\"" "\"" "Literal.String.Double" (some '\\') false
    |>.regionWith "string" "\"" "\"" "Literal.String.Double" (some '\\') false
    |>.pattern "doc_comment" "//[/!].*" "Literal.String.Doc" 101
    |>.pattern "line_comment" "//.*" "Comment.Single" 100
    |>.pattern "attribute" r"#!?\[[^\]]*\]" "Name.Decorator" 95
    |>.pattern "char" "'(?:\\\\.|\\\\u\\\x7b[0-9a-fA-F]+\\\x7d|[^'\\\\])'" "Literal.String.Char" 90
    |>.pattern "lifetime" r"'\w+" "Name.Label" 85
    |>.pattern "macro" r"\b\w+!" "Name.Function.Magic" 82
    |>.words "namespace" ["use", "mod", "crate", "extern"] "Keyword.Namespace" 81
    |>.words "constant" ["true", "false"] "Keyword.Constant" 81
    |>.words "declaration"
      ["fn", "let", "const", "static", "struct", "enum", "trait", "type", "impl", "union"]
      "Keyword.Declaration" 80
    |>.words "keyword"
      ["as", "async", "await", "break", "continue", "dyn", "else", "for", "if", "in", "loop",
        "match", "move", "mut", "pub", "ref", "return", "unsafe", "where", "while", "yield"]
      "Keyword" 80
    |>.words "self" ["self", "Self", "super"] "Name.Builtin.Pseudo" 78
    |>.words "primitive"
      ["bool", "char", "str", "u8", "u16", "u32", "u64", "u128", "usize", "i8", "i16", "i32",
        "i64", "i128", "isize", "f32", "f64"]
      "Keyword.Type" 77
    |>.words "prelude"
      ["Option", "Some", "None", "Result", "Ok", "Err", "String", "Vec", "Box"]
      "Name.Builtin" 75
    |>.pattern "type_name" r"\b[A-Z][A-Za-z0-9_]*\b" "Name.Class" 70
    |>.pattern "hex" r"\b0x[0-9a-fA-F_]+(?:[ui](?:8|16|32|64|128|size))?\b" "Literal.Number.Hex" 65
    |>.pattern "binary" r"\b0b[01_]+(?:[ui](?:8|16|32|64|128|size))?\b" "Literal.Number.Bin" 65
    |>.pattern "octal" r"\b0o[0-7_]+(?:[ui](?:8|16|32|64|128|size))?\b" "Literal.Number.Oct" 65
    |>.pattern "float"
      r"\b\d[\d_]*\.\d[\d_]*(?:[eE][+-]?\d+)?(?:f32|f64)?\b"
      "Literal.Number.Float" 64
    |>.pattern "integer"
      r"\b\d[\d_]*(?:[ui](?:8|16|32|64|128|size)|f32|f64)?\b"
      "Literal.Number.Integer" 63
    |>.pattern "operator" r"[+\-*/%&|^!<>=@?]+" "Operator" 40
    |>.pattern "punctuation" "[()\\[\\]\x7b\x7d,;:.#]" "Punctuation" 30
    |>.pattern "name" "[\\p\x7bL\x7d_][\\p\x7bL\x7d\\p\x7bN\x7d_]*" "Name" 10
    |>.pattern "whitespace" r"\s+" "Text.Whitespace" 5

/-- The Go language. -/
def go : Grammar :=
  Grammar.named "Go"
    |>.region "block_comment" r"/\*" r"\*/" "Comment.Multiline"
    |>.region "raw_string" "`" "`" "Literal.String"
    |>.string "string" "\"" "Literal.String.Double"
    |>.pattern "line_comment" "//.*" "Comment.Single" 100
    |>.pattern "rune" r"'(?:\\.|[^'\\])+'" "Literal.String.Char" 90
    |>.words "namespace" ["package", "import"] "Keyword.Namespace" 86
    |>.words "constant" ["true", "false", "nil", "iota"] "Keyword.Constant" 85
    |>.words "declaration"
      ["var", "const", "type", "func", "struct", "interface", "map", "chan"]
      "Keyword.Declaration" 81
    |>.words "keyword"
      ["break", "case", "continue", "default", "defer", "else", "fallthrough", "for", "go",
        "goto", "if", "range", "return", "select", "switch"]
      "Keyword" 80
    |>.words "type"
      ["bool", "byte", "complex64", "complex128", "error", "float32", "float64", "int", "int8",
        "int16", "int32", "int64", "rune", "string", "uint", "uint8", "uint16", "uint32",
        "uint64", "uintptr", "any"]
      "Keyword.Type" 78
    |>.words "builtin"
      ["append", "cap", "close", "copy", "delete", "len", "make", "new", "panic", "print",
        "println", "recover"]
      "Name.Builtin" 75
    |>.pattern "short_assign" ":=" "Operator" 41
    |> withCommonRules

end Highlighter.Language
