import Highlighter.Grammar.Basic

/-!
# Configuration languages

The grammars of YAML and of container build files.
-/

namespace Highlighter.Language

/-- YAML. -/
def yaml : Grammar :=
  Grammar.named "YAML"
    |>.string "double_string" "\"" "Literal.String.Double"
    |>.string "single_string" "'" "Literal.String.Single"
    |>.pattern "comment" "#.*" "Comment.Single" 100
    |>.pattern "document" r"(?m)^(?:---|\.\.\.)" "Name.Namespace" 98
    |>.pattern "key" r"[\w.\-/]+[ \t]*:" "Name.Tag" 90
    |>.pattern "anchor" r"[&*][\w-]+" "Name.Label" 85
    |>.pattern "tag" r"!!?[\w-]*" "Keyword.Type" 85
    |>.pattern "constant" r"\b(?:true|false|yes|no|on|off|null)\b|~" "Keyword.Constant" 80
    |>.pattern "scalar_number" r"-?\b\d+(?:\.\d+)?(?:[eE][+-]?\d+)?\b" "Literal.Scalar.Plain" 70
    |>.pattern "block_indicator" "[|>][-+]?" "Punctuation.Indicator" 60
    |>.pattern "indicator" "-[ \\t]|[\\[\\]\x7b\x7d,?]" "Punctuation.Indicator" 60
    |>.pattern "word" "[^\\s#:'\\x22\\[\\]\x7b\x7d,]+" "Text" 10
    |>.pattern "whitespace" r"\s+" "Text.Whitespace" 5

/-- The words that begin an instruction of a container build file. -/
def instructionWords : List String :=
  ["FROM", "RUN", "CMD", "LABEL", "MAINTAINER", "EXPOSE", "ENV", "ADD", "COPY", "ENTRYPOINT",
    "VOLUME", "USER", "WORKDIR", "ARG", "ONBUILD", "STOPSIGNAL", "HEALTHCHECK", "SHELL"]

/-- Container build files. An instruction begins a line, in upper or lower case. -/
def docker : Grammar :=
  Grammar.named "Docker"
    |>.string "double_string" "\"" "Literal.String.Double"
    |>.string "single_string" "'" "Literal.String.Single"
    |>.pattern "comment" r"(?m)^[ \t]*#.*" "Comment.Single" 100
    |>.pattern "instruction"
      ("(?mi)^[ \\t]*(?:" ++ "|".intercalate instructionWords ++ ")\\b")
      "Keyword" 95
    |>.pattern "stage" r"(?i)\bAS\b" "Keyword" 90
    |>.pattern "variable" "\\$\\\x7b[^\x7d\\n]*\\\x7d|\\$\\w+" "Name.Variable" 85
    |>.pattern "continuation" r"(?m)\\$" "Punctuation" 80
    |>.pattern "number" r"\b\d+\b" "Literal.Number.Integer" 60
    |>.pattern "operator" r"&&|\|\||[|;=]" "Operator" 40
    |>.pattern "word" "[^\\s\"'$\\\\&|;=]+" "Text" 10
    |>.pattern "whitespace" r"\s+" "Text.Whitespace" 5

end Highlighter.Language
