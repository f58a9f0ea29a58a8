import Highlighter.Text.Basic
import Highlighter.Token.Kind

/-!
# Tokens and tokenizers

A tokenizer turns a text into classified lexemes. A tokenizer covers a text when its lexemes,
put together, give that text back; the tokenizers of this library always do, and one that is
supplied from outside may not.
-/

namespace Highlighter

/-- A lexeme with its classification. -/
structure Token where
  kind : TokenKind
  text : Text
  deriving DecidableEq, Repr

/-- The lexemes of a token stream, put together. -/
def Token.concat (tokens : List Token) : Text :=
  (tokens.map (·.text)).flatten

/-- A lexer for one language. -/
structure Tokenizer where
  /-- The name of the language as shown to the user. -/
  name : String
  lex : Text → List Token

namespace Tokenizer

/-- The lexemes of `text`, put together, are `text`. -/
def Covers (tokenizer : Tokenizer) (text : Text) : Prop :=
  Token.concat (tokenizer.lex text) = text

/-- The tokenizer for text without a grammar: one token for the whole text. -/
def plainText : Tokenizer where
  name := "Plain Text"
  lex text := if text.isEmpty then [] else [{ kind := .text, text }]

end Tokenizer

end Highlighter
