import Highlighter.Theme.Basic
import Highlighter.Toml.Document
import Highlighter.Toml.Printer

/-!
# Reading themes

A theme is written as a TOML document with a color under the key of every role; other keys are
ignored. It comes from a file or from a text at hand.
-/

namespace Highlighter

/-- Where a theme is read from. -/
inductive ThemeSource where
  | file (path : String)
  | inline (text : Text)
  deriving DecidableEq, Repr

namespace Theme

/-- The text that a value gives for a color: a string as it is, any other value as it is shown
when it stands alone. -/
def colorText (value : Toml.Value) : String :=
  match value with
  | .string text => text
  | other => String.ofList other.standaloneText

/-- The theme that a TOML document writes. -/
def parse (text : Text) : Except ThemeError Theme :=
  match Toml.parse? text with
  | none => .error .malformed
  | some table => ofLookUp fun key => (table.find? key).map colorText

/-- Load a theme from its source. -/
def load (files : FileTree) : ThemeSource → Except ThemeError Theme
  | .file path =>
    match files.read path with
    | .ok text => parse text
    | .error cause => .error (.unreadable cause)
  | .inline text => parse text

end Theme

end Highlighter
