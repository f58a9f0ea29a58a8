import Highlighter.Files.Tree

/-!
# Errors

Why a theme, a language or a settings file is refused. Each cause is a constructor, and the
wording stands in one place.
-/

namespace Highlighter

/-- Why a theme cannot be loaded. -/
inductive ThemeError where
  /-- A role has no value under its key. -/
  | missingKey (key : String)
  /-- The value under a role's key is no color. -/
  | invalidColor (key value : String)
  /-- The text of the theme is no TOML document. -/
  | malformed
  /-- The file of the theme cannot be read. -/
  | unreadable (cause : FileError)
  deriving DecidableEq, Repr

/-- The wording of a theme error. Nothing is said about where a malformed text goes wrong. -/
def ThemeError.message : ThemeError → String
  | .missingKey key => "theme is missing required key \x60" ++ key ++ "\x60"
  | .invalidColor key value =>
    "theme key \x60" ++ key ++ "\x60 has invalid color value \x60" ++ value ++ "\x60"
  | .malformed => "theme is not a valid TOML table:"
  | .unreadable cause => "cannot read theme: " ++ cause.message

/-- Why an operation of a session fails. -/
inductive Error where
  | theme (cause : ThemeError)
  /-- No tokenizer is registered under the identifier. -/
  | unknownLanguage (id : String)
  /-- The text of the settings is no TOML document. -/
  | malformedSettings
  /-- The settings store refuses, for the given reason. -/
  | storeRefused (reason : String)
  /-- A file cannot be read or written. -/
  | file (cause : FileError)
  deriving DecidableEq, Repr

/-- The wording of an error. -/
def Error.message : Error → String
  | .theme cause => cause.message
  | .unknownLanguage id => "unknown language: " ++ id
  | .malformedSettings => "settings store:"
  | .storeRefused reason => "settings store: " ++ reason
  | .file cause => "I/O error: " ++ cause.message

end Highlighter
