import Highlighter.Error
import Highlighter.Theme.Basic
import Highlighter.Toml.Document
import Highlighter.Toml.Printer

/-!
# Settings

Settings are a table of values under text keys, kept as a TOML document. The colors of a theme
and of the appearance that follows from it are stored among them as strings.
-/

namespace Highlighter

/-- Values under text keys. -/
structure Settings where
  values : Toml.Table := []

namespace Settings

/-- Settings without any value. -/
def empty : Settings := {}

/-- The value under a key. -/
def value? (settings : Settings) (key : String) : Option Toml.Value :=
  settings.values.find? key

/-- The string under a key. Values of other types are not seen. -/
def get? (settings : Settings) (key : String) : Option String :=
  (settings.value? key).bind Toml.Value.string?

/-- Put a string under a key. -/
def set (settings : Settings) (key value : String) : Settings :=
  { values := settings.values.insert key (.string value) }

/-- The number of values. -/
def size (settings : Settings) : Nat :=
  settings.values.length

/-- Put strings under keys, from left to right. -/
def setAll (settings : Settings) (entries : List (String × String)) : Settings :=
  entries.foldl (fun settings (key, value) => settings.set key value) settings

/-- The settings with the colors of a theme and of its appearance. -/
def mergedWithTheme (settings : Settings) (theme : Theme) : Settings :=
  (settings.setAll theme.entries).setAll (Appearance.ofTheme theme).entries

/-- The settings that a TOML document writes. -/
def parse (text : Text) : Except Error Settings :=
  match Toml.parse? text with
  | some values => .ok { values }
  | none => .error .malformedSettings

/-- The TOML document that writes the settings. -/
def toToml (settings : Settings) : Text :=
  Toml.Table.toText settings.values

/-- Whether two settings are equal, value by value. -/
def equal (left right : Settings) : Bool :=
  Toml.Value.equalEntries left.values right.values

/-- The theme whose colors the settings hold. -/
def theme (settings : Settings) : Except ThemeError Theme :=
  Theme.ofLookUp settings.get?

end Settings

end Highlighter
