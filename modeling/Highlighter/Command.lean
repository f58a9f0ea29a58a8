import Highlighter.Render
import Highlighter.Session.Basic

/-!
# The command line

The command prints a source file with syntax colors. Its arguments, the files it can see and the
home directory go in, and what it prints, its exit code and the files afterwards come out.
-/

namespace Highlighter.Command

/-- What the arguments ask for. -/
structure Arguments where
  file : String
  language : Option String := none
  theme : Option String := none
  settings : Option String := none
  width : Option Nat := none
  lineNumbers : Bool := false
  deriving DecidableEq, Repr

/-- Arguments met so far; the file is still optional. -/
structure Draft where
  file : Option String := none
  language : Option String := none
  theme : Option String := none
  settings : Option String := none
  width : Option Nat := none
  lineNumbers : Bool := false

/-- A width: decimal digits, with an optional plus sign, within 64 bits. -/
def parseWidth? (text : String) : Option Nat :=
  let digits :=
    match text.toList with
    | '+' :: rest => rest
    | all => all
  let value := digits.foldl (fun value c => value * 10 + (c.toNat - '0'.toNat)) 0
  if !digits.isEmpty && digits.all Char.isDigit && value < UInt64.size then some value else none

/-- Read arguments from left to right; a later one overrides an earlier one. An unknown option
and an option without its value are refused. -/
def parseDraft? (draft : Draft) : List String → Option Draft
  | [] => some draft
  | "--line-numbers" :: rest | "-n" :: rest => parseDraft? { draft with lineNumbers := true } rest
  | "--language" :: value :: rest | "-l" :: value :: rest =>
    parseDraft? { draft with language := some value } rest
  | "--theme" :: value :: rest | "-t" :: value :: rest =>
    parseDraft? { draft with theme := some value } rest
  | "--settings" :: value :: rest => parseDraft? { draft with settings := some value } rest
  | "--width" :: value :: rest | "-w" :: value :: rest =>
    (parseWidth? value).bind fun width => parseDraft? { draft with width := some width } rest
  | argument :: rest =>
    if argument.toList.head? = some '-' then none
    else parseDraft? { draft with file := some argument } rest

/-- The arguments, if they are well formed and name a file. -/
def parseArguments? (arguments : List String) : Option Arguments :=
  (parseDraft? {} arguments).bind fun draft =>
    draft.file.map fun file =>
      { file
        language := draft.language
        theme := draft.theme
        settings := draft.settings
        width := draft.width
        lineNumbers := draft.lineNumbers }

/-- The line that names the program and its version. -/
def versionText : String := "tinted 0.1.0"

/-- The help text. -/
def usageText : String :=
  String.intercalate "\n" [
    versionText ++ " - print a source file with syntax colors",
    "",
    "Usage: tinted [OPTIONS] FILE",
    "",
    "Options:",
    "  -l, --language ID    Language to highlight as (default: from file name)",
    "  -t, --theme FILE     Switch to a theme file and save it to the settings",
    "      --settings FILE  Settings file (default: ~/.tinted.toml)",
    "  -w, --width N        Truncate lines to N columns",
    "  -n, --line-numbers   Show line numbers",
    "  -h, --help           Show this help message",
    "  -V, --version        Show version information",
    "",
    "Languages: " ++ ", ".intercalate Registry.builtin.languages,
    ""]

/-- The name of the settings file in the home directory. -/
def settingsFileName : String := ".tinted.toml"

/-- What a run leaves behind. -/
structure Outcome where
  code : Nat
  /-- What goes to the standard output. -/
  output : Text
  /-- The error that ended the run, if one did. -/
  error : Option Error := none
  /-- The files afterwards. -/
  files : FileTree

/-- Highlight a surface in a session over a store, and print it. -/
def print {σ : Type} [SettingsStore σ] (arguments : Arguments) (files : FileTree) (store : σ) :
    Except Error (Text × σ) := do
  let content ← (files.read arguments.file).mapError .file
  let registry := Registry.builtin
  let detected := (registry.detect? arguments.file).getD Registry.plainTextId
  let session ← Session.start (Surface.ofText content) registry store
    (arguments.language.getD detected)
  let session ←
    match arguments.theme with
    | some path => (·.1) <$> session.switchTheme files (.file path)
    | none => pure session.fullPass.1
  let options : RenderOptions :=
    { width := arguments.width, lineNumbers := arguments.lineNumbers }
  return (session.surface.render options, session.store)

/-- The path of the settings file: as given, or in the home directory if there is one. -/
def settingsPath? (arguments : Arguments) (home : Option String) : Option String :=
  arguments.settings.or (home.map fun directory => Path.join directory settingsFileName)

/-- Print a file with its settings in a file, or without stored settings if there is no place
for them. -/
def runWith (arguments : Arguments) (files : FileTree) (home : Option String) : Outcome :=
  let printed : Except Error (Text × FileTree) :=
    match settingsPath? arguments home with
    | some path =>
      (print arguments files (FileStore.mk files path)).map fun (output, store) =>
        (output, store.files)
    | none =>
      (print arguments files (MemoryStore.mk {} 0)).map fun (output, _) => (output, files)
  match printed with
  | .ok (output, files) => { code := 0, output, files }
  | .error error => { code := 1, output := [], error := some error, files }

/-- Run the command. Help and version are only recognized as the first argument. -/
def run (arguments : List String) (files : FileTree) (home : Option String) : Outcome :=
  match arguments with
  | "--help" :: _ | "-h" :: _ => { code := 0, output := usageText.toList, files }
  | "--version" :: _ | "-V" :: _ =>
    { code := 0, output := (versionText ++ "\n").toList, files }
  | _ =>
    match parseArguments? arguments with
    | some parsed => runWith parsed files home
    | none => { code := 2, output := usageText.toList, files }

end Highlighter.Command
