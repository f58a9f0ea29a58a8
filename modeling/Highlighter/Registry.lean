import Highlighter.Dict
import Highlighter.Error
import Highlighter.Grammar.Lexer
import Highlighter.Language.Catalog
import Highlighter.Unicode.Lowercase

/-!
# The tokenizer registry

Tokenizers under language identifiers, and the file names and extensions that lead to them.
Identifiers and extensions are held in lower case, so they are found in any case; exact file
names are compared as they are.
-/

namespace Highlighter

/-- Tokenizers and the ways to find them. -/
structure Registry where
  tokenizers : Dict Tokenizer := []
  /-- The identifier that a file extension leads to. -/
  extensions : Dict String := []
  /-- The identifier that an exact file name leads to. -/
  fileNames : Dict String := []

namespace Registry

/-- The identifier of the tokenizer for plain text, which every registry holds. -/
def plainTextId : String := "text"

/-- Put a tokenizer under an identifier and lead the extensions to it. -/
def register (registry : Registry) (id : String) (tokenizer : Tokenizer)
    (extensions : List String) : Registry :=
  let id := Unicode.lowercase id
  { registry with
    tokenizers := registry.tokenizers.insert id tokenizer
    extensions :=
      extensions.foldl (fun dict extension => dict.insert (Unicode.lowercase extension) id)
        registry.extensions }

/-- Lead an exact file name to an identifier. -/
def registerFileName (registry : Registry) (fileName id : String) : Registry :=
  { registry with fileNames := registry.fileNames.insert fileName id }

/-- The registry that holds the tokenizer for plain text alone. -/
def plainTextOnly : Registry :=
  Registry.register {} plainTextId .plainText ["txt"]

/-- Add a language with its grammar, extensions and file names. -/
def addLanguage (registry : Registry) (entry : LanguageEntry) : Registry :=
  entry.fileNames.foldl (·.registerFileName · entry.id)
    (registry.register entry.id entry.grammar.tokenizer entry.extensions)

/-- The registry of all built-in languages. -/
def builtin : Registry :=
  Language.catalog.foldl addLanguage plainTextOnly

/-- The tokenizer under an identifier, in any case. -/
def find? (registry : Registry) (id : String) : Option Tokenizer :=
  registry.tokenizers.find? (Unicode.lowercase id)

/-- The tokenizer under an identifier, in any case, or the error that there is none. -/
def select (registry : Registry) (id : String) : Except Error Tokenizer :=
  match registry.find? id with
  | some tokenizer => .ok tokenizer
  | none => .error (.unknownLanguage id)

/-- Whether a tokenizer is registered under an identifier, in any case. -/
def contains (registry : Registry) (id : String) : Bool :=
  registry.tokenizers.contains (Unicode.lowercase id)

/-- The identifier that a path leads to: by its exact file name, or else by its extension. -/
def detect? (registry : Registry) (path : String) : Option String :=
  let byName := (Path.fileName? path).bind fun name =>
    registry.fileNames.find? (String.ofList name)
  match byName with
  | some id => some id
  | none => (Path.extension? path).bind fun extension =>
      registry.extensions.find? (Unicode.lowercase (String.ofList extension))

/-- The registered identifiers in ascending order. -/
def languages (registry : Registry) : List String :=
  registry.tokenizers.keys

end Registry

end Highlighter
