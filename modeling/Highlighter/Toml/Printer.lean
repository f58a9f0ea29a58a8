import Highlighter.Decimal.Shortest
import Highlighter.Toml.Lexeme
import Highlighter.Toml.Value

/-!
# Writing TOML

Values are written on one line. A table is written as a document: its plain values first, one to
a line, then its tables and arrays of tables under headers, with a blank line before each header
but the first line of the document.
-/

namespace Highlighter.Toml

/-- The escape for a character in a basic string, if it needs one. The newline and the quote are
judged by the form of the string. -/
def escaped (c : Char) : List Char :=
  match c with
  | '\x08' => ['\\', 'b']
  | '\t' => ['\\', 't']
  | '\x0c' => ['\\', 'f']
  | '\r' => ['\\', 'r']
  | '\\' => ['\\', '\\']
  | c => if isControl c then '\\' :: 'u' :: Hex.digits 4 c.toNat else [c]

/-- The content of a basic string on one line. -/
def escapeLine : List Char → List Char
  | [] => []
  | '\n' :: rest => '\\' :: 'n' :: escapeLine rest
  | '"' :: rest => '\\' :: '"' :: escapeLine rest
  | c :: rest => escaped c ++ escapeLine rest

/-- The content of a basic string of several lines. `quotes` is the number of quotes right
before; the third in a row is escaped, and counting starts again behind it. -/
def escapeLines (quotes : Nat) : List Char → List Char
  | [] => []
  | '\n' :: rest => '\n' :: escapeLines 0 rest
  | '"' :: rest =>
    if quotes = 2 then '\\' :: '"' :: escapeLines 0 rest
    else '"' :: escapeLines (quotes + 1) rest
  | c :: rest => escaped c ++ escapeLines 0 rest

/-- Whether a character stands three times in a row. -/
def hasTriple (c : Char) : List Char → Bool
  | a :: b :: d :: rest =>
    (a == c && b == c && d == c) || hasTriple c (b :: d :: rest)
  | _ => false

/-- A basic string on one line. -/
def basicLine (text : List Char) : List Char :=
  '"' :: escapeLine text ++ ['"']

/-- A literal string on one line. -/
def literalLine (text : List Char) : List Char :=
  '\'' :: text ++ ['\'']

/-- The newline after the opening quotes of a string that contains newlines. -/
def openingNewline (text : List Char) : List Char :=
  if text.contains '\n' then ['\n'] else []

/-- A basic string of several lines. -/
def basicLines (text : List Char) : List Char :=
  ['"', '"', '"'] ++ openingNewline text ++ escapeLines 0 text ++ ['"', '"', '"']

/-- A literal string of several lines. -/
def literalLines (text : List Char) : List Char :=
  ['\'', '\'', '\''] ++ openingNewline text ++ text ++ ['\'', '\'', '\'']

/-- A string in the first form that needs no escapes but those for white space, or else in a
basic form. -/
def stringText (value : String) : List Char :=
  let text := value.toList
  let noControl := !text.any isControl
  let noNewline := !text.contains '\n'
  let noBackslash := !text.contains '\\'
  if noControl && noBackslash && !text.contains '"' && noNewline then basicLine text
  else if noControl && !text.contains '\'' && noNewline then literalLine text
  else if noControl && noBackslash && !hasTriple '"' text then basicLines text
  else if noControl && !hasTriple '\'' text then literalLines text
  else if noNewline then basicLine text
  else basicLines text

/-- A part of a key: bare if it can be, else in the first quoted form without escapes, else
escaped. -/
def keyPartText (part : String) : List Char :=
  let text := part.toList
  let noControl := !text.any fun c => isControl c || c == '\n'
  if !text.isEmpty && text.all isBareKey then text
  else if noControl && !text.contains '\\' && !text.contains '"' then basicLine text
  else if noControl && !text.contains '\'' then literalLine text
  else basicLine text

/-- A key: its parts with dots between them. -/
def keyText : List String → List Char
  | [] => []
  | [part] => keyPartText part
  | part :: parts => keyPartText part ++ '.' :: keyText parts

/-- A whole number in decimal digits. -/
def integerText (value : Int) : List Char :=
  let digits := Nat.toDigits 10 value.natAbs
  if value < 0 then '-' :: digits else digits

/-- A floating-point number: its shortest decimal, with `.0` if that is whole. -/
def floatText : Binary64 → List Char
  | .nan => ['n', 'a', 'n']
  | .infinite negative => (if negative then ['-'] else []) ++ ['i', 'n', 'f']
  | .finite negative mantissa exponent =>
    let sign := if negative then ['-'] else []
    if mantissa = 0 then sign ++ ['0', '.', '0']
    else
      let (digits, power) := Decimal.shortest mantissa exponent
      let written := Decimal.positional digits power
      sign ++ written ++ (if 0 ≤ power then ['.', '0'] else [])

/-- `true` or `false`. -/
def booleanText (value : Bool) : List Char :=
  if value then ['t', 'r', 'u', 'e'] else ['f', 'a', 'l', 's', 'e']

/-- Put a separator between the texts that are there. -/
def separate (separator : List Char) (first rest : List Char) : List Char :=
  if rest.isEmpty then first else first ++ separator ++ rest

mutual

/-- A value on one line. -/
def Value.toText : Value → List Char
  | .string value => stringText value
  | .integer value => integerText value
  | .float value => floatText value
  | .boolean value => booleanText value
  | .datetime value => value.toText
  | .array items => '[' :: Value.itemsText items ++ [']']
  | .table [] => ['\x7b', '\x7d']
  | .table (entry :: entries) =>
    ['\x7b', ' '] ++ Value.entriesText (entry :: entries) ++ [' ', '\x7d']

/-- Items with commas between them. -/
def Value.itemsText : List Value → List Char
  | [] => []
  | item :: items => separate [',', ' '] item.toText (Value.itemsText items)

/-- Entries with commas between them. -/
def Value.entriesText : List (String × Value) → List Char
  | [] => []
  | (key, value) :: entries =>
    separate [',', ' '] (keyPartText key ++ [' ', '=', ' '] ++ value.toText)
      (Value.entriesText entries)

end

/-- The key under which a datetime is shown when it stands alone. -/
def standaloneDatetimeKey : String := "$__toml_private_datetime"

/-- A value that stands alone, outside any document. It is written as on a line, but a datetime
is shown as a table that holds its text under a reserved key. -/
def Value.standaloneText : Value → List Char
  | .datetime value =>
    (Value.table [(standaloneDatetimeKey, .string (String.ofList value.toText))]).toText
  | other => other.toText

/-- Whether a value is written under headers of its own. -/
def Value.hasHeader (value : Value) : Bool :=
  value.isTable || value.isTableArray

/-- The line of an entry that is written within its table. -/
def entryLine (key : String) (value : Value) : List Char :=
  keyPartText key ++ [' ', '=', ' '] ++ value.toText ++ ['\n']

/-- The lines of all entries that are written within their table. -/
def entryLines (entries : List (String × Value)) : List Char :=
  (entries.filter fun (_, value) => !value.hasHeader).flatMap fun (key, value) =>
    entryLine key value

/-- The header of a table. -/
def headerLine (path : List String) : List Char :=
  '[' :: keyText path ++ [']', '\n']

/-- The header of an element of an array of tables. -/
def elementLine (path : List String) : List Char :=
  ['[', '['] ++ keyText path ++ [']', ']', '\n']

/-- The header of a table with its lines. A table that holds nothing but tables has neither. -/
def tableBlock (path : List String) (entries : List (String × Value)) : List (List Char) :=
  let lines := entryLines entries
  if lines.isEmpty && !entries.isEmpty then [] else [headerLine path ++ lines]

mutual

/-- The blocks of everything under a value that is written under headers, in the order of the
keys. -/
def Value.blocks (path : List String) : Value → List (List Char)
  | .table entries => tableBlock path entries ++ Value.entryBlocks path entries
  | .array items => Value.elementBlocks path items
  | _ => []

/-- The blocks of the entries of a table that are written under headers. -/
def Value.entryBlocks (path : List String) : List (String × Value) → List (List Char)
  | [] => []
  | (key, value) :: entries =>
    (if value.hasHeader then value.blocks (path ++ [key]) else [])
      ++ Value.entryBlocks path entries

/-- The blocks of the elements of an array of tables. -/
def Value.elementBlocks (path : List String) : List Value → List (List Char)
  | [] => []
  | .table entries :: items =>
    (elementLine path ++ entryLines entries) :: Value.entryBlocks path entries
      ++ Value.elementBlocks path items
  | _ :: items => Value.elementBlocks path items

end

/-- The blocks with a blank line between each two of them. -/
def joinBlocks : List (List Char) → List Char
  | [] => []
  | [block] => block
  | block :: blocks => block ++ '\n' :: joinBlocks blocks

/-- The document that writes a table. -/
def Table.toText (table : Table) : List Char :=
  let lines := entryLines table
  joinBlocks ((if lines.isEmpty then [] else [lines]) ++ Value.entryBlocks [] table)

end Highlighter.Toml
