import Highlighter.Toml.Number
import Highlighter.Toml.Section

/-!
# TOML documents

A document is a list of statements: values under keys, and headers that say which table the
values after them belong to. `Document.statements?` reads the statements of a text, and
`Document.table?` carries them out.
-/

namespace Highlighter.Toml

/-- Read items of a list up to a closing bracket, with commas between them and trivia around
them. A comma may follow the last item. Each item takes a character, so `steps` equal to the
length of the text is always enough. -/
def readItems (readItem : Reader Value) : (steps : Nat) → Reader (List Value)
  | 0, _ => none
  | steps + 1, text =>
    match skipTrivia false text with
    | ']' :: rest => some ([], rest)
    | text =>
      (readItem text).bind fun (item, rest) =>
        match skipTrivia false rest with
        | ']' :: rest => some ([item], rest)
        | ',' :: rest =>
          (readItems readItem steps rest).map fun (items, rest) => (item :: items, rest)
        | _ => none

/-- Read the entries of an inline table up to its closing brace, into `table`. No comma may
follow the last entry. Each entry takes a character, so `steps` equal to the length of the text
is always enough. -/
def readInlineEntries (readItem : Reader Value) : (steps : Nat) → Section → Reader Section
  | 0, _, _ => none
  | steps + 1, table, text => do
    let (key, text) ← readKey text
    let (_, text) ← readChar '=' text
    let (value, text) ← readItem (skipBlanks text)
    let table ← table.assign key value
    match skipBlanks text with
    | '\x7d' :: rest => return (table, rest)
    | ',' :: rest => readInlineEntries readItem steps table rest
    | _ => none

/-- Read a value in which arrays and inline tables nest at most `depth` deep. -/
def readValueWithin : (depth : Nat) → Reader Value
  | _, '"' :: rest => (readString ('"' :: rest)).map fun (s, rest) => (.string s, rest)
  | _, '\'' :: rest => (readString ('\'' :: rest)).map fun (s, rest) => (.string s, rest)
  | depth + 1, '[' :: rest =>
    (readItems (readValueWithin depth) (rest.length + 1) rest).map fun (items, rest) =>
      (.array items, rest)
  | depth + 1, '\x7b' :: rest =>
    match skipBlanks rest with
    | '\x7d' :: rest => some (.table [], rest)
    | text =>
      (readInlineEntries (readValueWithin depth) text.length .root text).map fun (table, rest) =>
        (.table table.toTable, rest)
  | _, 't' :: 'r' :: 'u' :: 'e' :: rest => some (.boolean true, rest)
  | _, 'f' :: 'a' :: 'l' :: 's' :: 'e' :: rest => some (.boolean false, rest)
  | _, text =>
    match readDatetime text with
    | some (datetime, rest) => some (.datetime datetime, rest)
    | none => readNumber text

/-- Read a value. -/
def readValue : Reader Value :=
  readValueWithin nestingLimit

/-- One statement of a document. -/
inductive Statement where
  /-- A value under a dotted key. -/
  | assign (key : List String) (value : Value)
  /-- The values that follow belong to the table with this key. -/
  | header (key : List String)
  /-- The values that follow belong to a new element of the array of tables with this key. -/
  | element (key : List String)

/-- Read the key of a header up to its closing bracket. -/
def readHeaderKey (text : List Char) : Option (List String × List Char) := do
  let (key, text) ← readKey text
  let (_, text) ← readChar ']' text
  return (key, text)

/-- Read a statement with its line end. -/
def readStatement : Reader Statement
  | '[' :: '[' :: text => do
    let (key, text) ← readHeaderKey text
    let (_, text) ← readChar ']' text
    return (.element key, ← readLineEnd text)
  | '[' :: text => do
    let (key, text) ← readHeaderKey text
    return (.header key, ← readLineEnd text)
  | text => do
    let (key, text) ← readKey text
    let (_, text) ← readChar '=' text
    let (value, text) ← readValue (skipBlanks text)
    return (.assign key value, ← readLineEnd text)

namespace Document

/-- Read all statements. Empty lines and comments are skipped. Each statement takes a character,
so `steps` greater than the length of the text is always enough. -/
def readStatements : (steps : Nat) → List Char → Option (List Statement)
  | 0, _ => none
  | steps + 1, text =>
    match skipTrivia false text with
    | [] => some []
    | text =>
      (readStatement text).bind fun (statement, rest) =>
        (readStatements steps rest).map (statement :: ·)

/-- The statements of a text. A byte order mark at its start is skipped. -/
def statements? (text : List Char) : Option (List Statement) :=
  let text :=
    match text with
    | c :: rest => if c.toNat = 0xFEFF then rest else text
    | [] => []
  readStatements (text.length + 1) text

/-- The root table of a document and the path of the table that values are put into. -/
structure State where
  root : Section := .root
  path : List String := []

namespace State

/-- Begin a table by its dotted key. -/
def begin (state : State) (key : List String) (start : String → Section → Option Section) :
    Option State :=
  match key.getLast? with
  | none => none
  | some last =>
    (state.root.update false key.dropLast (start last)).map fun root => { root, path := key }

/-- Carry out a statement. -/
def step (state : State) : Statement → Option State
  | .assign key value =>
    (state.root.update false state.path fun table => table.assign key value).map fun root =>
      { state with root }
  | .header key => state.begin key Section.beginTable
  | .element key => state.begin key Section.beginElement

end State

/-- The table that statements make, if none of them contradicts an earlier one. -/
def table? (statements : List Statement) : Option Table :=
  (statements.foldlM State.step {}).map fun state => state.root.toTable

end Document

/-- The table that a TOML text writes, if it writes one. -/
def parse? (text : List Char) : Option Table :=
  (Document.statements? text).bind Document.table?

end Highlighter.Toml
