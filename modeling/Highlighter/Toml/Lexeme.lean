import Highlighter.Text.Hex

/-!
# Lexical elements of TOML

White space, line ends, comments, strings and keys. A reader takes a text and gives what it has
read together with the rest, or nothing if the text does not start with what it reads.
-/

namespace Highlighter.Toml

/-- A reader of values of type `α`. -/
abbrev Reader (α : Type) := List Char → Option (α × List Char)

/-- White space within a line. -/
def isBlank (c : Char) : Bool :=
  c == ' ' || c == '\t'

/-- Control characters that no text may hold as they are: all but tab and newline. -/
def isControl (c : Char) : Bool :=
  (c.toNat < 0x20 && c != '\t' && c != '\n') || c.toNat = 0x7F

/-- Characters that may stand in comments and strings: all but control characters and the
newline. -/
def isPlain (c : Char) : Bool :=
  !isControl c && c != '\n'

/-- Skip white space within a line. -/
def skipBlanks (text : List Char) : List Char :=
  text.dropWhile isBlank

/-- Read a newline, with or without a carriage return before it. -/
def readNewline : List Char → Option (List Char)
  | '\n' :: rest => some rest
  | '\r' :: '\n' :: rest => some rest
  | _ => none

/-- Skip a comment, if there is one. -/
def skipComment : List Char → List Char
  | '#' :: rest => rest.dropWhile isPlain
  | text => text

/-- Read to the end of a line on which nothing but white space and a comment is left. -/
def readLineEnd (text : List Char) : Option (List Char) :=
  match skipComment (skipBlanks text) with
  | [] => some []
  | rest => readNewline rest

/-- Skip white space, newlines and comments. A comment that is not ended by a newline leaves
its rest standing, which nothing else accepts. -/
def skipTrivia (inComment : Bool) : List Char → List Char
  | [] => []
  | '\n' :: rest => skipTrivia false rest
  | '\r' :: '\n' :: rest => skipTrivia false rest
  | c :: rest =>
    if inComment then (if isPlain c then skipTrivia true rest else c :: rest)
    else if isBlank c then skipTrivia false rest
    else if c = '#' then skipTrivia true rest
    else c :: rest

/-- The character that a one-letter escape stands for. -/
def simpleEscape? : Char → Option Char
  | 'b' => some '\x08'
  | 't' => some '\t'
  | 'n' => some '\n'
  | 'f' => some '\x0c'
  | 'r' => some '\r'
  | '"' => some '"'
  | '\\' => some '\\'
  | _ => none

/-- The character with the code point that hexadecimal digits write. -/
def codePoint? (digits : List Char) : Option Char :=
  (Hex.value? digits).bind fun code => if code.isValidChar then some (Char.ofNat code) else none

/-- Put a character in front of what was read. -/
def prepend (c : Char) (result : Option (List Char × List Char)) :
    Option (List Char × List Char) :=
  result.map fun (content, rest) => (c :: content, rest)

/-- Read a basic string on one line, after its opening quote. -/
def readBasic : Reader (List Char)
  | [] => none
  | '"' :: rest => some ([], rest)
  | '\\' :: 'u' :: a :: b :: c :: d :: rest =>
    (codePoint? [a, b, c, d]).bind fun e => prepend e (readBasic rest)
  | '\\' :: 'U' :: a :: b :: c :: d :: e :: f :: g :: h :: rest =>
    (codePoint? [a, b, c, d, e, f, g, h]).bind fun i => prepend i (readBasic rest)
  | '\\' :: c :: rest => (simpleEscape? c).bind fun e => prepend e (readBasic rest)
  | c :: rest => if isPlain c && c != '\\' then prepend c (readBasic rest) else none

/-- Read a literal string on one line, after its opening quote. -/
def readLiteral : Reader (List Char)
  | [] => none
  | '\'' :: rest => some ([], rest)
  | c :: rest => if isPlain c then prepend c (readLiteral rest) else none

/-- Read a basic string of several lines, after its opening quotes. Up to two quotes may stand
right before the closing ones. While `skipping`, white space and newlines are left out: a
backslash at the end of a line begins that. -/
def readBasicLines (skipping : Bool) : Reader (List Char)
  | [] => none
  | '"' :: '"' :: '"' :: '"' :: '"' :: rest => some (['"', '"'], rest)
  | '"' :: '"' :: '"' :: '"' :: rest => some (['"'], rest)
  | '"' :: '"' :: '"' :: rest => some ([], rest)
  | '\\' :: 'u' :: a :: b :: c :: d :: rest =>
    (codePoint? [a, b, c, d]).bind fun e => prepend e (readBasicLines false rest)
  | '\\' :: 'U' :: a :: b :: c :: d :: e :: f :: g :: h :: rest =>
    (codePoint? [a, b, c, d, e, f, g, h]).bind fun i => prepend i (readBasicLines false rest)
  | '\\' :: c :: rest =>
    match simpleEscape? c with
    | some e => prepend e (readBasicLines false rest)
    | none =>
      if (readNewline (skipBlanks (c :: rest))).isNone then none
      else if isBlank c || c = '\n' then readBasicLines true rest
      else
        match rest with
        | '\n' :: rest => readBasicLines true rest
        | _ => none
  | '\r' :: '\n' :: rest =>
    if skipping then readBasicLines true rest else prepend '\n' (readBasicLines false rest)
  | '\n' :: rest =>
    if skipping then readBasicLines true rest else prepend '\n' (readBasicLines false rest)
  | c :: rest =>
    if skipping && isBlank c then readBasicLines true rest
    else if isPlain c && c != '\\' then prepend c (readBasicLines false rest)
    else none

/-- Read a literal string of several lines, after its opening quotes. Up to two quotes may stand
right before the closing ones. -/
def readLiteralLines : Reader (List Char)
  | [] => none
  | '\'' :: '\'' :: '\'' :: '\'' :: '\'' :: rest => some (['\'', '\''], rest)
  | '\'' :: '\'' :: '\'' :: '\'' :: rest => some (['\''], rest)
  | '\'' :: '\'' :: '\'' :: rest => some ([], rest)
  | '\r' :: '\n' :: rest => prepend '\n' (readLiteralLines rest)
  | '\n' :: rest => prepend '\n' (readLiteralLines rest)
  | c :: rest => if isPlain c then prepend c (readLiteralLines rest) else none

/-- The text without a newline at its start. -/
def dropFirstNewline (text : List Char) : List Char :=
  (readNewline text).getD text

/-- Read a string in any of the four forms. -/
def readString : Reader String := fun text =>
  let content :=
    match text with
    | '"' :: '"' :: '"' :: rest => readBasicLines false (dropFirstNewline rest)
    | '"' :: rest => readBasic rest
    | '\'' :: '\'' :: '\'' :: rest => readLiteralLines (dropFirstNewline rest)
    | '\'' :: rest => readLiteral rest
    | _ => none
  content.map fun (content, rest) => (String.ofList content, rest)

/-- Characters of keys without quotes. -/
def isBareKey (c : Char) : Bool :=
  c.isAlphanum || c == '_' || c == '-'

/-- Read one part of a key. -/
def readKeyPart : Reader String
  | '"' :: rest => (readBasic rest).map fun (content, rest) => (String.ofList content, rest)
  | '\'' :: rest => (readLiteral rest).map fun (content, rest) => (String.ofList content, rest)
  | text =>
    let bare := text.takeWhile isBareKey
    if bare.isEmpty then none else some (String.ofList bare, text.dropWhile isBareKey)

/-- Read a key of at most `limit` parts with dots between them and white space around them. -/
def readKeyParts : (limit : Nat) → Reader (List String)
  | 0, _ => none
  | limit + 1, text =>
    (readKeyPart (skipBlanks text)).bind fun (part, rest) =>
      match skipBlanks rest with
      | '.' :: rest => (readKeyParts limit rest).map fun (parts, rest) => (part :: parts, rest)
      | rest => some ([part], rest)

/-- How deep arrays, inline tables and dotted keys may nest. -/
def nestingLimit : Nat := 79

/-- Read a key. -/
def readKey : Reader (List String) :=
  readKeyParts nestingLimit

end Highlighter.Toml
