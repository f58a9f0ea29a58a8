import Highlighter.Pattern.Expr
import Highlighter.Text.Hex

/-!
# Symbols of the pattern notation

The notation of a pattern is first cut into symbols: characters, classes, edges, repetitions,
group brackets and flag settings. Whether the brackets balance and what a repetition applies to
is settled afterwards, when the symbols are assembled into an expression.

Only a part of the usual notation is read, the one that the rules of grammars need. A pattern that
uses anything else is refused like one that is not well formed. Refused are

- the switches `x` (blanks and comments between symbols), `R` (lines that end in two characters) and
  `u` (classes of all scripts), turned on or off, as in `(?-u:…)`. The classes `\w`, `\d` and `\s`,
  the edges of words and the cases of letters are always those of all scripts.
- properties of characters (`\p`) besides the names in `property?`: other categories, scripts,
  properties that are no categories, properties with a value, and other names of the same ones.
- edges that tell the start of a word from its end, such as `\b{start}`, `\b{end-half}`, `\<` and
  `\>`.
-/

namespace Highlighter

/-- Why the notation of a pattern is refused. -/
inductive PatternError where
  | danglingEscape
  | unknownEscape (c : Char)
  | backReference
  | badCodePoint
  | unknownProperty (name : String)
  | unclosedClass
  | badClassRange
  | badClassItem
  | unclosedRepetition
  | badRepetitionCount
  | reversedRepetition
  | nothingToRepeat
  | lookAround
  /-- The switches are not well formed, or one of them is none of `PatternFlag`. -/
  | badFlags
  | badGroupName
  | unclosedGroup
  | unopenedGroup
  /-- Brackets and repetitions are nested too deep. -/
  | tooDeep
  /-- The program of the pattern would be too large. -/
  | tooLarge
  deriving DecidableEq, Repr

/-- Switches that a pattern may set for the rest of a group. -/
structure PatternFlags where
  ignoreCase : Bool := false
  multiLine : Bool := false
  dotMatchesNewline : Bool := false
  swapGreed : Bool := false
  deriving DecidableEq, Repr

/-- The name of one switch. -/
inductive PatternFlag where
  | ignoreCase
  | multiLine
  | dotMatchesNewline
  | swapGreed
  deriving DecidableEq, Repr

/-- Turn one switch on or off. -/
def PatternFlags.set (flags : PatternFlags) (flag : PatternFlag) (on : Bool) : PatternFlags :=
  match flag with
  | .ignoreCase => { flags with ignoreCase := on }
  | .multiLine => { flags with multiLine := on }
  | .dotMatchesNewline => { flags with dotMatchesNewline := on }
  | .swapGreed => { flags with swapGreed := on }

/-- Switches with the value each is set to, in the order written. -/
abbrev FlagChanges := List (PatternFlag × Bool)

/-- Carry out the changes from left to right. -/
def PatternFlags.apply (flags : PatternFlags) (changes : FlagChanges) : PatternFlags :=
  changes.foldl (fun flags (flag, on) => flags.set flag on) flags

/-- What an opening bracket says about its group. -/
inductive GroupKind where
  /-- A group that only delimits, with the switches that it sets. -/
  | plain (changes : FlagChanges)
  | numbered
  | named (name : String)
  deriving DecidableEq, Repr

/-- One symbol of the pattern notation. -/
inductive PatternSymbol where
  | char (c : Char)
  /-- A set whose notation is nested `depth` deep. -/
  | oneOf (set : CharSet) (depth : Nat)
  | dot
  | caret
  | dollar
  | edge (edge : Edge)
  | repetition (least : Nat) (most : Option Nat) (greedy : Bool)
  | bar
  | openGroup (kind : GroupKind)
  | closeGroup
  | flags (changes : FlagChanges)
  deriving DecidableEq, Repr

namespace PatternSymbol

/-- The character with the code point that the digits write. -/
def hexChar? (digits : List Char) : Except PatternError Char :=
  match Hex.value? digits with
  | some code =>
    if digits ≠ [] ∧ code.isValidChar then .ok (Char.ofNat code) else .error .badCodePoint
  | none => .error .badCodePoint

/-- Characters that stand for themselves when a backslash precedes them. -/
def isEscapable (c : Char) : Bool :=
  c.toNat < 0x80 && !c.isAlphanum && c != '<' && c != '>'

/-- The set with a property name. Case, blanks, hyphens and underscores do not matter. No other
properties are known than these six categories, and they have no other names. -/
def property? (name : String) : Option CharSet :=
  let letters := name.toList.filter fun c => !(c == ' ' || c == '_' || c == '-')
  match String.ofList (letters.map Char.toLower) with
  | "l" | "letter" => some .letter
  | "n" | "number" => some .number
  | "lu" | "uppercaseletter" => some .upper
  | "ll" | "lowercaseletter" => some .lower
  | "nd" | "decimalnumber" => some .digit
  | "m" | "mark" => some .mark
  | _ => none

/-- What a backslash introduces: a character, a class or an edge. -/
inductive Escape where
  | char (c : Char)
  | oneOf (set : CharSet)
  | edge (edge : Edge)

/-- The symbol that a backslash and what follows it stand for. -/
def Escape.toSymbol : Escape → PatternSymbol
  | .char c => .char c
  | .oneOf members => .oneOf members 0
  | .edge place => .edge place

/-- Read the code point after `\x`, `\u` or `\U`, which has `width` digits unless braced. -/
def readCodePoint (width : Nat) : List Char → Except PatternError (Char × List Char)
  | '{' :: rest =>
    match rest.dropWhile (· != '}') with
    | '}' :: after => (hexChar? (rest.takeWhile (· != '}'))).map (·, after)
    | _ => .error .badCodePoint
  | rest =>
    if rest.length < width then .error .badCodePoint
    else (hexChar? (rest.take width)).map (·, rest.drop width)

/-- Read the property after `\p` or `\P`. -/
def readProperty (negated : Bool) : List Char → Except PatternError (CharSet × List Char)
  | '{' :: rest =>
    match rest.dropWhile (· != '}') with
    | '}' :: after => named (String.ofList (rest.takeWhile (· != '}'))) after
    | _ => .error .danglingEscape
  | c :: rest => named c.toString rest
  | [] => .error .danglingEscape
where
  named (name : String) (after : List Char) : Except PatternError (CharSet × List Char) :=
    match property? name with
    | some set => .ok (if negated then .complement set else set, after)
    | none => .error (.unknownProperty name)

/-- Read what follows a backslash. The edges of words are `\b` and `\B` only: a brace behind them
begins a repetition, so `\b{start}` is refused, and `\<` and `\>` are unknown. -/
def readEscape : List Char → Except PatternError (Escape × List Char)
  | [] => .error .danglingEscape
  | c :: rest =>
    match c with
    | 'd' => .ok (.oneOf .digit, rest)
    | 'D' => .ok (.oneOf (.complement .digit), rest)
    | 's' => .ok (.oneOf .space, rest)
    | 'S' => .ok (.oneOf (.complement .space), rest)
    | 'w' => .ok (.oneOf .word, rest)
    | 'W' => .ok (.oneOf (.complement .word), rest)
    | 'p' => (readProperty false rest).map fun (set, after) => (.oneOf set, after)
    | 'P' => (readProperty true rest).map fun (set, after) => (.oneOf set, after)
    | 'x' => (readCodePoint 2 rest).map fun (c, after) => (.char c, after)
    | 'u' => (readCodePoint 4 rest).map fun (c, after) => (.char c, after)
    | 'U' => (readCodePoint 8 rest).map fun (c, after) => (.char c, after)
    | 'a' => .ok (.char '\x07', rest)
    | 'f' => .ok (.char '\x0c', rest)
    | 't' => .ok (.char '\t', rest)
    | 'n' => .ok (.char '\n', rest)
    | 'r' => .ok (.char '\r', rest)
    | 'v' => .ok (.char '\x0b', rest)
    | 'A' => .ok (.edge .textStart, rest)
    | 'z' => .ok (.edge .textEnd, rest)
    | 'b' => .ok (.edge .wordBoundary, rest)
    | 'B' => .ok (.edge .noWordBoundary, rest)
    | c =>
      if c.isDigit then .error .backReference
      else if isEscapable c then .ok (.char c, rest)
      else .error (.unknownEscape c)

/-- An element of a bracketed class that may start or end a range. -/
inductive ClassAtom where
  | char (c : Char)
  | oneOf (set : CharSet)

namespace ClassAtom

/-- The set that an element contributes when it is no end of a range. -/
def toSet : ClassAtom → CharSet
  | .char c => .single c
  | .oneOf set => set

/-- Read one element of a class. Edges have no place in a class. -/
def read : List Char → Except PatternError (ClassAtom × List Char)
  | [] => .error .unclosedClass
  | '\\' :: rest =>
    match readEscape rest with
    | .ok (.char c, after) => .ok (.char c, after)
    | .ok (.oneOf set, after) => .ok (.oneOf set, after)
    | .ok (.edge _, _) => .error .badClassItem
    | .error error => .error error
  | c :: rest => .ok (.char c, rest)

/-- Read one element or one range of a class. A hyphen before the closing bracket or before
another hyphen is no range. -/
def readRange (text : List Char) : Except PatternError (CharSet × List Char) := do
  let (low, rest) ← read text
  match rest with
  | [] => .error .unclosedClass
  | '-' :: ']' :: _ | '-' :: '-' :: _ => .ok (low.toSet, rest)
  | '-' :: rest =>
    let (high, rest) ← read rest
    match low, high with
    | .char low, .char high =>
      if low.toNat ≤ high.toNat then .ok (.range low high, rest) else .error .badClassRange
    | _, _ => .error .badClassItem
  | _ => .ok (low.toSet, rest)

end ClassAtom

/-- The set operators of a bracketed class, which bind weaker than juxtaposition. -/
inductive ClassOp where
  | inter
  | diff
  | symmDiff
  deriving DecidableEq, Repr

/-- A set with the depth to which brackets and operators are nested in its notation. -/
structure NestedSet where
  set : CharSet
  depth : Nat := 0
  deriving DecidableEq, Repr

/-- A bracketed class whose closing bracket has not been met. -/
structure OpenClass where
  negated : Bool
  /-- The operand and operator to the left of the current union, if any. -/
  pending : Option (NestedSet × ClassOp) := none
  /-- The union read since the last operator. -/
  union : CharSet := .none
  /-- The number of items in the current union. -/
  items : Nat := 0
  /-- The depth of the deepest item in the current union. -/
  depth : Nat := 0

namespace OpenClass

/-- Add an item to the current union. -/
def add (cls : OpenClass) (item : NestedSet) : OpenClass :=
  { cls with
    union := match cls.union with | .none => item.set | union => .union union item.set
    items := cls.items + 1
    depth := max cls.depth item.depth }

/-- The current union. It counts as nesting if it has several items. -/
def current (cls : OpenClass) : NestedSet :=
  ⟨cls.union, if cls.items ≤ 1 then cls.depth else cls.depth + 1⟩

/-- The set read so far: the pending operator applied to the current union. -/
def settled (cls : OpenClass) : NestedSet :=
  match cls.pending with
  | none => cls.current
  | some (left, op) =>
    let right := cls.current
    let set :=
      match op with
      | .inter => .inter left.set right.set
      | .diff => left.set.diff right.set
      | .symmDiff => left.set.symmDiff right.set
    ⟨set, max left.depth right.depth + 1⟩

/-- Start a new union to the right of an operator. Operators associate to the left. -/
def operate (cls : OpenClass) (op : ClassOp) : OpenClass :=
  { negated := cls.negated, pending := some (cls.settled, op) }

/-- The set of the whole class. -/
def close (cls : OpenClass) : NestedSet :=
  let settled := cls.settled
  ⟨if cls.negated then .complement settled.set else settled.set, settled.depth + 1⟩

/-- Read what may stand only right after an opening bracket: the sign of negation, hyphens,
and a closing bracket that is meant as a character. -/
def start (text : List Char) : OpenClass × List Char :=
  let (negated, text) :=
    match text with
    | '^' :: rest => (true, rest)
    | _ => (false, text)
  let cls : OpenClass := { negated }
  match text with
  | '-' :: _ =>
    let hyphens := text.takeWhile (· == '-')
    (hyphens.foldl (fun cls c => cls.add { set := .single c }) cls, text.dropWhile (· == '-'))
  | ']' :: rest => (cls.add { set := .single ']' }, rest)
  | _ => (cls, text)

end OpenClass

/-- The classes with an ASCII name, as in `[:alpha:]`. -/
def asciiClass? : String → Option CharSet
  | "alnum" => some (.union (.range '0' '9') (.union (.range 'A' 'Z') (.range 'a' 'z')))
  | "alpha" => some (.union (.range 'A' 'Z') (.range 'a' 'z'))
  | "ascii" => some (.range '\x00' '\x7f')
  | "blank" => some (.union (.single '\t') (.single ' '))
  | "cntrl" => some (.union (.range '\x00' '\x1f') (.single '\x7f'))
  | "digit" => some (.range '0' '9')
  | "graph" => some (.range '!' '~')
  | "lower" => some (.range 'a' 'z')
  | "print" => some (.range ' ' '~')
  | "punct" =>
    some (.union (.union (.range '!' '/') (.range ':' '@'))
      (.union (.range '[' '\x60') (.range '\x7b' '~')))
  | "space" => some (.union (.range '\t' '\r') (.single ' '))
  | "upper" => some (.range 'A' 'Z')
  | "word" =>
    some (.union (.union (.range '0' '9') (.single '_')) (.union (.range 'A' 'Z') (.range 'a' 'z')))
  | "xdigit" => some (.union (.range '0' '9') (.union (.range 'A' 'F') (.range 'a' 'f')))
  | _ => none

/-- Read a named class after its opening `[`, such as `:alpha:]` or `:^alpha:]`. -/
def readAsciiClass? : List Char → Option (CharSet × List Char)
  | ':' :: rest =>
    let (negated, rest) :=
      match rest with
      | '^' :: rest => (true, rest)
      | rest => (false, rest)
    match rest.dropWhile (· != ':') with
    | ':' :: ']' :: after =>
      (asciiClass? (String.ofList (rest.takeWhile (· != ':')))).map fun set =>
        (if negated then .complement set else set, after)
    | _ => none
  | _ => none

/-- Read a bracketed class up to the bracket that closes the outermost one. `outer` holds the
classes that enclose `cls`, innermost first; each step consumes a character, so `steps` equal
to the length of the text is always enough. -/
def readClass : (steps : Nat) → (cls : OpenClass) → (outer : List OpenClass) → List Char →
    Except PatternError (NestedSet × List Char)
  | 0, _, _, _ => .error .unclosedClass
  | _, _, _, [] => .error .unclosedClass
  | steps + 1, cls, outer, '[' :: rest =>
    match readAsciiClass? rest with
    | some (set, after) => readClass steps (cls.add { set }) outer after
    | none =>
      let (inner, after) := OpenClass.start rest
      readClass steps inner (cls :: outer) after
  | steps + 1, cls, outer, ']' :: rest =>
    match outer with
    | [] => .ok (cls.close, rest)
    | parent :: outer => readClass steps (parent.add cls.close) outer rest
  | steps + 1, cls, outer, '&' :: '&' :: rest => readClass steps (cls.operate .inter) outer rest
  | steps + 1, cls, outer, '-' :: '-' :: rest => readClass steps (cls.operate .diff) outer rest
  | steps + 1, cls, outer, '~' :: '~' :: rest => readClass steps (cls.operate .symmDiff) outer rest
  | steps + 1, cls, outer, text =>
    match ClassAtom.readRange text with
    | .ok (set, after) => readClass steps (cls.add { set }) outer after
    | .error error => .error error

/-- Read a decimal number with optional white space around it. Counts are kept in 32 bits. -/
def readCount (text : List Char) : Except PatternError (Option Nat × List Char) :=
  let text := text.dropWhile Unicode.isWhiteSpace
  let digits := text.takeWhile Char.isDigit
  let after := (text.dropWhile Char.isDigit).dropWhile Unicode.isWhiteSpace
  let value := digits.foldl (fun value c => value * 10 + (c.toNat - '0'.toNat)) 0
  if value < UInt32.size then .ok (if digits.isEmpty then none else some value, after)
  else .error .badRepetitionCount

/-- A repetition is lazy when a question mark follows it. -/
def withGreed (least : Nat) (most : Option Nat) : List Char → PatternSymbol × List Char
  | '?' :: rest => (.repetition least most false, rest)
  | rest => (.repetition least most true, rest)

/-- Read a counted repetition after its opening brace. -/
def readRepetition (text : List Char) : Except PatternError (PatternSymbol × List Char) := do
  let (least, rest) ← readCount text
  let some least := least | .error .badRepetitionCount
  match rest with
  | '}' :: rest => .ok (withGreed least (some least) rest)
  | ',' :: '}' :: rest => .ok (withGreed least none rest)
  | ',' :: rest =>
    let (most, rest) ← readCount rest
    let some most := most | .error .badRepetitionCount
    match rest with
    | '}' :: rest =>
      if least ≤ most then .ok (withGreed least (some most) rest) else .error .reversedRepetition
    | _ => .error .unclosedRepetition
  | _ => .error .unclosedRepetition

/-- The switch that a flag letter names. The letters `x`, `R` and `u` are not among them. -/
def flag? : Char → Option PatternFlag
  | 'i' => some .ignoreCase
  | 'm' => some .multiLine
  | 's' => some .dotMatchesNewline
  | 'U' => some .swapGreed
  | _ => none

/-- Read flag letters up to the colon or bracket that ends them. A hyphen may stand once and
not last; no switch may be named twice. -/
def readFlags (on : Bool) (seen : FlagChanges) :
    List Char → Except PatternError (PatternSymbol × List Char)
  | ')' :: rest => if seen.isEmpty then .error .badFlags else .ok (.flags seen.reverse, rest)
  | ':' :: rest => .ok (.openGroup (.plain seen.reverse), rest)
  | '-' :: next :: rest =>
    if on && (flag? next).isSome then readFlags false seen (next :: rest) else .error .badFlags
  | c :: rest =>
    match flag? c with
    | some flag =>
      if seen.any (·.1 == flag) then .error .badFlags else readFlags on ((flag, on) :: seen) rest
    | none => .error .badFlags
  | [] => .error .unclosedGroup

/-- Read the name of a group up to its closing angle bracket. -/
def readGroupName (text : List Char) : Except PatternError (PatternSymbol × List Char) :=
  let name := text.takeWhile (· != '>')
  let wellFormed :=
    match name with
    | [] => false
    | first :: others =>
      (first == '_' || Unicode.isLetter first)
        && others.all fun c => Unicode.isWord c || c == '.' || c == '[' || c == ']'
  match text.dropWhile (· != '>') with
  | '>' :: rest =>
    if wellFormed then .ok (.openGroup (.named (String.ofList name)), rest)
    else .error .badGroupName
  | _ => .error .badGroupName

/-- Read what follows an opening round bracket. -/
def readGroup : List Char → Except PatternError (PatternSymbol × List Char)
  | '?' :: '=' :: _ | '?' :: '!' :: _ | '?' :: '<' :: '=' :: _ | '?' :: '<' :: '!' :: _ =>
    .error .lookAround
  | '?' :: 'P' :: '<' :: rest | '?' :: '<' :: rest => readGroupName rest
  | '?' :: rest => readFlags true [] rest
  | rest => .ok (.openGroup .numbered, rest)

/-- Read one symbol from a text that starts with `c`. -/
def read (c : Char) (rest : List Char) : Except PatternError (PatternSymbol × List Char) :=
  match c with
  | '.' => .ok (.dot, rest)
  | '^' => .ok (.caret, rest)
  | '$' => .ok (.dollar, rest)
  | '|' => .ok (.bar, rest)
  | '*' => .ok (withGreed 0 none rest)
  | '+' => .ok (withGreed 1 none rest)
  | '?' => .ok (withGreed 0 (some 1) rest)
  | '\x7b' => readRepetition rest
  | '(' => readGroup rest
  | ')' => .ok (.closeGroup, rest)
  | '[' =>
    let (cls, after) := OpenClass.start rest
    (readClass rest.length cls [] after).map fun (cls, after) => (.oneOf cls.set cls.depth, after)
  | '\\' =>
    (readEscape rest).map fun (escape, after) => (escape.toSymbol, after)
  | c => .ok (.char c, rest)

/-- Read all symbols. Each step consumes a character, so `steps` equal to the length of the
text is always enough. -/
def readAll : (steps : Nat) → List Char → Except PatternError (List PatternSymbol)
  | _, [] => .ok []
  | 0, _ :: _ => .ok []
  | steps + 1, c :: rest => do
    let (symbol, rest) ← read c rest
    return symbol :: (← readAll steps rest)

/-- The symbols of a pattern's notation. -/
def ofText (text : List Char) : Except PatternError (List PatternSymbol) :=
  readAll text.length text

end PatternSymbol

end Highlighter
