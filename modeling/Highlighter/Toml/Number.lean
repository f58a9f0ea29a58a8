import Highlighter.Toml.Lexeme
import Highlighter.Toml.Value

/-!
# Numbers, dates and times in TOML text

A digit or a sign begins a date, a time, a floating-point number or an integer. The readers are
tried in that order, since the start of a date also reads as a number.
-/

namespace Highlighter.Toml

/-- The value of a run of decimal digits. -/
def decimalValue (digits : List Char) : Nat :=
  digits.foldl (fun value c => value * 10 + (c.toNat - '0'.toNat)) 0

/-- Read exactly `count` decimal digits. -/
def readDigits (count : Nat) : Reader Nat := fun text =>
  let digits := text.take count
  if digits.length = count ∧ digits.all Char.isDigit then
    some (decimalValue digits, text.drop count)
  else none

/-- Read one given character. -/
def readChar (c : Char) : Reader Unit
  | [] => none
  | other :: rest => if other = c then some ((), rest) else none

/-- Read a number of `count` digits within bounds. -/
def readBounded (count least most : Nat) : Reader Nat := fun text =>
  (readDigits count text).filter fun (value, _) => least ≤ value && value ≤ most

/-- Read a date. -/
def readDate : Reader Date := fun text => do
  let (year, text) ← readDigits 4 text
  let (_, text) ← readChar '-' text
  let (month, text) ← readBounded 2 1 12 text
  let (_, text) ← readChar '-' text
  let (day, text) ← readBounded 2 1 (daysInMonth year month) text
  return ({ year, month, day }, text)

/-- Read the fraction of a second, if there is one. Digits beyond the ninth are dropped. -/
def readNanoseconds : Reader Nat
  | '.' :: text =>
    let digits := text.takeWhile Char.isDigit
    if digits.isEmpty then none
    else
      let kept := digits.take 9
      some (decimalValue kept * Nat.pow 10 (9 - kept.length), text.dropWhile Char.isDigit)
  | text => some (0, text)

/-- Read a time of day. -/
def readTime : Reader Time := fun text => do
  let (hour, text) ← readBounded 2 0 23 text
  let (_, text) ← readChar ':' text
  let (minute, text) ← readBounded 2 0 59 text
  let (_, text) ← readChar ':' text
  let (second, text) ← readBounded 2 0 60 text
  let (nanosecond, text) ← readNanoseconds text
  return ({ hour, minute, second, nanosecond }, text)

/-- Read an offset, if there is one. -/
def readOffset : Reader (Option Offset)
  | 'Z' :: text | 'z' :: text => some (some .universal, text)
  | sign :: text =>
    if sign = '+' ∨ sign = '-' then do
      let (hour, text) ← readBounded 2 0 23 text
      let (_, text) ← readChar ':' text
      let (minute, text) ← readBounded 2 0 59 text
      let distance : Int := hour * 60 + minute
      return (some (.minutes (if sign = '-' then -distance else distance)), text)
    else some (none, sign :: text)
  | [] => some (none, [])

/-- Read the time and offset behind a date, if a letter or a blank introduces them. -/
def readTimeAfterDate : Reader (Option (Time × Option Offset)) := fun text =>
  let timed :=
    match text with
    | c :: rest =>
      if c = 'T' ∨ c = 't' ∨ c = ' ' then do
        let (time, rest) ← readTime rest
        let (offset, rest) ← readOffset rest
        return (some (time, offset), rest)
      else none
    | [] => none
  some (timed.getD (none, text))

/-- Read a date, a time, or both. -/
def readDatetime : Reader Datetime := fun text =>
  match readDate text with
  | some (date, rest) =>
    (readTimeAfterDate rest).map fun (timed, rest) =>
      ({ date := some date, time := timed.map (·.1), offset := timed.bind (·.2) }, rest)
  | none => (readTime text).map fun (time, rest) => ({ time := some time }, rest)

/-- Read what follows the first digit of a number: more digits, and single underscores between
digits. The underscores are left out. -/
def readMoreDigits (isDigit : Char → Bool) : Reader (List Char)
  | [] => some ([], [])
  | '_' :: c :: rest => if isDigit c then prepend c (readMoreDigits isDigit rest) else none
  | c :: rest =>
    if isDigit c then prepend c (readMoreDigits isDigit rest)
    else if c = '_' then none
    else some ([], c :: rest)

/-- Read a run of digits of a kind. -/
def readDigitRun (isDigit : Char → Bool) : Reader (List Char)
  | [] => none
  | c :: rest => if isDigit c then prepend c (readMoreDigits isDigit rest) else none

/-- Read a sign, if there is one, and tell whether it is a minus. -/
def readSign : List Char → Bool × List Char
  | '+' :: rest => (false, rest)
  | '-' :: rest => (true, rest)
  | text => (false, text)

/-- Read a decimal number without sign. A zero stands alone. -/
def readWhole : Reader (List Char)
  | '0' :: rest => some (['0'], rest)
  | text => readDigitRun Char.isDigit text

/-- Read the fraction of a number after its point, if there is one. -/
def readFraction : Reader (List Char)
  | '.' :: rest => readDigitRun Char.isDigit rest
  | text => some ([], text)

/-- Read the exponent of a number, if there is one. -/
def readExponent : Reader (Option Int)
  | c :: rest =>
    if c = 'e' ∨ c = 'E' then
      let (negative, rest) := readSign rest
      (readDigitRun Char.isDigit rest).map fun (digits, rest) =>
        let magnitude : Int := decimalValue digits
        (some (if negative then -magnitude else magnitude), rest)
    else some (none, c :: rest)
  | [] => some (none, [])

/-- The value of a number with a fraction or an exponent. A number too great to be written is
refused if it is positive, and infinite if it is negative. -/
def floatValue? (negative : Bool) (whole fraction : List Char) (exponent : Int) : Option Value :=
  let digits := decimalValue (whole ++ fraction)
  match Binary64.ofDecimal negative digits (exponent - fraction.length) with
  | .infinite false => none
  | value => some (.float value)

/-- The least and the greatest integer. -/
def isWord (value : Int) : Bool :=
  -0x8000000000000000 ≤ value && value < 0x8000000000000000

/-- Read a decimal integer or a floating-point number. -/
def readDecimal : Reader Value := fun text => do
  let (negative, text) := readSign text
  let (whole, text) ← readWhole text
  let (fraction, text) ← readFraction text
  let (exponent, text) ← readExponent text
  if fraction.isEmpty && exponent.isNone then
    let magnitude : Int := decimalValue whole
    let value := if negative then -magnitude else magnitude
    if isWord value then return (.integer value, text) else none
  else return (← floatValue? negative whole fraction (exponent.getD 0), text)

/-- Read the digits of an integer in a base of two, eight or sixteen. -/
def readInBase (base : Nat) (isDigit : Char → Bool) : Reader Value := fun text => do
  let (digits, text) ← readDigitRun isDigit text
  let value := digits.foldl (fun value c => value * base + (Hex.digitValue? c).getD 0) 0
  if isWord value then return (.integer value, text) else none

/-- Read `inf` or `nan` with an optional sign, which `nan` does not keep. -/
def readSpecial : Reader Value := fun text =>
  match readSign text with
  | (negative, 'i' :: 'n' :: 'f' :: rest) => some (.float (.infinite negative), rest)
  | (_, 'n' :: 'a' :: 'n' :: rest) => some (.float .nan, rest)
  | _ => none

/-- Read a number. -/
def readNumber : Reader Value
  | '0' :: 'x' :: rest => readInBase 16 (fun c => (Hex.digitValue? c).isSome) rest
  | '0' :: 'o' :: rest => readInBase 8 (fun c => '0' ≤ c && c ≤ '7') rest
  | '0' :: 'b' :: rest => readInBase 2 (fun c => c == '0' || c == '1') rest
  | text => (readSpecial text).or (readDecimal text)

end Highlighter.Toml
