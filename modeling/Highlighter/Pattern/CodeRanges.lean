import Highlighter.Pattern.CharSet

/-!
# Sets as ranges of code points

A set of characters can be listed as ranges of code points: ascending, without overlap, and so
long that no two of them touch. The code points that are no characters lie between two neighbours.
-/

namespace Highlighter

namespace CodeRanges

/-- The code point of the next character. -/
def next (code : Nat) : Nat :=
  if code = 0xD7FF then 0xE000 else code + 1

/-- The code point of the character before. -/
def previous (code : Nat) : Nat :=
  if code = 0xE000 then 0xD7FF else code - 1

/-- The greatest code point. -/
def last : Nat := 0x10FFFF

/-- Join ranges that touch or overlap with the range before them. The ranges are ascending by
their starts, and `current` is the range before them. -/
def join (current : Nat × Nat) : List (Nat × Nat) → List (Nat × Nat)
  | [] => [current]
  | range :: ranges =>
    if range.1 ≤ next current.2 then join (current.1, max current.2 range.2) ranges
    else current :: join range ranges

/-- The ranges in order, with ranges that touch or overlap joined. -/
def ofRanges (ranges : List (Nat × Nat)) : List (Nat × Nat) :=
  match ranges.mergeSort fun left right => left.1 ≤ right.1 with
  | [] => []
  | first :: rest => join first rest

/-- The gaps between ranges in order, from the code point `first` on. -/
def gaps (first : Nat) : List (Nat × Nat) → List (Nat × Nat)
  | [] => if first ≤ last then [(first, last)] else []
  | (low, high) :: ranges =>
    if first < low then (first, previous low) :: gaps (next high) ranges
    else gaps (next high) ranges

/-- Every second code point of each range, from its start on. -/
def alternate (ranges : Unicode.Ranges) : List (Nat × Nat) :=
  ranges.toList.flatMap fun (low, high) =>
    (List.range ((high - low) / 2 + 1)).map fun step => (low + 2 * step, low + 2 * step)

/-- The digits of ASCII. -/
def asciiDigits : Nat × Nat := (0x30, 0x39)

/-- The upper-case letters of ASCII. -/
def asciiUpper : Nat × Nat := (0x41, 0x5A)

/-- The lower-case letters of ASCII. -/
def asciiLower : Nat × Nat := (0x61, 0x7A)

/-- All letters. -/
def letters : List (Nat × Nat) :=
  asciiUpper :: asciiLower :: Unicode.letterRanges.toList

/-- All combining marks. -/
def marks : List (Nat × Nat) :=
  Unicode.nonspacingMarkRanges.toList ++ Unicode.spacingMarkRanges.toList

/-- All decimal digits. -/
def digits : List (Nat × Nat) :=
  asciiDigits :: Unicode.decimalDigitRanges.toList

/-- All characters that may be part of a word. -/
def wordCharacters : List (Nat × Nat) :=
  letters ++ marks ++ digits ++ Unicode.letterNumberRanges.toList
    ++ Unicode.symbolLetterRanges.toList ++ Unicode.connectorRanges.toList
    ++ [(0x5F, 0x5F), (0x200C, 0x200D)]

/-- All white space. -/
def whiteSpace : List (Nat × Nat) := [
  (0x09, 0x0D), (0x20, 0x20), (0x85, 0x85), (0xA0, 0xA0), (0x1680, 0x1680), (0x2000, 0x200A),
  (0x2028, 0x2029), (0x202F, 0x202F), (0x205F, 0x205F), (0x3000, 0x3000)]

/-- Every code point that has case variants, with the folded form it shares with them. -/
def foldings : List (Nat × Nat) :=
  let ascii := (List.range 26).map fun letter => (0x41 + letter, 0x61 + letter)
  let shifted := Unicode.foldShifts.toList.flatMap fun (low, high, target) =>
    (List.range (high - low + 1)).map fun step => (low + step, target + step)
  let alternating := (alternate Unicode.foldAlternating).map fun (code, _) => (code, code + 1)
  ascii ++ shifted ++ alternating

end CodeRanges

/-- The members of a set as ranges of code points. -/
def CharSet.codeRanges : CharSet → List (Nat × Nat)
  | .range first last => if first.toNat ≤ last.toNat then [(first.toNat, last.toNat)] else []
  | .word => CodeRanges.ofRanges CodeRanges.wordCharacters
  | .digit => CodeRanges.ofRanges CodeRanges.digits
  | .space => CodeRanges.ofRanges CodeRanges.whiteSpace
  | .letter => CodeRanges.ofRanges CodeRanges.letters
  | .number =>
    CodeRanges.ofRanges (CodeRanges.digits ++ Unicode.letterNumberRanges.toList
      ++ Unicode.otherNumberRanges.toList)
  | .upper =>
    CodeRanges.ofRanges (CodeRanges.asciiUpper :: Unicode.upperRanges.toList
      ++ CodeRanges.alternate Unicode.upperAlternating)
  | .lower =>
    CodeRanges.ofRanges (CodeRanges.asciiLower :: Unicode.lowerRanges.toList
      ++ CodeRanges.alternate Unicode.lowerAlternating)
  | .mark => CodeRanges.ofRanges CodeRanges.marks
  | .none => []
  | .union left right => CodeRanges.ofRanges (left.codeRanges ++ right.codeRanges)
  | .inter left right =>
    CodeRanges.gaps 0 (CodeRanges.ofRanges
      (CodeRanges.gaps 0 left.codeRanges ++ CodeRanges.gaps 0 right.codeRanges))
  | .complement set => CodeRanges.gaps 0 set.codeRanges
  | .caseFolded set =>
    CodeRanges.ofRanges (set.codeRanges ++ CodeRanges.foldings.flatMap fun (code, folded) =>
      if (Unicode.caseVariants (Char.ofNat folded)).any set.member then
        [(code, code), (folded, folded)]
      else [])

end Highlighter
