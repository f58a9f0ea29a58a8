import Highlighter.Unicode.CaseFolding
import Highlighter.Unicode.LetterCase
import Highlighter.Unicode.Space
import Highlighter.Unicode.Word

/-!
# Sets of characters

The set of characters that one position of a pattern accepts. A set is kept as the expression
that describes it, and `CharSet.member` decides membership.
-/

namespace Highlighter

/-- An expression that describes a set of characters. -/
inductive CharSet where
  /-- The characters from `first` to `last`, both included. -/
  | range (first last : Char)
  /-- Characters that may be part of a word. -/
  | word
  /-- Decimal digits of any script. -/
  | digit
  /-- White space. -/
  | space
  /-- Letters of any script. -/
  | letter
  /-- Numbers of any kind. -/
  | number
  /-- Upper-case letters. -/
  | upper
  /-- Lower-case letters. -/
  | lower
  /-- Combining marks. -/
  | mark
  /-- No character at all. -/
  | none
  | union (left right : CharSet)
  | inter (left right : CharSet)
  /-- All characters outside `set`. -/
  | complement (set : CharSet)
  /-- All case variants of the members of `set`. -/
  | caseFolded (set : CharSet)
  deriving DecidableEq, Repr, Inhabited

namespace CharSet

/-- The set that holds one character. -/
def single (c : Char) : CharSet :=
  .range c c

/-- Every character. -/
def any : CharSet :=
  .complement .none

/-- Every character but the newline. -/
def notNewline : CharSet :=
  .complement (single '\n')

/-- The members of `left` that are not in `right`. -/
def diff (left right : CharSet) : CharSet :=
  .inter left (.complement right)

/-- The characters that lie in exactly one of the two sets. -/
def symmDiff (left right : CharSet) : CharSet :=
  .union (left.diff right) (right.diff left)

/-- Whether a character belongs to the set. -/
def member : CharSet → Char → Bool
  | .range first last, c => first.toNat ≤ c.toNat && c.toNat ≤ last.toNat
  | .word, c => Unicode.isWord c
  | .digit, c => Unicode.isDecimalDigit c
  | .space, c => Unicode.isWhiteSpace c
  | .letter, c => Unicode.isLetter c
  | .number, c => Unicode.isNumber c
  | .upper, c => Unicode.isUpper c
  | .lower, c => Unicode.isLower c
  | .mark, c => Unicode.isMark c
  | .none, _ => false
  | .union left right, c => left.member c || right.member c
  | .inter left right, c => left.member c && right.member c
  | .complement set, c => !set.member c
  | .caseFolded set, c => (Unicode.caseVariants c).any set.member

/-- The set as read without regard to case. Case variants are taken at the leaves, so a
complement excludes every variant of what it names; the classes `\w`, `\d` and `\s` hold all
variants of their members already. -/
def ignoringCase : CharSet → CharSet
  | .union left right => .union left.ignoringCase right.ignoringCase
  | .inter left right => .inter left.ignoringCase right.ignoringCase
  | .complement set => .complement set.ignoringCase
  | .word => .word
  | .digit => .digit
  | .space => .space
  | .none => .none
  | leaf => .caseFolded leaf

end CharSet

end Highlighter
