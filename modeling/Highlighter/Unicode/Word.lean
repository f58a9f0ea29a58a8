import Highlighter.Unicode.Letter
import Highlighter.Unicode.Mark
import Highlighter.Unicode.Number

/-!
# Word characters

A word character is alphabetic, a mark, a decimal digit, a connector such as the underscore,
or one of the two joining controls. Word boundaries in patterns are drawn by this class.
-/

namespace Highlighter.Unicode

/-- Circled and squared letters, which are alphabetic without being letters. -/
def symbolLetterRanges : Ranges := #[
  (0x24B6, 0x24E9), (0x1F130, 0x1F149), (0x1F150, 0x1F169), (0x1F170, 0x1F189)]

/-- Connector punctuation outside ASCII. -/
def connectorRanges : Ranges := #[
  (0x203F, 0x2040), (0x2054, 0x2054), (0xFE33, 0xFE34), (0xFE4D, 0xFE4F), (0xFF3F, 0xFF3F)]

/-- Whether a character may be part of a word. ASCII is decided without the tables. -/
def isWord (c : Char) : Bool :=
  if c.toNat < 0x80 then c.isAlphanum || c == '_'
  else
    isLetter c || isMark c || isDecimalDigit c || isLetterNumber c
      || symbolLetterRanges.contains c.toNat || connectorRanges.contains c.toNat
      || c.toNat = 0x200C || c.toNat = 0x200D

end Highlighter.Unicode
