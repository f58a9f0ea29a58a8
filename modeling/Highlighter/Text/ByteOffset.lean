import Highlighter.Text.Basic

/-!
# Byte offsets

Offsets inside the library count characters. Files and other programs count the bytes of the
UTF-8 form, and this module converts between the two.
-/

namespace Highlighter.Text

/-- The number of bytes before the character at `offset`. -/
def byteOffset (text : Text) (offset : Nat) : Nat :=
  (text.take offset).foldr (fun c bytes => c.utf8Size + bytes) 0

/-- The number of characters before the byte at `bytes`, or `none` past the end. A place inside
a character counts as the place behind it. -/
def charOffset? : Text → (bytes : Nat) → Option Nat
  | _, 0 => some 0
  | [], _ + 1 => none
  | c :: rest, bytes => (charOffset? rest (bytes - c.utf8Size)).map (· + 1)

end Highlighter.Text
