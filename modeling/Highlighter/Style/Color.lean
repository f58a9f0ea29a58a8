import Highlighter.Text.Hex
import Highlighter.Unicode.Space

/-!
# Colors

A color is written as a hash sign with two hexadecimal digits for each of red, green and blue,
or with one digit for each, which then stands for two equal ones.
-/

namespace Highlighter

/-- A color of 24 bits. -/
structure Color where
  red : UInt8
  green : UInt8
  blue : UInt8
  deriving DecidableEq, Repr

namespace Color

/-- The text without white space at either end. -/
def trim (text : List Char) : List Char :=
  ((text.dropWhile Unicode.isWhiteSpace).reverse.dropWhile Unicode.isWhiteSpace).reverse

/-- The component that two digits write. -/
def component (high low : Nat) : UInt8 :=
  UInt8.ofNat (16 * high + low)

/-- The color that a text writes, with white space around it allowed. -/
def ofHex? (text : String) : Option Color :=
  match trim text.toList with
  | '#' :: digits =>
    match digits.mapM Hex.digitValue? with
    | some [r, g, b] => some ⟨component r r, component g g, component b b⟩
    | some [r₁, r₀, g₁, g₀, b₁, b₀] =>
      some ⟨component r₁ r₀, component g₁ g₀, component b₁ b₀⟩
    | _ => none
  | _ => none

/-- The color in its long form with upper-case digits. -/
def toHex (color : Color) : String :=
  String.ofList <| '#' ::
    (Hex.digits 2 color.red.toNat ++ Hex.digits 2 color.green.toNat
      ++ Hex.digits 2 color.blue.toNat)

end Color

end Highlighter
