/-!
# Hexadecimal digits

Reading and writing numbers in base sixteen. Digits may be written in either case.
-/

namespace Highlighter.Hex

/-- The value of a hexadecimal digit. -/
def digitValue? (c : Char) : Option Nat :=
  if c.isDigit then some (c.toNat - '0'.toNat)
  else if 'a' ≤ c ∧ c ≤ 'f' then some (c.toNat - 'a'.toNat + 10)
  else if 'A' ≤ c ∧ c ≤ 'F' then some (c.toNat - 'A'.toNat + 10)
  else none

/-- The number that hexadecimal digits write; no digits write zero. -/
def value? (digits : List Char) : Option Nat :=
  digits.foldlM (fun value c => (digitValue? c).map (value * 16 + ·)) 0

/-- The upper-case digit of a number below sixteen. -/
def digit (value : Nat) : Char :=
  if value < 10 then Char.ofNat ('0'.toNat + value) else Char.ofNat ('A'.toNat + (value - 10))

/-- The last `width` digits of a number, upper case, with leading zeros. -/
def digits (width value : Nat) : List Char :=
  match width with
  | 0 => []
  | width + 1 => digits width (value / 16) ++ [digit (value % 16)]

end Highlighter.Hex
