/-!
# White space

The property `White_Space`. The pattern class `\s`, the trimming of color values and the
counts of a repetition all use this one set.
-/

namespace Highlighter.Unicode

/-- Whether a character is white space in any script. -/
def isWhiteSpace (c : Char) : Bool :=
  let code := c.toNat
  (0x09 ≤ code && code ≤ 0x0D) || code = 0x20 || code = 0x85 || code = 0xA0 || code = 0x1680
    || (0x2000 ≤ code && code ≤ 0x200A) || code = 0x2028 || code = 0x2029 || code = 0x202F
    || code = 0x205F || code = 0x3000

end Highlighter.Unicode
