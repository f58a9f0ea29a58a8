import Highlighter.Pattern.CodeRanges
import Highlighter.Pattern.Expr

/-!
# The size of a pattern

A pattern is refused if the program that reads it byte by byte would be too large. The size of
that program is counted in bytes of memory: it has a state for every literal byte, states for
each byte of the UTF-8 forms of a set, and a copy of a repeated body for every counted round.
The counts are only multiplied here, so a size can be found without laying out the program.
-/

namespace Highlighter

/-- One range for each byte of a sequence of bytes. -/
abbrev ByteRanges := List (Nat × Nat)

namespace ByteRanges

/-- The byte sequences of the code points from `low` to `high` that have `continuation` bytes
behind the first one, whose tag is `tag`. Each continuation byte holds six bits. -/
def ofCodes (tag : Nat) : (continuation : Nat) → (low high : Nat) → List ByteRanges
  | 0, low, high => [[(tag + low, tag + high)]]
  | continuation + 1, low, high =>
    let byte (bits : Nat) : Nat := 0x80 + bits
    let (lowBlock, lowBits) := (low / 64, low % 64)
    let (highBlock, highBits) := (high / 64, high % 64)
    let within (first last : Nat) (bits : Nat × Nat) : List ByteRanges :=
      (ofCodes tag continuation first last).map (· ++ [(byte bits.1, byte bits.2)])
    if lowBlock = highBlock then within lowBlock lowBlock (lowBits, highBits)
    else
      let firstFull := if lowBits = 0 then lowBlock else lowBlock + 1
      let endFull := if highBits = 63 then highBlock + 1 else highBlock
      (if lowBits = 0 then [] else within lowBlock lowBlock (lowBits, 63))
        ++ (if firstFull < endFull then within firstFull (endFull - 1) (0, 63) else [])
        ++ (if highBits = 63 then [] else within highBlock highBlock (0, highBits))

/-- The code points whose UTF-8 forms have the same length, with the tag of the first byte and
the number of further bytes. No form spans the code points that are no characters. -/
def forms : List (Nat × Nat × Nat × Nat) := [
  (0, 0x7F, 0, 0), (0x80, 0x7FF, 0xC0, 1), (0x800, 0xD7FF, 0xE0, 2), (0xE000, 0xFFFF, 0xE0, 2),
  (0x10000, 0x10FFFF, 0xF0, 3)]

/-- The byte sequences of a range of code points. -/
def ofRange (range : Nat × Nat) : List ByteRanges :=
  forms.flatMap fun (first, last, tag, continuation) =>
    let (low, high) := (max first range.1, min last range.2)
    if low ≤ high then ofCodes tag continuation low high else []

/-- The length of the longest common start of two sequences. -/
def sharedLength : ByteRanges → ByteRanges → Nat
  | left :: lefts, right :: rights => if left = right then sharedLength lefts rights + 1 else 0
  | _, _ => 0

/-- The number of bytes in sequences in order, where a sequence shares with the one before it
what both start with. -/
def unsharedBytes (before : ByteRanges) : List ByteRanges → Nat
  | [] => 0
  | sequence :: sequences =>
    sequence.length - sharedLength before sequence + unsharedBytes sequence sequences

end ByteRanges

namespace PatternSize

/-- The size of one state. -/
def state : Nat := 32

/-- The size of one way out of a state that has several. -/
def link : Nat := 4

/-- The size of one range in a state that has several. -/
def range : Nat := 8

/-- The size of a state that can be left for a body or for what follows. -/
def fork : Nat := state + 2 * link

/-- The size that every program has besides its expression. -/
def fixed : Nat := 1072

/-- The size that is not exceeded by any accepted program. -/
def limit : Nat := 10 * 1024 * 1024

/-- The size of ordered alternatives besides the alternatives themselves. A single alternative
needs nothing more. -/
def alternatives (count : Nat) : Nat :=
  if count ≤ 1 then 0 else 2 * state + link * count

/-- The size of a repeated body. -/
def rounds (body : Nat) (nullable : Bool) (least : Nat) (most : Option Nat) : Nat :=
  match least, most with
  | 0, none => if nullable then 2 * fork + state + body else fork + body
  | least, none => least * body + fork
  | 0, some 1 => fork + state + body
  | least, some most =>
    if most ≤ least then least * body
    else (if least = 0 then state else least * body) + state + (most - least) * (fork + body)

end PatternSize

namespace CharSet

/-- The size of the states that read one character of the set. -/
def size (set : CharSet) : Nat :=
  let ranges := set.codeRanges
  match ranges with
  | [] => PatternSize.state
  | [(low, high)] =>
    if low = high then PatternSize.state * (Char.ofNat low).utf8Size else ofRanges ranges
  | ranges => ofRanges ranges
where
  /-- The size for several members. ASCII ranges fit into a single state. -/
  ofRanges (ranges : List (Nat × Nat)) : Nat :=
    if ranges.all fun (_, high) => high < 0x80 then
      2 * PatternSize.state + PatternSize.range * ranges.length
    else
      let sequences := ranges.flatMap ByteRanges.ofRange
      2 * PatternSize.state + PatternSize.state * ByteRanges.unsharedBytes [] sequences
        + PatternSize.link * sequences.length

/-- A bound on the size that is found without listing the set. -/
def sizeBound : CharSet → Nat
  | .range _ last => if last.toNat < 0x80 then 128 else 4096
  | .none => PatternSize.state
  | .union left right | .inter left right => left.sizeBound + right.sizeBound
  | .complement set => set.sizeBound + 4096
  | .caseFolded (.range first last) => if first = last then 1024 else 0x10000
  | .caseFolded set => set.sizeBound + 0x10000
  | _ => 0x10000

end CharSet

namespace Expr

/-- The number of alternatives that an expression offers at its top. -/
def branches : Expr → Nat
  | .choice first second => first.branches + second.branches
  | _ => 1

/-- The size of an expression besides its top alternatives, where `ofSet` gives the size of each
set. -/
def contentSize (ofSet : CharSet → Nat) : Expr → Nat
  | .empty | .edge _ => PatternSize.state
  | .char set => ofSet set
  | .seq first second =>
    first.contentSize ofSet + PatternSize.alternatives first.branches
      + (second.contentSize ofSet + PatternSize.alternatives second.branches)
  | .choice first second => first.contentSize ofSet + second.contentSize ofSet
  | .group body =>
    2 * PatternSize.state + (body.contentSize ofSet + PatternSize.alternatives body.branches)
  | .repetition body least most _ =>
    PatternSize.rounds (body.contentSize ofSet + PatternSize.alternatives body.branches)
      body.nullable least most

/-- The size of the program of an expression. -/
def programSize (ofSet : CharSet → Nat) (expr : Expr) : Nat :=
  PatternSize.fixed + expr.contentSize ofSet + PatternSize.alternatives expr.branches

/-- Whether the program of an expression is small enough. Sets are only listed if the bounds on
their sizes do not settle it. -/
def fits (expr : Expr) : Bool :=
  expr.programSize CharSet.sizeBound ≤ PatternSize.limit
    || expr.programSize CharSet.size ≤ PatternSize.limit

end Expr

end Highlighter
