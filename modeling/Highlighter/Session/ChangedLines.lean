import Highlighter.Text.Basic

/-!
# Which lines an edit changed

Two versions of a text are compared line by line from both ends. What lies between the lines
they share at the start and the lines they share at the end has changed.
-/

namespace Highlighter.Session

/-- The number of leading lines that two lists of lines share. -/
def sharedPrefix : List Text → List Text → Nat
  | old :: olds, new :: news => if old = new then sharedPrefix olds news + 1 else 0
  | _, _ => 0

/-- The first and the last line of `new` that differ from `old`, counted from one. Lines shared
at the end do not reach into the lines shared at the start. Where lines were only removed, the
single line where they were is named. -/
def changedLines (old new : Text) : Nat × Nat :=
  let oldLines := old.lines
  let newLines := new.lines
  let front := sharedPrefix oldLines newLines
  let back :=
    min (sharedPrefix oldLines.reverse newLines.reverse)
      (min oldLines.length newLines.length - front)
  let first := min (front + 1) newLines.length
  (first, max (newLines.length - back) first)

end Highlighter.Session
