import Highlighter.Surface.Tagging
import Highlighter.Unicode.TextWidth

/-!
# Rendering for a terminal

A surface is printed line by line with the escape sequences of its styles, optionally behind
line numbers and cut to a display width. The escapes never change which text is printed.
-/

namespace Highlighter

/-- How a surface is printed. -/
structure RenderOptions where
  /-- The display width that lines are cut to. -/
  width : Option Nat := none
  /-- Whether each line is preceded by its number. -/
  lineNumbers : Bool := false
  deriving DecidableEq, Repr

namespace Render

/-- The escape sequence with the given parameters. -/
def escape (parameters : String) : Text :=
  '\x1b' :: '[' :: parameters.toList ++ ['m']

/-- The escape that clears all attributes. -/
def reset : Text := escape "0"

/-- The escape that dims what follows. -/
def dim : Text := escape "2"

/-- The escape that sets the foreground color. -/
def foreground (color : Color) : Text :=
  escape ("38;2;" ++ toString color.red ++ ";" ++ toString color.green ++ ";"
    ++ toString color.blue)

/-- The escapes that switch to a font variant. A heading is bold and underlined. -/
def fontEscapes : FontVariant → Text
  | .italic => escape "3"
  | .bold => escape "1"
  | .heading => escape "1" ++ escape "4"
  | .subheading => escape "4"

/-- The characters of a line grouped into runs of one style. -/
def styledRuns : List (Char × StyleDirective) → List (StyleDirective × Text)
  | [] => []
  | (c, style) :: rest =>
    match styledRuns rest with
    | (next, run) :: runs =>
      if next = style then (style, c :: run) :: runs else (style, [c]) :: (next, run) :: runs
    | [] => [(style, [c])]

/-- The longest part at the start of a text that fits into `budget` columns. -/
def truncate (budget : Nat) : Text → Text
  | [] => []
  | c :: rest =>
    let width := Unicode.charWidth c
    if width ≤ budget then c :: truncate (budget - width) rest else []

/-- A run in its style. Styled text is followed by two escapes that clear the attributes and the
color. -/
def runText (style : StyleDirective) (text : Text) : Text :=
  if text.isEmpty then []
  else if style.isEmpty then text
  else
    ((style.foreground.map foreground).getD [])
      ++ ((style.font.map fontEscapes).getD [])
      ++ text ++ reset ++ reset

/-- The columns left of `columns` behind a text. A text can be wider than its characters one by
one, and may then have been shown although it does not fit; columns are counted in 64 bits, and
the count wraps around below zero. -/
def columnsLeft (columns : Nat) (text : Text) : Nat :=
  (columns.toUInt64 - (Unicode.textWidth text).toUInt64).toNat

/-- Runs in their styles, as far as they fit. Nothing is printed behind a run that was cut. -/
def runsText (budget : Option Nat) : List (StyleDirective × Text) → Text
  | [] => []
  | (style, run) :: runs =>
    match budget with
    | none => runText style run ++ runsText none runs
    | some columns =>
      let shown := truncate columns run
      runText style shown
        ++ (if shown.length < run.length then []
          else runsText (some (columnsLeft columns shown)) runs)

/-- A line number, set to the right in a column, with a blank behind it. -/
def numberText (width number : Nat) : Text :=
  let digits := Nat.toDigits 10 number
  List.replicate (width - digits.length) ' ' ++ digits ++ [' ']

/-- One line with its number, if numbers are wanted. -/
def lineText (surface : Surface) (options : RenderOptions) (number : Nat) (text : Text) : Text :=
  let runs := styledRuns (text.zip (surface.lineStyles number))
  if options.lineNumbers then
    let prefixText := numberText (Nat.toDigits 10 surface.lineCount).length number
    dim ++ prefixText ++ reset ++ runsText (options.width.map (· - prefixText.length)) runs
  else runsText options.width runs

/-- The lines that are printed: all but an empty last line behind other lines. -/
def printedLines (surface : Surface) : List Text :=
  if 1 < surface.lineCount ∧ surface.lines.getLast? = some [] then surface.lines.dropLast
  else surface.lines

end Render

/-- The surface as a terminal shows it. -/
def Surface.render (surface : Surface) (options : RenderOptions) : Text :=
  ((Render.printedLines surface).zipIdx 1).flatMap fun (text, number) =>
    Render.lineText surface options number text ++ ['\n']

end Highlighter
