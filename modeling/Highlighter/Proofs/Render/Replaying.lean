import Highlighter.Proofs.Render.Lines
import Highlighter.Proofs.Render.Terminal

/-!
# Reading the output back

A terminal that reads a rendered surface shows the styles of the surface. The escapes in front of a
run set the attributes of its style, and those behind it clear them (`shows_runText`), so between
two runs, and at the end of every line, nothing is left set. The characters of the runs have the
styles of their places in the line, however the line is divided and wherever it is cut
(`styledShown_linePieces`). Together, each character of a line is shown as the style at its position
says (`run_render`).
-/

namespace Highlighter

open Render Surface

/-! ### The characters that are shown -/

namespace Render

/-- The characters that pieces show, with their styles. -/
def styledShown (pieces : List Piece) : List (Char × StyleDirective) :=
  pieces.flatMap fun piece => piece.shown.map (·, piece.style)

theorem map_fst_styledShown (pieces : List Piece) :
    (styledShown pieces).map (·.1) = shownText pieces := by
  simp [styledShown, shownText, List.map_flatMap, Function.comp_def]

/-- Wherever runs are cut, what is shown of them is their start. -/
theorem styledShown_pieces_isPrefix (budget : Option Nat) (runs : List (StyleDirective × Text)) :
    styledShown (pieces budget runs) <+: styledTextOf runs := by
  induction runs generalizing budget with
  | nil => exact List.prefix_rfl
  | cons first runs inductionHypothesis =>
      obtain ⟨style, run⟩ := first
      cases budget with
      | none => exact (List.prefix_append_right_inj _).mpr (inductionHypothesis none)
      | some columns =>
          have start : truncate columns run <+: run := truncate_isPrefix columns run
          rw [pieces, styledTextOf_cons, styledShown, List.flatMap_cons, ← styledShown]
          dsimp only
          split
          next =>
            rw [styledShown, List.flatMap_nil, List.append_nil]
            exact (start.map _).trans (List.prefix_append _ _)
          next whole =>
            rw [start.eq_of_length_le (Nat.le_of_not_lt whole)]
            exact (List.prefix_append_right_inj _).mpr (inductionHypothesis _)

/-- The start of a line whose characters are paired with something that depends on the column is
paired in the same way. -/
theorem eq_map_zipIdx_of_isPrefix {α : Type} {line : Text} (atColumn : Nat → α)
    {start : List (Char × α)}
    (isStart : start <+: line.zipIdx.map fun (c, column) => (c, atColumn column)) :
    start = (start.map (·.1)).zipIdx.map fun (c, column) => (c, atColumn column) := by
  obtain ⟨rest, whole⟩ := isStart
  have divided : line = start.map (·.1) ++ rest.map (·.1) := by
    have characters := congrArg (List.map Prod.fst) whole
    rw [List.map_append, List.map_map] at characters
    rw [characters]
    exact (List.zipIdx_map_fst 0 line).symm
  rw [divided, List.zipIdx_append, List.map_append] at whole
  exact (List.append_inj whole (by simp)).1

variable {surface : Surface}

/-- The runs of a line hold its characters in the styles at their positions. -/
theorem styledTextOf_lineRuns (orderly : surface.Orderly) (number : Nat) :
    styledTextOf (lineRuns surface number) =
      ((surface.line? number).getD []).zipIdx.map fun (c, column) =>
        (c, surface.styleAt ⟨number, column⟩) := by
  rw [lineRuns, styledTextOf_styledRuns, lineStyles_eq_map_styleAt orderly, lineLength_eq,
    List.zip_map_right, List.range_eq_range', ← List.zipIdx_eq_zip_range']
  rfl

/-- What is shown of a line is its start, each character in the style at its position. -/
theorem styledShown_linePieces (orderly : surface.Orderly) (options : RenderOptions)
    (number : Nat) :
    styledShown (linePieces surface options number) =
      (shownText (linePieces surface options number)).zipIdx.map fun (c, column) =>
        (c, surface.styleAt ⟨number, column⟩) := by
  have isStart : styledShown (linePieces surface options number) <+:
      styledTextOf (lineRuns surface number) :=
    styledShown_pieces_isPrefix _ _
  rw [styledTextOf_lineRuns orderly] at isStart
  rw [← map_fst_styledShown]
  exact eq_map_zipIdx_of_isPrefix (fun column => surface.styleAt ⟨number, column⟩) isStart

/-- What is shown of a line is its start. -/
theorem shownText_linePieces_isPrefix (surface : Surface) (options : RenderOptions)
    (number : Nat) :
    shownText (linePieces surface options number) <+: (surface.line? number).getD [] := by
  rw [← map_fst_styledShown, ← textOf_lineRuns, ← map_fst_styledTextOf]
  exact (styledShown_pieces_isPrefix _ _).map _

end Render

/-! ### Styles as attributes -/

namespace Terminal

/-- The attributes that show a style. A heading is bold and underlined. -/
def Attributes.ofStyle (style : StyleDirective) : Attributes where
  foreground := style.foreground
  bold := style.font == some .bold || style.font == some .heading
  italic := style.font == some .italic
  underlined := style.font == some .heading || style.font == some .subheading

theorem Attributes.ofStyle_of_isEmpty {style : StyleDirective} (unset : style.isEmpty = true) :
    ofStyle style = {} := by
  obtain ⟨foreground, font⟩ := style
  obtain ⟨rfl, rfl⟩ : foreground = none ∧ font = none := by
    simpa [StyleDirective.isEmpty] using unset
  rfl

theorem shows_reset (attributes : Attributes) : Shows ⟨attributes, .text⟩ reset {} [] :=
  shows_escape attributes 0 [] rfl

theorem shows_foreground (attributes : Attributes) (color : Color) :
    Shows ⟨attributes, .text⟩ (foreground color)
      ⟨{ attributes with foreground := some color }, .text⟩ [] := by
  have component (value : UInt8) : (toString value).toList = Nat.toDigits 10 value.toNat :=
    String.toList_ofList
  have written : ("38;2;" ++ toString color.red ++ ";" ++ toString color.green ++ ";"
      ++ toString color.blue).toList =
        parameterText [38, 2, color.red.toNat, color.green.toNat, color.blue.toNat] := by
    simp only [String.toList_append, component, List.append_assoc]
    rfl
  have selected : attributes.select
      [38, 2, color.red.toNat, color.green.toNat, color.blue.toNat] =
        { attributes with foreground := some color } := by
    simp [Attributes.select]
  rw [← selected]
  exact shows_escape attributes 38 _ written

/-- The escapes of a style set its attributes. -/
theorem shows_styleEscapes (style : StyleDirective) :
    Shows {} ((style.foreground.map foreground).getD [] ++ (style.font.map fontEscapes).getD [])
      ⟨.ofStyle style, .text⟩ [] := by
  obtain ⟨color, font⟩ := style
  have colored : Shows {} ((color.map foreground).getD []) ⟨{ foreground := color }, .text⟩ [] := by
    cases color with
    | none => exact .nil
    | some color => exact shows_foreground {} color
  have switched : Shows ⟨{ foreground := color }, .text⟩ ((font.map fontEscapes).getD [])
      ⟨.ofStyle ⟨color, font⟩, .text⟩ [] := by
    cases font with
    | none => exact .nil
    | some font =>
        cases font with
        | italic => exact shows_escape _ 3 [] rfl
        | bold => exact shows_escape _ 1 [] rfl
        | heading => exact (shows_escape _ 1 [] rfl).append (shows_escape _ 4 [] rfl)
        | subheading => exact shows_escape _ 4 [] rfl
  exact colored.append switched

/-- A run is shown in its style, and leaves nothing set. -/
theorem shows_runText (style : StyleDirective) {text : Text} (plain : '\x1b' ∉ text) :
    Shows {} (runText style text) {} (cellsWith (.ofStyle style) text) := by
  rw [runText]
  split
  next empty =>
    rw [List.isEmpty_iff.mp empty]
    exact .nil
  next =>
    split
    next unset =>
      rw [Attributes.ofStyle_of_isEmpty unset]
      exact shows_plain {} plain
    next =>
      have styled := (shows_styleEscapes style).append (shows_plain _ plain)
      have cleared := (styled.append (shows_reset _)).append (shows_reset {})
      rwa [List.append_nil, List.append_nil] at cleared

end Terminal

/-! ### Lines and surfaces -/

namespace Terminal

variable {surface : Surface}

/-- The cells of what stands in front of a line: its number, dim, if numbers are wanted. -/
def numberCells (surface : Surface) (options : RenderOptions) (number : Nat) : List Cell :=
  if options.lineNumbers then cellsWith { dim := true } (numberPrefix surface number) else []

/-- The cells of what is shown of a line: each character in the style at its position. -/
def lineCells (surface : Surface) (options : RenderOptions) (number : Nat) : List Cell :=
  (shownText (linePieces surface options number)).zipIdx.map fun (c, column) =>
    ⟨c, .ofStyle (surface.styleAt ⟨number, column⟩)⟩

theorem escape_not_mem_numberPrefix (surface : Surface) (number : Nat) :
    '\x1b' ∉ numberPrefix surface number := by
  intro member
  rw [numberPrefix, numberText, List.mem_append, List.mem_append] at member
  obtain (blank | digit) | blank := member
  · exact absurd (List.eq_of_mem_replicate blank) (by decide)
  · exact absurd (Nat.isDigit_of_mem_toDigits (by decide) (by decide) digit) (by decide)
  · exact absurd (List.mem_singleton.mp blank) (by decide)

theorem shows_numbering (surface : Surface) (options : RenderOptions) (number : Nat) :
    Shows {} (numbering surface options number) {} (numberCells surface options number) := by
  rw [numbering, numberCells]
  split
  next =>
    have dimmed : Shows {} dim ⟨{ dim := true }, .text⟩ [] := shows_escape {} 2 [] rfl
    have shown := dimmed.append (shows_plain _ (escape_not_mem_numberPrefix surface number))
    have cleared := shown.append (shows_reset _)
    rwa [List.append_nil] at cleared
  next => exact .nil

theorem shows_linePieces (orderly : surface.Orderly) (options : RenderOptions) {number : Nat}
    (plain : '\x1b' ∉ (surface.line? number).getD []) :
    Shows {} ((linePieces surface options number).flatMap Piece.text) {}
      (lineCells surface options number) := by
  have shown : Shows {} ((linePieces surface options number).flatMap Piece.text) {}
      ((linePieces surface options number).flatMap fun piece =>
        cellsWith (.ofStyle piece.style) piece.shown) := by
    refine .flatMap fun piece member => shows_runText piece.style fun escaped => plain ?_
    exact (shownText_linePieces_isPrefix surface options number).mem
      (List.mem_flatMap.mpr ⟨piece, member, escaped⟩)
  have cells : lineCells surface options number =
      (styledShown (linePieces surface options number)).map fun (c, style) =>
        ⟨c, .ofStyle style⟩ := by
    rw [styledShown_linePieces orderly, List.map_map]
    rfl
  rw [cells, styledShown, List.map_flatMap]
  simpa [cellsWith, Function.comp_def] using shown

end Terminal

/-- Read by a terminal, a rendered surface without escape characters in its text shows each printed
line as its number, dim, if numbers are wanted, and the start of the line, each character in the
style at its position. At every newline, and at the end, all attributes are cleared. -/
theorem run_render {surface : Surface} (reachable : Reachable Anything surface)
    (plain : '\x1b' ∉ surface.content) (options : RenderOptions) :
    Terminal.run {} (surface.render options) =
        ({}, (List.range' 1 (printedCount surface)).flatMap fun number =>
          Terminal.numberCells surface options number ++ Terminal.lineCells surface options number
            ++ [⟨'\n', {}⟩]) ∧
      ∀ number, shownText (linePieces surface options number) <+:
        (surface.line? number).getD [] := by
  refine ⟨?_, shownText_linePieces_isPrefix surface options⟩
  rw [render_eq]
  refine Terminal.Shows.flatMap fun number printed => ?_
  have plainLine : '\x1b' ∉ (surface.line? number).getD [] := fun escaped =>
    plain (Text.mem_ofLines (mem_lines_of_printed printed) escaped)
  exact ((Terminal.shows_numbering surface options number).append
    (Terminal.shows_linePieces (.of_reachable reachable) options plainLine)).append
    (Terminal.shows_plain {} (by decide))

/-- A heading over two lines, with a red word in it, behind line numbers. -/
theorem run_render_numbered :
    let red : Color := ⟨255, 0, 0⟩
    let surface := ((((ofText "a b\nc".toList).tagConfigure "Heading" ⟨none, some .heading⟩).tagAdd
      "Heading" ⟨1, 0⟩ ⟨2, 1⟩).tagConfigure "Word" ⟨some red, none⟩).tagAdd "Word" ⟨1, 2⟩ ⟨1, 3⟩
    let heading : Terminal.Attributes := { bold := true, underlined := true }
    Reachable Anything surface ∧ '\x1b' ∉ surface.content ∧
      Terminal.run {} (surface.render { lineNumbers := true }) =
        ({}, [⟨'1', { dim := true }⟩, ⟨' ', { dim := true }⟩, ⟨'a', heading⟩, ⟨' ', heading⟩,
          ⟨'b', { heading with foreground := some red }⟩, ⟨'\n', {}⟩, ⟨'2', { dim := true }⟩,
          ⟨' ', { dim := true }⟩, ⟨'c', heading⟩, ⟨'\n', {}⟩]) := by
  intro red surface heading
  have reachable : Reachable Anything surface :=
    .step (.tagAdd "Word" ⟨1, 2⟩ ⟨1, 3⟩) (.step (.tagConfigure "Word" ⟨some red, none⟩)
      (.step (.tagAdd "Heading" ⟨1, 0⟩ ⟨2, 1⟩)
        (.step (.tagConfigure "Heading" ⟨none, some .heading⟩) (.ofText _) trivial) trivial)
        trivial) trivial
  have plain : '\x1b' ∉ surface.content := by decide
  exact ⟨reachable, plain, (run_render reachable plain { lineNumbers := true }).1.trans
    (by decide +kernel)⟩

end Highlighter
