import Highlighter.Proofs.Render.Pieces
import Highlighter.Proofs.Surface.Dyeing

/-!
# Lines as they are printed

A surface is printed as one line of output for each of its lines, an empty last line behind others
left out (`render_eq`). Each shows what fits of the line behind the number, whatever the tags are,
if the lines of the text tally. The condition is exact: tags can divide a line into any runs, so a
line that does not tally is printed wrong on some surface (`shows_what_fits_iff`).
-/

namespace Highlighter.Render

open Unicode Surface

/-! ### Runs of one style -/

@[simp] theorem textOf_cons (style : StyleDirective) (run : Text)
    (runs : List (StyleDirective × Text)) : textOf ((style, run) :: runs) = run ++ textOf runs :=
  rfl

/-- The characters of runs, each with the style of its run. -/
def styledTextOf (runs : List (StyleDirective × Text)) : List (Char × StyleDirective) :=
  runs.flatMap fun (style, run) => run.map (·, style)

@[simp] theorem styledTextOf_cons (style : StyleDirective) (run : Text)
    (runs : List (StyleDirective × Text)) :
    styledTextOf ((style, run) :: runs) = run.map (·, style) ++ styledTextOf runs :=
  rfl

theorem map_fst_styledTextOf (runs : List (StyleDirective × Text)) :
    (styledTextOf runs).map (·.1) = textOf runs := by
  simp [styledTextOf, textOf, List.map_flatMap, Function.comp_def]

/-- The runs of a line hold its characters in order, in their styles. -/
theorem styledTextOf_styledRuns (styled : List (Char × StyleDirective)) :
    styledTextOf (styledRuns styled) = styled := by
  induction styled with
  | nil => rfl
  | cons first styled inductionHypothesis =>
      obtain ⟨c, style⟩ := first
      rw [styledRuns]
      split
      next next run runs shape =>
        rw [← inductionHypothesis, shape]
        split
        next same => simp [same]
        next => simp
      next single =>
        rw [← inductionHypothesis, single]
        rfl

theorem textOf_styledRuns (styled : List (Char × StyleDirective)) :
    textOf (styledRuns styled) = styled.map (·.1) := by
  rw [← map_fst_styledTextOf, styledTextOf_styledRuns]

/-- The first run has the style of the first character. -/
theorem head?_styledRuns (styled : List (Char × StyleDirective)) :
    (styledRuns styled).head?.map (·.1) = styled.head?.map (·.2) := by
  cases styled with
  | nil => rfl
  | cons first styled =>
      obtain ⟨c, style⟩ := first
      rw [styledRuns]
      split
      next next run runs same => split <;> rfl
      next => rfl

/-- Each run has the style of one of its characters. -/
theorem exists_of_mem_styledRuns {styled : List (Char × StyleDirective)}
    {run : StyleDirective × Text} (member : run ∈ styledRuns styled) :
    ∃ c, (c, run.1) ∈ styled := by
  induction styled with
  | nil => exact absurd member List.not_mem_nil
  | cons first styled inductionHypothesis =>
      obtain ⟨c, style⟩ := first
      have later : run ∈ styledRuns styled → ∃ c, (c, run.1) ∈ (c, style) :: styled := fun old =>
        (inductionHypothesis old).imp fun _ found => List.mem_cons_of_mem _ found
      rw [styledRuns] at member
      grind

/-- A part in one style is a run if what follows has another style. -/
theorem styledRuns_append {part : Text} (nonempty : part ≠ []) {style : StyleDirective}
    {styled : List (Char × StyleDirective)} (apart : styled.head?.map (·.2) ≠ some style) :
    styledRuns (part.map (fun c => (c, style)) ++ styled) = (style, part) :: styledRuns styled := by
  induction part with
  | nil => exact absurd rfl nonempty
  | cons c part inductionHypothesis =>
      rw [List.map_cons, List.cons_append, styledRuns]
      by_cases more : part = []
      · subst more
        rw [← head?_styledRuns] at apart
        cases shape : styledRuns styled with
        | nil => simp [shape]
        | cons run runs =>
            have different : run.1 ≠ style := by simpa [shape] using apart
            simp [shape, different]
      · simp [inductionHypothesis more]

/-- Styles of the characters of a text that change from each part of the text to the next. -/
def stripes (style other : StyleDirective) : List Text → List StyleDirective
  | [] => []
  | part :: parts => List.replicate part.length style ++ stripes other style parts

theorem length_stripes (style other : StyleDirective) (parts : List Text) :
    (stripes style other parts).length = parts.flatten.length := by
  induction parts generalizing style other with
  | nil => rfl
  | cons part parts inductionHypothesis => simp [stripes, inductionHypothesis]

theorem zip_replicate (part : Text) (style : StyleDirective) :
    part.zip (List.replicate part.length style) = part.map fun c => (c, style) := by
  induction part with
  | nil => rfl
  | cons c part inductionHypothesis => simpa [List.replicate_succ] using inductionHypothesis

/-- The first part has the first of the two styles, which is not the other one. -/
theorem head?_stripes_ne {style other : StyleDirective} (different : style ≠ other)
    {parts : List Text} (nonempty : [] ∉ parts) :
    (parts.flatten.zip (stripes other style parts)).head?.map (·.2) ≠ some style := by
  cases parts with
  | nil => simp
  | cons part parts =>
      obtain ⟨c, part, rfl⟩ := List.exists_cons_of_ne_nil
        (Ne.symm (fun same : [] = part => nonempty (same ▸ List.mem_cons_self)))
      simpa [stripes, List.replicate_succ] using different.symm

/-- Parts in changing styles are the runs. -/
theorem styledRuns_stripes {style other : StyleDirective} (different : style ≠ other)
    {parts : List Text} (nonempty : [] ∉ parts) :
    (styledRuns (parts.flatten.zip (stripes style other parts))).map (·.2) = parts := by
  induction parts generalizing style other with
  | nil => rfl
  | cons part parts inductionHypothesis =>
      rw [List.mem_cons, not_or] at nonempty
      have apart : (parts.flatten.zip (stripes other style parts)).head?.map (·.2) ≠ some style :=
        head?_stripes_ne different nonempty.2
      rw [stripes, List.flatten_cons, List.zip_append (by simp), zip_replicate,
        styledRuns_append (Ne.symm nonempty.1) apart, List.map_cons,
        inductionHypothesis different.symm nonempty.2]

/-! ### Printed lines -/

/-- The number in front of a line, with the blank behind it. -/
def numberPrefix (surface : Surface) (number : Nat) : Text :=
  numberText (Nat.toDigits 10 surface.lineCount).length number

/-- What is printed in front of a line: its number, dimmed, if numbers are wanted. -/
def numbering (surface : Surface) (options : RenderOptions) (number : Nat) : Text :=
  if options.lineNumbers then dim ++ numberPrefix surface number ++ reset else []

/-- The columns for the text of a line: those that its number leaves over, at least none. -/
def lineBudget (surface : Surface) (options : RenderOptions) (number : Nat) : Option Nat :=
  if options.lineNumbers then options.width.map (· - (numberPrefix surface number).length)
  else options.width

/-- The runs of a line that have one style each. -/
def lineRuns (surface : Surface) (number : Nat) : List (StyleDirective × Text) :=
  styledRuns (((surface.line? number).getD []).zip (surface.lineStyles number))

/-- What is printed of the runs of a line. -/
def linePieces (surface : Surface) (options : RenderOptions) (number : Nat) : List Piece :=
  pieces (lineBudget surface options number) (lineRuns surface number)

/-- The number of lines that are printed: all but an empty last line behind others. -/
def printedCount (surface : Surface) : Nat :=
  if 1 < surface.lineCount ∧ surface.line? surface.lineCount = some [] then surface.lineCount - 1
  else surface.lineCount

variable {surface : Surface}

theorem lineText_eq (surface : Surface) (options : RenderOptions) (number : Nat) :
    lineText surface options number ((surface.line? number).getD []) =
      numbering surface options number
        ++ (linePieces surface options number).flatMap Piece.text := by
  rw [lineText, numbering, linePieces, lineBudget, ← runsText_eq, lineRuns]
  split
  next => simp [numberPrefix]
  next => rfl

/-- The lines at the start of a text have the numbers from one on. -/
theorem zipIdx_take_lines {count : Nat} (bounded : count ≤ surface.lineCount) :
    (surface.lines.take count).zipIdx 1 =
      (List.range' 1 count).map fun number => ((surface.line? number).getD [], number) := by
  ext1 index
  rw [List.getElem?_zipIdx, List.getElem?_map]
  by_cases within : index < count
  · have exists_line : index < surface.lines.length := Nat.lt_of_lt_of_le within bounded
    rw [List.getElem?_take_of_lt within, List.getElem?_range' within]
    simp [Nat.add_comm 1, line?, exists_line]
  · rw [List.getElem?_eq_none (by simp; omega), List.getElem?_eq_none (by simp; omega)]
    rfl

theorem printedCount_le (surface : Surface) : printedCount surface ≤ surface.lineCount := by
  rw [printedCount]
  split <;> omega

/-- A printed line is a line of the text. -/
theorem mem_lines_of_printed {number : Nat}
    (printed : number ∈ List.range' 1 (printedCount surface)) :
    (surface.line? number).getD [] ∈ surface.lines := by
  obtain ⟨first, last⟩ := List.mem_range'_1.mp printed
  have bounded := printedCount_le surface
  obtain ⟨index, rfl⟩ : ∃ index, number = index + 1 := ⟨number - 1, by omega⟩
  have exists_line : index < surface.lines.length := by rw [← lineCount]; omega
  rw [line?, List.getElem?_eq_getElem exists_line, Option.getD_some]
  exact List.getElem_mem exists_line

/-- A line with characters is printed. -/
theorem mem_range'_printedCount {number : Nat} {line : Text}
    (atLine : surface.line? number = some line) (nonempty : line ≠ []) :
    number ∈ List.range' 1 (printedCount surface) := by
  obtain ⟨index, rfl⟩ : ∃ index, number = index + 1 := by
    cases number with
    | zero => simp [line?] at atLine
    | succ index => exact ⟨index, rfl⟩
  have bounded : index < surface.lineCount := (List.getElem?_eq_some_iff.mp atLine).1
  rw [List.mem_range'_1, printedCount]
  split
  next dropped =>
    have other : index + 1 ≠ surface.lineCount := by
      intro last
      rw [← last, atLine, Option.some_inj] at dropped
      exact nonempty dropped.2
    omega
  next => omega

/-- The printed lines are those at the start of the text. -/
theorem printedLines_eq (surface : Surface) :
    printedLines surface = surface.lines.take (printedCount surface) := by
  have last : surface.lines.getLast? = surface.line? surface.lineCount := by
    rw [List.getLast?_eq_getElem?, lineCount]
    cases shape : surface.lines <;> simp [line?, shape]
  rw [printedLines, printedCount, last]
  split
  next => rw [List.dropLast_eq_take, lineCount]
  next => rw [lineCount, List.take_length]

/-- Each printed line is a line of output: its number, if numbers are wanted, its pieces and a
newline. -/
theorem render_eq (surface : Surface) (options : RenderOptions) :
    surface.render options = (List.range' 1 (printedCount surface)).flatMap fun number =>
      numbering surface options number ++ (linePieces surface options number).flatMap Piece.text
        ++ ['\n'] := by
  rw [Surface.render, printedLines_eq, zipIdx_take_lines (printedCount_le surface),
    List.flatMap_map]
  simp only [lineText_eq]

/-- The runs of a line hold the line. -/
theorem textOf_lineRuns (surface : Surface) (number : Nat) :
    textOf (lineRuns surface number) = (surface.line? number).getD [] := by
  rw [lineRuns, textOf_styledRuns, List.map_fst_zip]
  rw [length_lineStyles, lineLength_eq]

/-! ### Plain text -/

/-- Runs without styles are printed as they are. -/
theorem flatMap_text_pieces_none {runs : List (StyleDirective × Text)}
    (plain : ∀ run ∈ runs, run.1.isEmpty = true) :
    (pieces none runs).flatMap Piece.text = textOf runs := by
  induction runs with
  | nil => rfl
  | cons run runs inductionHypothesis =>
      obtain ⟨style, run⟩ := run
      obtain ⟨here, later⟩ := List.forall_mem_cons.mp plain
      rw [pieces, List.flatMap_cons, inductionHypothesis later, textOf_cons, Piece.text, runText]
      cases run <;> simp [here]

/-- Lines without styles are printed as they are. -/
theorem render_of_unstyled
    (unstyled : ∀ number, ∀ style ∈ surface.lineStyles number, style.isEmpty = true) :
    surface.render {} = Text.opening (printedLines surface) := by
  have shown : ∀ number, (linePieces surface {} number).flatMap Piece.text =
      (surface.line? number).getD [] := by
    intro number
    have plain : ∀ run ∈ lineRuns surface number, run.1.isEmpty = true := by
      intro run member
      obtain ⟨c, styled⟩ := exists_of_mem_styledRuns member
      exact unstyled number run.1 (List.of_mem_zip styled).2
    exact (flatMap_text_pieces_none plain).trans (textOf_lineRuns surface number)
  have lines : printedLines surface =
      (List.range' 1 (printedCount surface)).map fun number => (surface.line? number).getD [] := by
    have numbered := congrArg (List.map Prod.fst) (zipIdx_take_lines (printedCount_le surface))
    rwa [List.zipIdx_map_fst, ← printedLines_eq, List.map_map] at numbered
  rw [render_eq, lines]
  induction List.range' 1 (printedCount surface) with
  | nil => rfl
  | cons number numbers inductionHypothesis =>
      rw [List.flatMap_cons, inductionHypothesis, shown, List.map_cons, Text.opening]
      simp [numbering]

/-- The printed lines are the text, with a newline behind it if it does not end in one. -/
theorem opening_printedLines (lined : surface.Lined) :
    Text.opening (printedLines surface) =
      surface.content ++ if surface.content.getLast? = some '\n' then [] else ['\n'] := by
  obtain ⟨front, last, shape⟩ : ∃ front last, surface.lines = front ++ [last] :=
    ⟨_, _, (List.dropLast_append_getLast lined.nonempty).symm⟩
  have content : surface.content = Text.opening front ++ last := by
    rw [Surface.content, shape, Text.ofLines_append_eq_opening front (by simp)]
    rfl
  have lastLine : '\n' ∉ last := lined.newlineFree last (by simp [shape])
  rw [printedLines, lineCount, shape, List.getLast?_concat, List.length_append,
    List.length_singleton]
  split
  next dropped =>
    obtain ⟨more, same⟩ := dropped
    obtain rfl : last = [] := by simpa using same
    have frontLines : front ≠ [] := by
      rintro rfl
      simp at more
    rw [content, List.append_nil, Text.opening_eq frontLines, List.dropLast_concat,
      Text.opening_eq frontLines]
    simp
  next kept =>
    have unfinished : surface.content.getLast? ≠ some '\n' := by
      rw [content]
      by_cases empty : last = []
      · have single : front = [] := by
          by_contra frontLines
          exact kept ⟨by simpa [List.length_pos_iff] using frontLines, by rw [empty]⟩
        simp [empty, single, Text.opening]
      · rw [List.getLast?_append_of_ne_nil _ empty]
        exact fun ends => lastLine (List.mem_of_getLast? ends)
    rw [if_neg unfinished, Text.opening_eq (by simp), Surface.content, shape]

/-! ### What is shown -/

/-- A line is shown as far as it fits. -/
structure ShowsWhatFits (surface : Surface) (options : RenderOptions) (number : Nat) : Prop where
  /-- The pieces of the line show what is left of the whole line when it is cut. -/
  shown : shownText (linePieces surface options number) =
    fitting (lineBudget surface options number) ((surface.line? number).getD [])
  /-- Of the starts of the line that fit, this is the longest. -/
  longest : ∀ front, front <+: shownText (linePieces surface options number) ↔
    front <+: (surface.line? number).getD [] ∧
      ∀ budget ∈ lineBudget surface options number, columns front ≤ budget
  /-- No piece takes more columns than are left. -/
  affordable : Affordable (linePieces surface options number)

/-- A line is shown as far as it fits if its pieces show what fits of the text of its runs. -/
theorem ShowsWhatFits.of_pieces {options : RenderOptions} {number : Nat} {budget : Option Nat}
    (limited : lineBudget surface options number = budget)
    (cut : shownText (pieces budget (lineRuns surface number)) =
        fitting budget (textOf (lineRuns surface number)) ∧
      Affordable (pieces budget (lineRuns surface number))) :
    ShowsWhatFits surface options number := by
  subst limited
  obtain ⟨shown, affordable⟩ := cut
  rw [textOf_lineRuns] at shown
  refine ⟨shown, fun front => ?_, affordable⟩
  rw [linePieces, shown]
  cases lineBudget surface options number with
  | none => simp [fitting]
  | some budget => simp [fitting, prefix_truncate_iff]

/-- Without a limit a line is shown whole. -/
theorem showsWhatFits_of_unlimited {options : RenderOptions} {number : Nat}
    (unlimited : lineBudget surface options number = none) :
    ShowsWhatFits surface options number :=
  .of_pieces unlimited (shownText_pieces_none (lineRuns surface number))

/-- A line that tallies is shown as far as it fits. -/
theorem showsWhatFits_of_tallies {options : RenderOptions} {number : Nat}
    (machine : ∀ width ∈ options.width, width < UInt64.size)
    (tallies : Tallies ((surface.line? number).getD [])) :
    ShowsWhatFits surface options number := by
  cases limited : lineBudget surface options number with
  | none => exact showsWhatFits_of_unlimited limited
  | some budget =>
      have machineBudget : budget < UInt64.size := by
        rw [lineBudget] at limited
        split at limited
        next =>
          obtain ⟨width, wanted, rfl⟩ := Option.map_eq_some_iff.mp limited
          exact Nat.lt_of_le_of_lt (Nat.sub_le _ _) (machine width wanted)
        next => exact machine budget limited
      rw [← textOf_lineRuns] at tallies
      exact .of_pieces limited (shownText_pieces machineBudget tallies)

/-- A line that does not tally is not shown as far as it fits on some surface that holds the
text. -/
theorem exists_not_showsWhatFits {text line : Text} (member : line ∈ text.lines)
    (narrow : columns line < UInt64.size) (uneven : ¬ Tallies line) :
    ∃ surface, Reachable Anything surface ∧ surface.content = text ∧
      ∃ width < UInt64.size, ∃ number ∈ List.range' 1 (printedCount surface),
        ¬ ShowsWhatFits surface { width := some width } number := by
  obtain ⟨index, atIndex⟩ := List.mem_iff_getElem?.mp member
  have atLine : (ofText text).line? (index + 1) = some line := atIndex
  have visible : line ≠ [] := by
    rintro rfl
    exact uneven (tallies_of_isSeparate rfl)
  obtain ⟨parts, rfl, nonempty, width, machine, wrong⟩ := exists_parts_of_not_tallies narrow uneven
  have different : StyleDirective.empty ≠ ⟨none, some .italic⟩ := by decide
  let styles := stripes .empty ⟨none, some .italic⟩ parts
  have length : styles.length = parts.flatten.length := length_stripes _ _ parts
  let dyed := (ofText text).run (dyeing (index + 1) styles)
  have lines : dyed.lines = (ofText text).lines :=
    (tags_run_dyeing atLine (Nat.le_of_eq length)).2.1
  have dyedLine : dyed.line? (index + 1) = some parts.flatten := by
    rw [line?_congr lines, atLine]
  have runs : (lineRuns dyed (index + 1)).map (·.2) = parts := by
    rw [lineRuns, dyedLine, Option.getD_some, lineStyles_run_dyeing atLine length]
    exact styledRuns_stripes different nonempty
  have content : dyed.content = text := (content_congr lines).trans (Text.ofLines_lines text)
  refine ⟨dyed, .run_anything (.ofText text) _, content, width, machine, index + 1,
    mem_range'_printedCount dyedLine visible, fun shows => ?_⟩
  refine wrong _ runs ⟨?_, shows.affordable⟩
  have shown := shows.shown
  rwa [dyedLine, Option.getD_some] at shown

/-- Each line of the output is a number, if numbers are wanted, pieces of text in their styles and
a newline; the lines are those of the text, an empty last line behind others left out. Without a
width the pieces show the whole line, and text without styles is printed as it is, with a newline
behind it if it does not end in one. For every width, the pieces show the longest start of the line
that fits and never take more columns than are left, on all surfaces that hold the text, exactly if
the lines of the text tally. -/
theorem shows_what_fits_iff (text : Text)
    (narrow : ∀ line ∈ text.lines, columns line < UInt64.size) :
    (∀ surface, Reachable Anything surface → surface.content = text →
      (∀ options, surface.render options =
        (List.range' 1 (printedCount surface)).flatMap fun number =>
          numbering surface options number
            ++ (linePieces surface options number).flatMap Piece.text ++ ['\n']) ∧
      (∀ options, options.width = none → ∀ number, ShowsWhatFits surface options number) ∧
      ((∀ number, ∀ style ∈ surface.lineStyles number, style.isEmpty = true) →
        surface.render {} = text ++ if text.getLast? = some '\n' then [] else ['\n'])) ∧
    ((∀ line ∈ text.lines, Tallies line) ↔
      ∀ surface, Reachable Anything surface → surface.content = text →
        ∀ options, (∀ width ∈ options.width, width < UInt64.size) →
          ∀ number ∈ List.range' 1 (printedCount surface),
            ShowsWhatFits surface options number) := by
  refine ⟨fun surface reachable same => ⟨render_eq surface, ?_, fun unstyled => ?_⟩, ?_, ?_⟩
  · intro options unlimited number
    exact showsWhatFits_of_unlimited (by simp [lineBudget, unlimited])
  · rw [render_of_unstyled unstyled, opening_printedLines (.of_reachable reachable), same]
  · intro tallies surface reachable same options machine number printed
    have lines : surface.lines = text.lines := by
      rw [← same, lines_content (.of_reachable reachable)]
    exact showsWhatFits_of_tallies machine (tallies _ (lines ▸ mem_lines_of_printed printed))
  · intro shows line member
    by_contra uneven
    obtain ⟨surface, reachable, same, width, machine, number, printed, wrong⟩ :=
      exists_not_showsWhatFits member (narrow line member) uneven
    exact wrong (shows surface reachable same _ (by simpa using machine) number printed)

/-- Wide and combining characters under tags that begin and end between them, and a number that
takes two of the six columns. -/
theorem shows_what_fits_iff_of_wide :
    let text : Text := "日本\t語e\u0301\n😀".toList
    let surface := ((ofText text).tagConfigure "Word" ⟨none, some .bold⟩).tagAdd "Word"
      ⟨1, 1⟩ ⟨1, 3⟩
    let options : RenderOptions := { width := some 6, lineNumbers := true }
    (∀ line ∈ text.lines, columns line < UInt64.size) ∧ ShowsWhatFits surface options 1 ∧
      surface.render options = numbering surface options 1 ++ "日".toList
        ++ runText ⟨none, some .bold⟩ "本".toList ++ ['\n']
        ++ numbering surface options 2 ++ "😀\n".toList := by
  intro text surface options
  have narrow : ∀ line ∈ text.lines, columns line < UInt64.size := by decide +kernel
  have separate : ∀ line ∈ text.lines, line.all isSeparate = true := by decide +kernel
  have reachable : Reachable Anything surface :=
    (Reachable.ofText text).run_anything [.tagConfigure "Word" ⟨none, some .bold⟩,
      .tagAdd "Word" ⟨1, 1⟩ ⟨1, 3⟩]
  obtain ⟨printed, shows⟩ := shows_what_fits_iff text narrow
  refine ⟨narrow, ?_, ?_⟩
  · exact shows.mp (fun line member => tallies_of_isSeparate (separate line member)) surface
      reachable (by decide +kernel) options (by decide) 1 (by decide +kernel)
  · rw [(printed surface reachable (by decide +kernel)).1]
    decide +kernel

/-- Lam and alef take one column together and two one by one: tagged as one run they leave a column
for a further character, which is not shown if they are not tagged. -/
theorem tagged_ligature_shows_more :
    let text := "\u0644\u0627ab".toList
    let surface := ((ofText text).tagConfigure "T" ⟨none, some .italic⟩).tagAdd "T" ⟨1, 0⟩ ⟨1, 2⟩
    let options : RenderOptions := { width := some 3 }
    Reachable Anything surface ∧ (ofText text).render options = "\u0644\u0627a\n".toList ∧
      surface.render options =
        escape "3" ++ "\u0644\u0627".toList ++ reset ++ reset ++ "ab\n".toList ∧
      ¬ ShowsWhatFits surface options 1 := by
  intro text surface options
  refine ⟨(Reachable.ofText text).run_anything [.tagConfigure "T" ⟨none, some .italic⟩,
    .tagAdd "T" ⟨1, 0⟩ ⟨1, 2⟩], by decide +kernel, by decide +kernel, fun shows => ?_⟩
  exact absurd shows.shown (by decide +kernel)

/-- A sun that is shown as an emoji takes a column more than are left, and nothing behind it is cut
any more. -/
example :
    let surface := ((ofText "\u2600\ufe0fabcdef".toList).tagConfigure "T"
      ⟨none, some .italic⟩).tagAdd "T" ⟨1, 0⟩ ⟨1, 2⟩
    shownText (linePieces surface { width := some 1 } 1) = "\u2600\ufe0fabcdef".toList ∧
      ¬ Affordable (linePieces surface { width := some 1 } 1) := by
  decide +kernel

end Highlighter.Render
