import Highlighter.Proofs.Unicode.TextWidth
import Highlighter.Render

/-!
# Runs that are cut to a width

A line is printed run by run. `pieces` lists what is printed of each run, with the columns that are
left in front of it. If the line tallies, then the pieces show just what fits of the whole line, and
no piece takes more columns than are left (`shownText_pieces`), wherever one run ends and the next
one begins. In a line that does not tally some division into runs shows another text or takes too
many columns (`exists_parts_of_not_tallies`).
-/

namespace Highlighter.Render

open Unicode

/-! ### What fits -/

/-- The start of a text that is shown if its columns are limited. -/
def fitting : Option Nat → Text → Text
  | none, text => text
  | some columns, text => truncate columns text

/-- A text in two parts is cut in its front if that does not fit, and else behind it. -/
theorem truncate_append (budget : Nat) (front back : Text) :
    truncate budget (front ++ back) =
      if columns front ≤ budget then front ++ truncate (budget - columns front) back
      else truncate budget front := by
  induction front generalizing budget with
  | nil => simp
  | cons c front inductionHypothesis =>
      rw [List.cons_append, truncate, truncate, inductionHypothesis, columns_cons]
      split
      next fits =>
        have both :
            columns front ≤ budget - charWidth c ↔ charWidth c + columns front ≤ budget := by
          omega
        simp only [both, Nat.sub_sub]
        split <;> rfl
      next exceeds => rw [if_neg (by omega)]

/-- A text that fits is shown whole. -/
theorem truncate_of_columns_le {budget : Nat} {text : Text} (fits : columns text ≤ budget) :
    truncate budget text = text := by
  simpa [fits, truncate] using truncate_append budget text []

theorem columns_truncate_le (budget : Nat) (text : Text) :
    columns (truncate budget text) ≤ budget := by
  induction text generalizing budget with
  | nil => exact Nat.zero_le budget
  | cons c text inductionHypothesis =>
      rw [truncate]
      split
      next fits =>
        have rest := inductionHypothesis (budget - charWidth c)
        rw [columns_cons]
        omega
      next => exact Nat.zero_le budget

theorem truncate_isPrefix (budget : Nat) (text : Text) : truncate budget text <+: text := by
  induction text generalizing budget with
  | nil => exact List.prefix_rfl
  | cons c text inductionHypothesis =>
      rw [truncate]
      split
      next => exact (List.prefix_cons_inj c).mpr (inductionHypothesis _)
      next => exact List.nil_prefix

/-- What is shown of a text is the longest of the starts of the text that fit. -/
theorem prefix_truncate_iff {budget : Nat} {front text : Text} :
    front <+: truncate budget text ↔ front <+: text ∧ columns front ≤ budget := by
  constructor
  · intro shown
    refine ⟨shown.trans (truncate_isPrefix budget text), ?_⟩
    obtain ⟨rest, same⟩ := shown
    have bounded := columns_truncate_le budget text
    rw [← same, columns_append] at bounded
    omega
  · rintro ⟨⟨back, rfl⟩, fits⟩
    rw [truncate_append, if_pos fits]
    exact List.prefix_append front _

/-- Columns that are there can be taken. -/
theorem columnsLeft_eq {budget : Nat} {text : Text} (machine : budget < UInt64.size)
    (fits : textWidth text ≤ budget) : columnsLeft budget text = budget - textWidth text := by
  have machineText : textWidth text < UInt64.size := Nat.lt_of_le_of_lt fits machine
  have enough : (textWidth text).toUInt64 ≤ budget.toUInt64 := by
    rw [UInt64.le_iff_toNat_le, UInt64.toNat_ofNat_of_lt' machine,
      UInt64.toNat_ofNat_of_lt' machineText]
    exact fits
  rw [columnsLeft, UInt64.toNat_sub_of_le _ _ enough, UInt64.toNat_ofNat_of_lt' machine,
    UInt64.toNat_ofNat_of_lt' machineText]

/-! ### Pieces -/

/-- What is printed of a run. -/
structure Piece where
  /-- The columns that are left in front of the piece, if they are limited. -/
  columns : Option Nat
  style : StyleDirective
  shown : Text
  deriving DecidableEq, Repr

/-- A piece in its style. -/
def Piece.text (piece : Piece) : Text :=
  runText piece.style piece.shown

/-- What is printed of the runs of a line. -/
def pieces : Option Nat → List (StyleDirective × Text) → List Piece
  | _, [] => []
  | none, (style, run) :: runs => ⟨none, style, run⟩ :: pieces none runs
  | some columns, (style, run) :: runs =>
    let shown := truncate columns run
    ⟨some columns, style, shown⟩ ::
      if shown.length < run.length then [] else pieces (some (columnsLeft columns shown)) runs

/-- The text that pieces show, without the escapes of their styles. -/
def shownText (pieces : List Piece) : Text :=
  pieces.flatMap (·.shown)

/-- The text of runs. -/
def textOf (runs : List (StyleDirective × Text)) : Text :=
  runs.flatMap (·.2)

/-- No piece takes more columns than are left in front of it. -/
def Affordable (pieces : List Piece) : Prop :=
  ∀ piece ∈ pieces, ∀ columns ∈ piece.columns, textWidth piece.shown ≤ columns

instance (pieces : List Piece) : Decidable (Affordable pieces) :=
  inferInstanceAs (Decidable (∀ piece ∈ pieces, ∀ columns ∈ piece.columns,
    textWidth piece.shown ≤ columns))

/-- Runs are printed piece by piece. -/
theorem runsText_eq (budget : Option Nat) (runs : List (StyleDirective × Text)) :
    runsText budget runs = (pieces budget runs).flatMap Piece.text := by
  induction runs generalizing budget with
  | nil => rfl
  | cons run runs inductionHypothesis =>
      cases budget with
      | none => rw [runsText, pieces, List.flatMap_cons, inductionHypothesis, Piece.text]
      | some budget =>
          rw [runsText, pieces, List.flatMap_cons, inductionHypothesis, Piece.text]
          dsimp only
          split <;> rfl

/-- Without a limit every run is shown whole. -/
theorem shownText_pieces_none (runs : List (StyleDirective × Text)) :
    shownText (pieces none runs) = textOf runs ∧ Affordable (pieces none runs) := by
  induction runs with
  | nil => exact ⟨rfl, by simp [pieces, Affordable]⟩
  | cons run runs inductionHypothesis =>
      obtain ⟨shown, affordable⟩ := inductionHypothesis
      rw [pieces]
      exact ⟨by simpa [shownText, textOf] using shown, by simpa [Affordable] using affordable⟩

/-- A run that does not fit is cut, and nothing is printed behind it. -/
theorem pieces_of_lt_columns {budget : Nat} {run : Text} (exceeds : budget < columns run)
    (style : StyleDirective) (runs : List (StyleDirective × Text)) :
    pieces (some budget) ((style, run) :: runs) = [⟨some budget, style, truncate budget run⟩] := by
  have shorter : (truncate budget run).length < run.length := by
    refine Nat.lt_of_le_of_ne (truncate_isPrefix budget run).length_le fun same => ?_
    have whole := (truncate_isPrefix budget run).eq_of_length same
    have bounded := columns_truncate_le budget run
    rw [whole] at bounded
    omega
  simp [pieces, shorter]

/-- A run that fits is shown whole. -/
theorem pieces_of_columns_le {budget : Nat} {run : Text} (fits : columns run ≤ budget)
    (style : StyleDirective) (runs : List (StyleDirective × Text)) :
    pieces (some budget) ((style, run) :: runs) =
      ⟨some budget, style, run⟩ :: pieces (some (columnsLeft budget run)) runs := by
  simp [pieces, truncate_of_columns_le fits]

/-- The pieces of a line that tallies show what fits of the line, whatever its runs are, and none
takes more columns than are left. -/
theorem shownText_pieces {budget : Nat} (machine : budget < UInt64.size)
    {runs : List (StyleDirective × Text)} (tallies : Tallies (textOf runs)) :
    shownText (pieces (some budget) runs) = truncate budget (textOf runs) ∧
      Affordable (pieces (some budget) runs) := by
  induction runs generalizing budget with
  | nil => exact ⟨rfl, by simp [pieces, Affordable]⟩
  | cons first runs inductionHypothesis =>
      obtain ⟨style, run⟩ := first
      have whole : textOf ((style, run) :: runs) = run ++ textOf runs := rfl
      rw [whole] at tallies ⊢
      by_cases fits : columns run ≤ budget
      · obtain ⟨narrow, even⟩ := tallies [] run (textOf runs) rfl
        have affordable : textWidth run ≤ budget := Nat.le_trans narrow fits
        have machineRest : budget - textWidth run < UInt64.size := by omega
        obtain ⟨shown, rest⟩ := inductionHypothesis machineRest tallies.of_append
        rw [pieces_of_columns_le fits, columnsLeft_eq machine affordable, truncate_append,
          if_pos fits]
        constructor
        · -- A narrow run leaves columns over only if nothing behind it takes any.
          have left : truncate (budget - textWidth run) (textOf runs) =
              truncate (budget - columns run) (textOf runs) := by
            rcases Nat.eq_zero_or_pos (columns (textOf runs)) with free | wide
            · rw [truncate_of_columns_le (by omega), truncate_of_columns_le (by omega)]
            · rw [even wide]
          rw [← left, ← shown, shownText, List.flatMap_cons, shownText]
        · intro piece member
          rcases List.mem_cons.mp member with rfl | later
          · simpa using affordable
          · exact rest piece later
      · have exceeds : budget < columns run := Nat.lt_of_not_le fits
        rw [pieces_of_lt_columns exceeds, truncate_append, if_neg fits]
        refine ⟨by simp [shownText], ?_⟩
        obtain ⟨cut, same⟩ := truncate_isPrefix budget run
        have narrow := (tallies [] (truncate budget run) (cut ++ textOf runs)
          (by rw [List.nil_append, ← List.append_assoc, same])).1
        have bounded := columns_truncate_le budget run
        simpa [Affordable] using Nat.le_trans narrow bounded

/-! ### Lines that do not tally -/

/-- Single characters in front of other runs are shown and take their columns. -/
theorem exists_pieces_append {budget : Nat} (machine : budget < UInt64.size)
    {singles : List (StyleDirective × Text)} (single : ∀ run ∈ singles, ∃ c, run.2 = [c])
    (fits : columns (textOf singles) ≤ budget) (runs : List (StyleDirective × Text)) :
    ∃ front, shownText front = textOf singles ∧
      pieces (some budget) (singles ++ runs) =
        front ++ pieces (some (budget - columns (textOf singles))) runs := by
  induction singles generalizing budget with
  | nil => exact ⟨[], rfl, rfl⟩
  | cons run singles inductionHypothesis =>
      obtain ⟨⟨c, same⟩, others⟩ := List.forall_mem_cons.mp single
      obtain ⟨style, text⟩ := run
      dsimp only at same
      subst same
      have whole : textOf ((style, [c]) :: singles) = c :: textOf singles := rfl
      rw [whole, columns_cons] at fits ⊢
      have machineRest : budget - charWidth c < UInt64.size := by omega
      obtain ⟨front, shown, rest⟩ := inductionHypothesis machineRest others (by omega)
      refine ⟨⟨some budget, style, [c]⟩ :: front, ?_, ?_⟩
      · simpa [shownText] using shown
      · rw [List.cons_append, pieces_of_columns_le (by simp; omega),
          columnsLeft_eq machine (by simp; omega), textWidth_singleton, rest, Nat.sub_sub,
          List.cons_append]

/-- The parts into which a line is divided: the characters of its front one by one, a part, and
what stands behind the part, if anything does. -/
def partsAt (front part back : Text) : List Text :=
  front.map (fun c => [c]) ++ part :: if back = [] then [] else [back]

theorem flatten_partsAt (front part back : Text) :
    (partsAt front part back).flatten = front ++ part ++ back := by
  rw [partsAt, List.flatten_append, ← List.flatMap_def, List.flatMap_singleton']
  split
  next whole => simp [whole]
  next => simp

/-- Runs that divide a line into these parts are the characters of the front, the part, and the
rest, if there is any. -/
theorem exists_runs_of_partsAt {front part back : Text} {runs : List (StyleDirective × Text)}
    (divided : runs.map (·.2) = partsAt front part back) :
    ∃ singles style behind, runs = singles ++ (style, part) :: behind ∧
      (∀ run ∈ singles, ∃ c, run.2 = [c]) ∧ textOf singles = front ∧
        (back ≠ [] → ∃ last, behind = [(last, back)]) := by
  rw [partsAt, List.map_eq_append_iff] at divided
  obtain ⟨singles, others, rfl, singlesParts, othersParts⟩ := divided
  obtain ⟨⟨style, same⟩, behind, rfl, rfl, behindParts⟩ := List.map_eq_cons_iff.mp othersParts
  refine ⟨singles, style, behind, rfl, ?_, ?_, ?_⟩
  · intro run member
    have part := List.mem_map_of_mem (f := (·.2)) member
    rw [singlesParts, List.mem_map] at part
    obtain ⟨c, -, same⟩ := part
    exact ⟨c, same.symm⟩
  · rw [textOf, List.flatMap_def, singlesParts, ← List.flatMap_def, List.flatMap_singleton']
  · intro more
    rw [if_neg more] at behindParts
    obtain ⟨⟨last, same⟩, rfl, rfl⟩ := List.map_eq_singleton_iff.mp behindParts
    exact ⟨last, rfl⟩

/-- A line that does not tally can be divided into parts such that runs of these parts show another
text than what fits of the line, or take more columns than are left, for some budget within the
columns of the line. -/
theorem exists_parts_of_not_tallies {line : Text} (narrow : columns line < UInt64.size)
    (uneven : ¬ Tallies line) :
    ∃ parts : List Text, parts.flatten = line ∧ [] ∉ parts ∧ ∃ budget < UInt64.size,
      ∀ runs : List (StyleDirective × Text), runs.map (·.2) = parts →
        ¬ (shownText (pieces (some budget) runs) = truncate budget line ∧
          Affordable (pieces (some budget) runs)) := by
  simp only [Tallies, Classical.not_forall] at uneven
  obtain ⟨front, part, back, rfl, uneven⟩ := uneven
  have whole : columns (front ++ part ++ back) = columns front + columns part + columns back := by
    rw [columns_append, columns_append]
  rw [whole] at narrow
  have nonempty : part ≠ [] := by
    rintro rfl
    simp at uneven
  have noneEmpty : [] ∉ partsAt front part back := by
    simp only [partsAt, List.mem_append, List.mem_map, List.cons_ne_nil, List.mem_cons,
      nonempty.symm]
    split <;> simp_all [eq_comm]
  refine ⟨partsAt front part back, flatten_partsAt front part back, noneEmpty, ?_⟩
  by_cases wide : columns part < textWidth part
  · -- The part just fits by its characters, and takes too many columns.
    have machine : columns front + columns part < UInt64.size := by omega
    refine ⟨columns front + columns part, machine, ?_⟩
    rintro runs divided ⟨-, affordable⟩
    obtain ⟨singles, style, behind, rfl, single, rfl, -⟩ := exists_runs_of_partsAt divided
    obtain ⟨printed, -, rest⟩ :=
      exists_pieces_append machine single (by omega) ((style, part) :: behind)
    rw [Nat.add_sub_cancel_left, pieces_of_columns_le (Nat.le_refl _)] at rest
    have bounded := affordable ⟨some (columns part), style, part⟩ (by simp [rest]) _ rfl
    exact absurd bounded (Nat.not_le.mpr wide)
  · -- The part leaves columns over, so that the whole line is shown although it does not fit.
    have short : textWidth part < columns part ∧ 0 < columns back := by omega
    have more : back ≠ [] := by
      rintro rfl
      simp at short
    have machine : columns front + columns part + columns back - 1 < UInt64.size := by omega
    refine ⟨columns front + columns part + columns back - 1, machine, ?_⟩
    rintro runs divided ⟨same, -⟩
    obtain ⟨singles, style, behind, rfl, single, rfl, onlyBack⟩ := exists_runs_of_partsAt divided
    obtain ⟨last, rfl⟩ := onlyBack more
    obtain ⟨printed, shown, rest⟩ :=
      exists_pieces_append machine single (by omega) [(style, part), (last, back)]
    rw [rest, pieces_of_columns_le (by omega), columnsLeft_eq (by omega) (by omega),
      pieces_of_columns_le (by omega)] at same
    have all : truncate (columns (textOf singles) + columns part + columns back - 1)
        (textOf singles ++ part ++ back) = textOf singles ++ part ++ back := by
      rw [← same, ← shown]
      simp [shownText, pieces]
    have bounded := columns_truncate_le
      (columns (textOf singles) + columns part + columns back - 1)
      (textOf singles ++ part ++ back)
    rw [all, whole] at bounded
    omega

end Highlighter.Render
