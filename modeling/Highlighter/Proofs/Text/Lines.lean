import Highlighter.Text.Basic

/-!
# Splitting a text into lines

`Text.lines` and `Text.ofLines` are inverse to each other on lists of lines that hold no newline.
A newline in the middle of a text is a cut point: the lines of the whole are the lines of both
sides, one after the other.
-/

namespace Highlighter.Text

/-- A text has at least one line. -/
theorem lines_ne_nil (text : Text) : text.lines ≠ [] := by
  fun_cases lines text <;> simp_all

/-- A first line is followed by a newline exactly when there is another line. -/
theorem ofLines_cons (line : Text) {others : List Text} (more : others ≠ []) :
    ofLines (line :: others) = line ++ '\n' :: ofLines others := by
  cases others with
  | nil => exact absurd rfl more
  | cons next rest => rfl

theorem mem_ofLines {lines : List Text} {line : Text} (member : line ∈ lines) {c : Char}
    (atLine : c ∈ line) : c ∈ ofLines lines := by
  induction lines with
  | nil => exact absurd member List.not_mem_nil
  | cons first others inductionHypothesis =>
      rcases List.mem_cons.mp member with rfl | later
      · cases others with
        | nil => exact atLine
        | cons next rest => exact List.mem_append_left _ atLine
      · rw [ofLines_cons first (List.ne_nil_of_mem later)]
        exact List.mem_append_right _ (List.mem_cons_of_mem _ (inductionHypothesis later))

/-- Putting the lines of a text together gives the text back. -/
@[simp] theorem ofLines_lines (text : Text) : ofLines text.lines = text := by
  induction text with
  | nil => rfl
  | cons c rest inductionHypothesis =>
      simp only [lines]
      split
      next newline => rw [ofLines_cons [] (lines_ne_nil rest), inductionHypothesis, newline]; rfl
      next =>
        cases shape : lines rest with
        | nil => exact absurd shape (lines_ne_nil rest)
        | cons line others =>
            rw [shape] at inductionHypothesis
            cases others with
            | nil => simpa [ofLines] using inductionHypothesis
            | cons next later => simpa [ofLines] using inductionHypothesis

/-- No line of a text holds a newline. -/
theorem newline_not_mem_of_mem_lines {text line : Text} (member : line ∈ text.lines) :
    '\n' ∉ line := by
  induction text generalizing line with
  | nil => simp_all [lines]
  | cons c rest inductionHypothesis =>
      simp only [lines] at member
      split at member
      next =>
        rcases List.mem_cons.mp member with rfl | later
        · exact List.not_mem_nil
        · exact inductionHypothesis later
      next other =>
        cases shape : lines rest with
        | nil => exact absurd shape (lines_ne_nil rest)
        | cons first others =>
            rw [shape] at member inductionHypothesis
            rcases List.mem_cons.mp member with rfl | later
            · have old := inductionHypothesis List.mem_cons_self
              simp [old, Ne.symm other]
            · exact inductionHypothesis (List.mem_cons_of_mem _ later)

/-- A text without a newline is its own only line. -/
theorem lines_of_newline_free {line : Text} (newlineFree : '\n' ∉ line) :
    line.lines = [line] := by
  induction line with
  | nil => rfl
  | cons c rest inductionHypothesis =>
      simp only [List.mem_cons, not_or] at newlineFree
      simp [lines, inductionHypothesis newlineFree.2, Ne.symm newlineFree.1]

/-- A newline separates the lines before it from the lines after it. -/
theorem lines_append_newline (front back : Text) :
    (front ++ '\n' :: back).lines = front.lines ++ back.lines := by
  induction front with
  | nil => rfl
  | cons c rest inductionHypothesis =>
      simp only [List.cons_append, lines, inductionHypothesis]
      split
      next => rfl
      next =>
        cases shape : lines rest with
        | nil => exact absurd shape (lines_ne_nil rest)
        | cons line others => rfl

/-- Splitting gives back the lines that were put together. -/
theorem lines_ofLines {lines : List Text} (nonempty : lines ≠ [])
    (newlineFree : ∀ line ∈ lines, '\n' ∉ line) : (ofLines lines).lines = lines := by
  induction lines with
  | nil => exact absurd rfl nonempty
  | cons line others inductionHypothesis =>
      have lineFree := lines_of_newline_free (newlineFree line List.mem_cons_self)
      by_cases more : others = []
      · subst more
        exact lineFree
      · rw [ofLines_cons line more, lines_append_newline, lineFree,
          inductionHypothesis more fun other member =>
            newlineFree other (List.mem_cons_of_mem _ member)]
        rfl

/-- Two blocks of lines are put together with a newline between them. -/
theorem ofLines_append {front back : List Text} (frontLines : front ≠ [])
    (backLines : back ≠ []) :
    ofLines (front ++ back) = ofLines front ++ '\n' :: ofLines back := by
  induction front with
  | nil => exact absurd rfl frontLines
  | cons line others inductionHypothesis =>
      by_cases more : others = []
      · subst more
        exact ofLines_cons line backLines
      · rw [List.cons_append, ofLines_cons line (by simp [more]), inductionHypothesis more,
          ofLines_cons line more, List.append_assoc, List.cons_append]

/-! ### Blocks of lines -/

/-- What may stand before a block of lines: nothing, or a text that ends with a newline. -/
def Opens (before : Text) : Prop :=
  before = [] ∨ ∃ front, before = front ++ ['\n']

/-- What may stand behind a block of lines: nothing, or a text that starts with a newline. -/
def Closes (behind : Text) : Prop :=
  behind = [] ∨ ∃ rest, behind = '\n' :: rest

/-- The lines before a block, with the newlines behind them. -/
def opening : List Text → Text
  | [] => []
  | line :: others => line ++ '\n' :: opening others

/-- The lines behind a block, with the newlines before them. -/
def closing : List Text → Text
  | [] => []
  | line :: others => '\n' :: ofLines (line :: others)

theorem opens_opening (front : List Text) : Opens (opening front) := by
  induction front with
  | nil => exact .inl rfl
  | cons line others inductionHypothesis =>
      rcases inductionHypothesis with empty | ⟨front, same⟩
      · exact .inr ⟨line, by rw [opening, empty]⟩
      · exact .inr ⟨line ++ '\n' :: front, by simp [opening, same]⟩

theorem closes_closing (back : List Text) : Closes (closing back) := by
  cases back with
  | nil => exact .inl rfl
  | cons line others => exact .inr ⟨_, rfl⟩

/-- A block behind one that opens a text opens it too. -/
theorem Opens.append {before front : Text} (opens : Opens before) (further : Opens front) :
    Opens (before ++ front) := by
  rcases further with rfl | ⟨rest, rfl⟩
  · rwa [List.append_nil]
  · exact .inr ⟨before ++ rest, (List.append_assoc ..).symm⟩

/-- A block in front of one that closes a text closes it too. -/
theorem Closes.append {back behind : Text} (closes : Closes back) (further : Closes behind) :
    Closes (back ++ behind) := by
  rcases closes with rfl | ⟨rest, rfl⟩
  · exact further
  · exact .inr ⟨rest ++ behind, rfl⟩

/-- The lines before a block open its text. -/
theorem ofLines_append_eq_opening (front : List Text) {block : List Text}
    (blockLines : block ≠ []) : ofLines (front ++ block) = opening front ++ ofLines block := by
  induction front with
  | nil => rfl
  | cons line others inductionHypothesis =>
      rw [List.cons_append, ofLines_cons line (by simp [blockLines]), inductionHypothesis,
        opening, List.append_assoc, List.cons_append]

/-- The lines behind a block close its text. -/
theorem ofLines_append_eq_closing {block : List Text} (blockLines : block ≠ [])
    (back : List Text) : ofLines (block ++ back) = ofLines block ++ closing back := by
  cases back with
  | nil => simp [closing]
  | cons line others => exact ofLines_append blockLines (by simp)

/-- A newline stands behind the lines that open a block. -/
theorem opening_eq {front : List Text} (frontLines : front ≠ []) :
    opening front = ofLines front ++ ['\n'] := by
  induction front with
  | nil => exact absurd rfl frontLines
  | cons line others inductionHypothesis =>
      by_cases more : others = []
      · subst more
        rfl
      · rw [opening, inductionHypothesis more, ofLines_cons line more, List.append_assoc,
          List.cons_append]

/-- The character behind a block, if there is one, is a newline. -/
theorem eq_newline_of_closes {behind : Text} (closes : Closes behind) {c : Char}
    (first : behind[0]? = some c) : c = '\n' := by
  rcases closes with rfl | ⟨rest, rfl⟩
  · simp at first
  · exact (Option.some.inj first).symm

/-- A character of a text that is not behind its first lines, and is no newline, is one of the
text of these lines. The newline behind them comes later. -/
theorem getElem?_of_lt_length_opening {front back : List Text} {index : Nat} {c : Char}
    (inFront : index < (opening front).length)
    (atIndex : (ofLines (front ++ back))[index]? = some c) (visible : c ≠ '\n') :
    index + 1 < (opening front).length ∧ (ofLines front)[index]? = some c := by
  have frontLines : front ≠ [] := by
    rintro rfl
    simp [opening] at inFront
  rw [opening_eq frontLines, List.length_append, List.length_singleton] at inFront ⊢
  rw [ofLines_append_eq_closing frontLines] at atIndex
  by_cases last : index = (ofLines front).length
  · rw [last, List.getElem?_append_right (Nat.le_refl _), Nat.sub_self] at atIndex
    exact absurd (eq_newline_of_closes (closes_closing back) atIndex) visible
  · rw [List.getElem?_append_left (by omega)] at atIndex
    exact ⟨by omega, atIndex⟩

/-- A character behind the first lines of a text is one of the other lines, and there are some. -/
theorem getElem?_of_length_opening_le {front back : List Text} {index : Nat} {c : Char}
    (atIndex : (ofLines (front ++ back))[(opening front).length + index]? = some c) :
    back ≠ [] ∧ (ofLines back)[index]? = some c := by
  have backLines : back ≠ [] := by
    rintro rfl
    have within := (List.getElem?_eq_some_iff.mp atIndex).1
    rw [List.append_nil] at within
    by_cases frontLines : front = []
    · simp [frontLines, ofLines] at within
    · rw [opening_eq frontLines, List.length_append] at within
      omega
  refine ⟨backLines, ?_⟩
  rwa [ofLines_append_eq_opening front backLines,
    List.getElem?_append_right (Nat.le_add_right _ _), Nat.add_sub_cancel_left] at atIndex

/-- A text around one of its lines. -/
theorem eq_of_lines_eq {text line : Text} {front back : List Text}
    (split : text.lines = front ++ line :: back) :
    text = opening front ++ line ++ closing back := by
  rw [← ofLines_lines text, split, ofLines_append_eq_opening front (List.cons_ne_nil _ _),
    ← List.singleton_append, ofLines_append_eq_closing (List.cons_ne_nil _ _), List.append_assoc]
  rfl

/-- A character that is no newline stands on a line. -/
theorem exists_line_of_getElem? {text : Text} {index : Nat} {c : Char}
    (atIndex : text[index]? = some c) (visible : c ≠ '\n') :
    ∃ front line back, text.lines = front ++ line :: back ∧
      ∃ place < line.length, index = (opening front).length + place := by
  rw [← ofLines_lines text] at atIndex
  generalize text.lines = lines at atIndex
  induction lines generalizing index with
  | nil => cases atIndex
  | cons line others inductionHypothesis =>
      by_cases inLine : index < line.length
      · exact ⟨[], line, others, rfl, index, inLine, (Nat.zero_add index).symm⟩
      by_cases last : others = []
      · subst last
        rw [ofLines, List.getElem?_eq_none (Nat.le_of_not_lt inLine)] at atIndex
        cases atIndex
      rw [ofLines_cons line last, List.getElem?_append_right (Nat.le_of_not_lt inLine)] at atIndex
      cases distance : index - line.length with
      | zero =>
          rw [distance] at atIndex
          exact absurd (Option.some.inj atIndex).symm visible
      | succ further =>
          rw [distance, List.getElem?_cons_succ] at atIndex
          obtain ⟨front, found, back, rfl, place, within, rfl⟩ := inductionHypothesis atIndex
          refine ⟨line :: front, found, back, rfl, place, within, ?_⟩
          rw [opening, List.length_append, List.length_cons]
          omega

end Highlighter.Text
