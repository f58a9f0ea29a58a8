import Highlighter.Proofs.Surface.Overlapping

/-!
# Text between two positions

The text between two positions is the slice of the content between their offsets, for any two
positions at all (`Surface.text_slices_content`). So texts between ascending positions can be put
together, and the whole content is the text from the first place to the last one.

The slice is also what one walk over the lines collects that counts characters and newlines and
leaves the lines as soon as it reads a character behind the slice (`Surface.collect_eq`).
-/

namespace Highlighter

/-- A slice of two texts, one behind the other, when `offset` characters stand before them. -/
theorem Text.extract_append (front back : Text) (offset first last : Nat) :
    (front ++ back).extract (first - offset) (last - offset) =
      front.extract (first - offset) (last - offset) ++
        back.extract (first - (offset + front.length)) (last - (offset + front.length)) := by
  have skipped : first - offset - front.length = first - (offset + front.length) := by omega
  have taken : last - offset - (first - offset) - (front.length - (first - offset)) =
      last - (offset + front.length) - (first - (offset + front.length)) := by omega
  rw [List.extract_eq_take_drop, List.drop_append, List.take_append, List.length_drop, skipped,
    taken]

namespace Surface

variable {surface : Surface}

/-! ### Positions and offsets ascend together -/

/-- A line ends before every later line begins. -/
theorem lengthBefore_add_lineLength_lt {line later : Nat} (positive : 1 ≤ line)
    (before : line < later) (bounded : later ≤ surface.lineCount) :
    surface.lengthBefore line + surface.lineLength line < surface.lengthBefore later := by
  obtain ⟨index, rfl⟩ : ∃ index, line = index + 1 := ⟨line - 1, by omega⟩
  obtain ⟨further, rfl⟩ : ∃ further, later = index + (further + 1) + 1 :=
    ⟨later - index - 2, by omega⟩
  rw [lineCount] at bounded
  have hasLine : index < surface.lines.length := by omega
  rw [lineLength_of_getElem? (List.getElem?_eq_getElem hasLine)]
  change blockLength (surface.lines.take index) + _ <
    blockLength (surface.lines.take (index + (further + 1)))
  rw [List.take_add, blockLength_append, List.drop_eq_getElem_cons hasLine, List.take_succ_cons,
    blockLength_cons]
  omega

/-- The offsets of two positions are in the order of the positions, whether or not these are places
of the text. -/
theorem offsetOf_le_offsetOf {left right : Position} (ordered : left ≤ right) :
    surface.offsetOf left ≤ surface.offsetOf right := by
  rw [Position.le_iff] at ordered
  rcases Nat.eq_zero_or_pos left.line with zero | positive
  · rw [offsetOf, if_pos zero]
    exact Nat.zero_le _
  rw [offsetOf, offsetOf, if_neg (show left.line ≠ 0 by omega),
    if_neg (show right.line ≠ 0 by omega)]
  by_cases hasRight : right.line ≤ surface.lineCount
  · rw [if_pos (show left.line ≤ surface.lineCount by omega), if_pos hasRight]
    rcases ordered with before | ⟨sameLine, columns⟩
    · have apart := lengthBefore_add_lineLength_lt positive before hasRight
      omega
    · rw [sameLine]
      omega
  · rw [if_neg hasRight]
    split
    next hasLeft =>
      rcases Nat.lt_or_eq_of_le hasLeft with before | last
      · have apart := lengthBefore_add_lineLength_lt positive before (Nat.le_refl _)
        omega
      · rw [last]
        omega
    next => exact Nat.le_refl _

/-! ### A walk over the lines -/

/-- What a walk over a line collects between the offsets `first` and `last` when the line starts at
`offset`. A character at `last` or behind it ends the walk; behind the line it goes on with
`later`. -/
def collectLine (first last : Nat) (later : Nat → Text) : (offset : Nat) → (line : Text) → Text
  | offset, [] => later offset
  | offset, c :: rest =>
    if last ≤ offset then []
    else if first ≤ offset then c :: collectLine first last later (offset + 1) rest
    else collectLine first last later (offset + 1) rest

/-- What a walk collects over lines that follow another one, with the newline before each. -/
def collectBehind (first last : Nat) : (offset : Nat) → List Text → Text
  | _, [] => []
  | offset, line :: others =>
    let rest := collectLine first last (fun next => collectBehind first last next others)
      (offset + 1) line
    if first ≤ offset ∧ offset < last then '\n' :: rest else rest

/-- What a walk over lines collects between two offsets, newlines between the lines included. -/
def collect (first last : Nat) : List Text → Text
  | [] => []
  | line :: others =>
    collectLine first last (fun next => collectBehind first last next others) 0 line

/-- The walk over a line collects its slice, and then what comes later. -/
theorem collectLine_eq {first last : Nat} {later : Nat → Text}
    (ended : ∀ offset, last ≤ offset → later offset = []) (offset : Nat) (line : Text) :
    collectLine first last later offset line =
      line.extract (first - offset) (last - offset) ++ later (offset + line.length) := by
  induction line generalizing offset with
  | nil => simp [collectLine]
  | cons c rest inductionHypothesis =>
      have next := Text.extract_append [c] rest offset first last
      have later : offset + (rest.length + 1) = offset + 1 + rest.length := by omega
      rw [List.singleton_append, List.length_singleton] at next
      rw [collectLine, inductionHypothesis, next, List.length_cons, later]
      split
      next behind =>
        rw [ended _ (by omega), Nat.sub_eq_zero_of_le behind,
          Nat.sub_eq_zero_of_le (show last ≤ offset + 1 by omega)]
        simp
      next within =>
        obtain ⟨more, same⟩ : ∃ more, last - offset = more + 1 := ⟨last - offset - 1, by omega⟩
        split
        next reached => simp [Nat.sub_eq_zero_of_le reached, same]
        next before =>
          have skipped : [c].drop (first - offset) = [] :=
            List.drop_of_length_le (by rw [List.length_singleton]; omega)
          simp [skipped]

/-- The walk over lines that follow another one collects a slice of what stands there. -/
theorem collectBehind_eq (first last offset : Nat) (lines : List Text) :
    collectBehind first last offset lines =
      (Text.closing lines).extract (first - offset) (last - offset) := by
  induction lines generalizing offset with
  | nil => simp [collectBehind, Text.closing]
  | cons line others inductionHypothesis =>
      have ended (next : Nat) (behind : last ≤ next) :
          collectBehind first last next others = [] := by
        rw [inductionHypothesis, Nat.sub_eq_zero_of_le behind]
        simp
      have shape : Text.closing (line :: others) = ['\n'] ++ (line ++ Text.closing others) := by
        rw [Text.closing, ← List.singleton_append (l := others),
          Text.ofLines_append_eq_closing (List.cons_ne_nil _ _)]
        rfl
      rw [shape, Text.extract_append, Text.extract_append, collectBehind, collectLine_eq ended,
        inductionHypothesis, List.length_singleton]
      split
      next taken =>
        obtain ⟨more, same⟩ : ∃ more, last - offset = more + 1 := ⟨last - offset - 1, by omega⟩
        simp [Nat.sub_eq_zero_of_le taken.1, same]
      next left =>
        have nothing : ['\n'].extract (first - offset) (last - offset) = [] := by
          refine List.eq_nil_of_length_eq_zero ?_
          rw [List.length_take, List.length_drop, List.length_singleton]
          omega
        rw [nothing, List.nil_append]

/-- The walk over the lines collects a slice of the text that they make up. -/
theorem collect_eq (first last : Nat) (lines : List Text) :
    collect first last lines = (Text.ofLines lines).extract first last := by
  cases lines with
  | nil => simp [collect, Text.ofLines]
  | cons line others =>
      have ended (next : Nat) (behind : last ≤ next) :
          collectBehind first last next others = [] := by
        rw [collectBehind_eq, Nat.sub_eq_zero_of_le behind]
        simp
      have whole := Text.extract_append line (Text.closing others) 0 first last
      rw [Nat.sub_zero, Nat.sub_zero] at whole
      rw [collect, collectLine_eq ended, collectBehind_eq, ← List.singleton_append (l := others),
        Text.ofLines_append_eq_closing (List.cons_ne_nil _ _)]
      exact whole.symm

/-! ### Slices of the content -/

/-- Texts between three positions in a row are put together to the text between the outer ones. -/
theorem text_append_text {first middle last : Position}
    (lower : first ≤ middle) (upper : middle ≤ last) :
    surface.text first middle ++ surface.text middle last = surface.text first last := by
  have firstOffset : surface.offsetOf first ≤ surface.offsetOf middle := offsetOf_le_offsetOf lower
  have lastOffset : surface.offsetOf middle ≤ surface.offsetOf last := offsetOf_le_offsetOf upper
  obtain ⟨front, same⟩ := Nat.exists_eq_add_of_le firstOffset
  obtain ⟨back, sameLast⟩ := Nat.exists_eq_add_of_le lastOffset
  rw [text_eq, text_eq, text_eq, sameLast, same, Nat.add_sub_cancel_left, Nat.add_assoc,
    Nat.add_sub_cancel_left, ← Nat.add_assoc, Nat.add_sub_cancel_left, List.take_add,
    List.drop_drop]

/-- There is text between two positions exactly if the offset of the second one is greater. -/
theorem text_eq_nil_iff (nonempty : surface.lines ≠ []) {start stop : Position} :
    surface.text start stop = [] ↔ surface.offsetOf stop ≤ surface.offsetOf start := by
  have bounded := offsetOf_le_length nonempty stop
  rw [text_eq, ← List.length_eq_zero_iff, List.length_take, List.length_drop]
  omega

/-- A new surface holds the text that it was made for. After any run of operations, the whole
content is the text from the first place to the last one, and is split into the lines. The text
between any two positions is the slice of the content between their offsets, and what a walk over
the lines collects there; it is empty if the second offset is not greater. Texts between three
positions in a row are put together to the text between the outer ones. -/
theorem text_slices_content :
    (∀ text, (ofText text).content = text) ∧
      ∀ surface, Reachable Anything surface →
        surface.text .start surface.finish = surface.content ∧
          surface.content.lines = surface.lines ∧
          (∀ start stop,
            surface.text start stop =
                surface.content.extract (surface.offsetOf start) (surface.offsetOf stop) ∧
              surface.text start stop =
                collect (surface.offsetOf start) (surface.offsetOf stop) surface.lines ∧
              (surface.text start stop = [] ↔
                surface.offsetOf stop ≤ surface.offsetOf start)) ∧
          ∀ first middle last, first ≤ middle → middle ≤ last →
            surface.text first middle ++ surface.text middle last = surface.text first last := by
  refine ⟨fun text => Text.ofLines_lines text, fun surface reachable => ?_⟩
  have lined := Lined.of_reachable reachable
  refine ⟨text_start_finish lined.nonempty, lines_content lined, fun start stop => ?slice,
    fun first middle last => text_append_text⟩
  case slice =>
    have slice := text_eq surface start stop
    exact ⟨slice, by rw [slice, collect_eq]; rfl, text_eq_nil_iff lined.nonempty⟩

/-- A line is put between two others. Texts over the empty lines hold newlines only, and a text from
in front of the first line is put together with one that ends behind the last line. -/
theorem text_slices_content_of_empty_lines :
    let surface := (ofText "ab\nc".toList).insert ⟨1, 2⟩ "\n\n".toList
    Reachable Anything surface ∧ surface.content.lines = ["ab".toList, [], [], ['c']] ∧
      surface.text ⟨1, 2⟩ ⟨4, 0⟩ = ['\n', '\n', '\n'] ∧
      surface.text ⟨1, 7⟩ ⟨1, 2⟩ = [] ∧
      surface.text ⟨0, 5⟩ ⟨2, 7⟩ ++ surface.text ⟨2, 7⟩ ⟨9, 9⟩ = surface.content := by
  intro surface
  have reachable : Reachable Anything surface :=
    .step (.insert ⟨1, 2⟩ "\n\n".toList) (.ofText "ab\nc".toList) trivial
  obtain ⟨whole, lines, slices, together⟩ := text_slices_content.2 surface reachable
  refine ⟨reachable, lines, ?newlines, (slices _ _).2.2.mpr (by decide), ?meet⟩
  case newlines =>
    rw [(slices _ _).1]
    decide
  case meet =>
    rw [together _ _ _ (by decide) (by decide), ← whole]
    decide

end Surface

end Highlighter
