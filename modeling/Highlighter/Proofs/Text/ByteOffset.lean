import Highlighter.Text.ByteOffset

/-!
# Characters among bytes

Byte offsets ascend strictly with character offsets (`Text.byteOffset_lt_byteOffset_iff`), so each
character boundary belongs to one character offset, and is taken back to it
(`Text.charOffset?_byteOffset`). From the byte behind a boundary the next boundary is found byte by
byte (`Text.boundaryFrom_succ`).
-/

namespace Highlighter.Text

variable {text : Text} {offset bytes : Nat}

/-- The number of bytes of a text. -/
def byteLength (text : Text) : Nat :=
  text.byteOffset text.length

/-- A byte offset is a character boundary: whole characters stand before it. -/
def IsBoundary (text : Text) (bytes : Nat) : Prop :=
  ∃ offset ≤ text.length, text.byteOffset offset = bytes

instance (text : Text) (bytes : Nat) : Decidable (text.IsBoundary bytes) :=
  inferInstanceAs (Decidable (∃ offset ≤ text.length, text.byteOffset offset = bytes))

/-- The first character boundary at or behind a byte. Past the end of the text no boundary is
looked for. -/
def boundaryFrom (text : Text) (bytes : Nat) : Nat :=
  if bytes < text.byteLength ∧ ¬text.IsBoundary bytes then boundaryFrom text (bytes + 1) else bytes
termination_by text.byteLength - bytes

@[simp] theorem byteOffset_zero (text : Text) : text.byteOffset 0 = 0 := rfl

@[simp] theorem byteOffset_cons_succ (c : Char) (rest : Text) (offset : Nat) :
    byteOffset (c :: rest) (offset + 1) = c.utf8Size + rest.byteOffset offset := rfl

/-- A character takes at least one byte. -/
theorem byteOffset_lt_succ (within : offset < text.length) :
    text.byteOffset offset < text.byteOffset (offset + 1) := by
  induction text generalizing offset with
  | nil => exact absurd within (Nat.not_lt_zero _)
  | cons c rest inductionHypothesis =>
      have positive := c.utf8Size_pos
      cases offset with
      | zero =>
          rw [byteOffset_cons_succ, byteOffset_zero, byteOffset_zero]
          omega
      | succ offset =>
          have later := inductionHypothesis (Nat.lt_of_succ_lt_succ within)
          rw [byteOffset_cons_succ, byteOffset_cons_succ]
          omega

/-- Byte offsets ascend with character offsets. -/
theorem byteOffset_lt_byteOffset {left right : Nat} (ordered : left < right)
    (bounded : right ≤ text.length) : text.byteOffset left < text.byteOffset right := by
  induction right with
  | zero => exact absurd ordered (Nat.not_lt_zero _)
  | succ right inductionHypothesis =>
      have step : text.byteOffset right < text.byteOffset (right + 1) := byteOffset_lt_succ bounded
      rcases Nat.lt_or_eq_of_le (Nat.le_of_lt_succ ordered) with before | rfl
      · exact Nat.lt_trans (inductionHypothesis before (Nat.le_of_succ_le bounded)) step
      · exact step

/-- Places of the text and their byte offsets have the same order. -/
theorem byteOffset_lt_byteOffset_iff {left right : Nat} (leftBounded : left ≤ text.length)
    (rightBounded : right ≤ text.length) :
    text.byteOffset left < text.byteOffset right ↔ left < right := by
  refine ⟨fun ordered => ?_, fun ordered => byteOffset_lt_byteOffset ordered rightBounded⟩
  rcases Nat.lt_trichotomy left right with before | rfl | behind
  · exact before
  · exact absurd ordered (Nat.lt_irrefl _)
  · exact absurd ordered (Nat.lt_asymm (byteOffset_lt_byteOffset behind leftBounded))

/-- Places of the text and their byte offsets have the same weak order. -/
theorem byteOffset_le_byteOffset_iff {left right : Nat} (leftBounded : left ≤ text.length)
    (rightBounded : right ≤ text.length) :
    text.byteOffset left ≤ text.byteOffset right ↔ left ≤ right := by
  rw [← Nat.not_lt, byteOffset_lt_byteOffset_iff rightBounded leftBounded, Nat.not_lt]

theorem byteOffset_le_byteLength (bounded : offset ≤ text.length) :
    text.byteOffset offset ≤ text.byteLength :=
  (byteOffset_le_byteOffset_iff bounded (Nat.le_refl _)).mpr bounded

/-- A character boundary is taken back to the characters before it. -/
theorem charOffset?_byteOffset (bounded : offset ≤ text.length) :
    text.charOffset? (text.byteOffset offset) = some offset := by
  induction text generalizing offset with
  | nil =>
      obtain rfl : offset = 0 := Nat.le_zero.mp bounded
      rfl
  | cons c rest inductionHypothesis =>
      cases offset with
      | zero => rfl
      | succ offset =>
          have later := inductionHypothesis (Nat.le_of_succ_le_succ bounded)
          have inside : c.utf8Size + byteOffset rest offset ≠ 0 := by
            have positive := c.utf8Size_pos
            omega
          rw [byteOffset_cons_succ, charOffset?.eq_3 _ c rest inside, Nat.add_sub_cancel_left,
            later, Option.map_some]

/-- A byte is taken to a place of the text that does not lie before it. -/
theorem le_byteOffset_of_charOffset? (found : text.charOffset? bytes = some offset) :
    offset ≤ text.length ∧ bytes ≤ text.byteOffset offset := by
  fun_induction charOffset? text bytes generalizing offset with
  | case1 =>
      obtain rfl := Option.some.inj found
      exact ⟨Nat.zero_le _, Nat.zero_le _⟩
  | case2 => cases found
  | case3 c rest bytes _ inductionHypothesis =>
      obtain ⟨offset, later, rfl⟩ := Option.map_eq_some_iff.mp found
      obtain ⟨within, reached⟩ := inductionHypothesis later
      rw [byteOffset_cons_succ, List.length_cons]
      omega

/-! ### Character boundaries -/

/-- The next boundary does not lie before the byte. -/
theorem le_boundaryFrom (text : Text) (bytes : Nat) : bytes ≤ text.boundaryFrom bytes := by
  fun_induction boundaryFrom text bytes with
  | case1 bytes inside inductionHypothesis => exact Nat.le_of_succ_le inductionHypothesis
  | case2 => exact Nat.le_refl _

/-- From the inside of a character, or from the byte behind it, the boundary behind it is found. -/
theorem boundaryFrom_of_lt (within : offset < text.length)
    (lower : text.byteOffset offset < bytes) (upper : bytes ≤ text.byteOffset (offset + 1)) :
    text.boundaryFrom bytes = text.byteOffset (offset + 1) := by
  have bounded : text.byteOffset (offset + 1) ≤ text.byteLength := byteOffset_le_byteLength within
  fun_induction boundaryFrom text bytes with
  | case1 bytes inside inductionHypothesis =>
      have other : bytes ≠ text.byteOffset (offset + 1) := by
        rintro rfl
        exact inside.2 ⟨offset + 1, within, rfl⟩
      exact inductionHypothesis (Nat.lt_succ_of_lt lower) (by omega)
  | case2 bytes reached =>
      refine Nat.le_antisymm upper ?_
      by_cases ended : text.byteLength ≤ bytes
      · exact Nat.le_trans bounded ended
      · rw [not_and, Classical.not_not] at reached
        obtain ⟨place, inText, rfl⟩ := reached (Nat.not_le.mp ended)
        have behind : offset < place :=
          (byteOffset_lt_byteOffset_iff (Nat.le_of_lt within) inText).mp lower
        exact (byteOffset_le_byteOffset_iff within inText).mpr behind

/-- From the byte behind a boundary, the boundary behind the next character is found. -/
theorem boundaryFrom_succ (within : offset < text.length) :
    text.boundaryFrom (text.byteOffset offset + 1) = text.byteOffset (offset + 1) :=
  boundaryFrom_of_lt within (Nat.lt_succ_self _) (byteOffset_lt_succ within)

/-- Past the end of the text no boundary is looked for. -/
theorem boundaryFrom_of_byteLength_le (ended : text.byteLength ≤ bytes) :
    text.boundaryFrom bytes = bytes := by
  rw [boundaryFrom, if_neg (fun inside => absurd inside.1 (Nat.not_lt.mpr ended))]

end Highlighter.Text
