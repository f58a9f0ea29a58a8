import Highlighter.Unicode.TextWidth

/-!
# Display width of a text, character by character

The columns of a text are not the columns of its characters (`columns`): letters share columns in a
ligature, and a selector widens the character in front of it. `Tallies` says of a text that this
makes no difference to a count that goes over the text part by part. It holds of every text whose
characters take no part in a combination (`tallies_of_isSeparate`).
-/

namespace Highlighter.Unicode

/-- The columns that the characters of a text take when each stands alone. -/
def columns : List Char → Nat
  | [] => 0
  | c :: text => charWidth c + columns text

@[simp] theorem columns_nil : columns [] = 0 :=
  rfl

@[simp] theorem columns_cons (c : Char) (text : List Char) :
    columns (c :: text) = charWidth c + columns text :=
  rfl

@[simp] theorem columns_append (front back : List Char) :
    columns (front ++ back) = columns front + columns back := by
  induction front with
  | nil => simp
  | cons c front inductionHypothesis => simp [inductionHypothesis, Nat.add_assoc]

@[simp] theorem textWidth_nil : textWidth [] = 0 :=
  rfl

/-- Nothing follows the only character of a text. -/
@[simp] theorem textWidth_singleton (c : Char) : textWidth [c] = charWidth c := by
  simp [textWidth, measure, widthBefore, WidthContext.withoutEmojiStyle]

/-- No part of a text is wider than its characters, and none is narrower that stands before a
character with columns. -/
def Tallies (text : List Char) : Prop :=
  ∀ front part back, text = front ++ part ++ back →
    textWidth part ≤ columns part ∧ (0 < columns back → textWidth part = columns part)

/-- What stands at the end of a text tallies if the text does. -/
theorem Tallies.of_append {front back : List Char} (tallies : Tallies (front ++ back)) :
    Tallies back := by
  rintro before part behind rfl
  exact tallies (front ++ before) part behind (by simp only [List.append_assoc])

/-- Whether a character takes no part in a combination with the characters beside it. -/
def isSeparate (c : Char) : Bool :=
  !isJoiner c
    && (WidthContext.ofChar c = {} || WidthContext.ofChar c = { following := .emoji })

/-- A separate character takes its columns in front of separate characters. -/
theorem widthBefore_of_isSeparate {c : Char} (separate : isSeparate c = true)
    {context : WidthContext} (plain : context = {} ∨ context = { following := .emoji }) :
    widthBefore c context = ((charWidth c : Int), WidthContext.ofChar c) := by
  rcases plain with rfl | rfl
  · simp [widthBefore, WidthContext.withoutEmojiStyle]
  · simp only [isSeparate, Bool.and_eq_true, Bool.not_eq_true', Bool.or_eq_true,
      decide_eq_true_eq] at separate
    obtain ⟨noJoiner, plain⟩ := separate
    have noEmojiStyle : c.toNat ≠ 0xFE0F := by
      intro same
      simp [WidthContext.ofChar, same] at plain
    have noTextStyle : c.toNat ≠ 0xFE0E := by
      intro same
      simp [WidthContext.ofChar, same] at plain
    simp [widthBefore, WidthContext.withoutEmojiStyle, combine?, noJoiner, noEmojiStyle,
      noTextStyle, Following.isLigatureAcrossSelectors, Following.isLigature]

/-- Separate characters take their columns one by one. -/
theorem textWidth_of_isSeparate {text : List Char}
    (separate : ∀ c ∈ text, isSeparate c = true) : textWidth text = columns text := by
  suffices measured : (measure text).1 = columns text ∧
      ((measure text).2 = {} ∨ (measure text).2 = { following := .emoji }) by
    rw [textWidth, measured.1, Int.toNat_natCast]
  induction text with
  | nil => exact ⟨rfl, .inl rfl⟩
  | cons c text inductionHypothesis =>
      obtain ⟨here, behind⟩ := List.forall_mem_cons.mp separate
      obtain ⟨width, context⟩ := inductionHypothesis behind
      have unfolded : measure (c :: text) =
          ((measure text).1 + (widthBefore c (measure text).2).1,
            (widthBefore c (measure text).2).2) := rfl
      rw [unfolded, widthBefore_of_isSeparate here context, width, columns_cons]
      refine ⟨by omega, ?_⟩
      simpa [isSeparate] using (Bool.and_eq_true_iff.mp here).2

/-- A text of separate characters tallies. -/
theorem tallies_of_isSeparate {text : List Char} (separate : text.all isSeparate = true) :
    Tallies text := by
  rintro front part back rfl
  have counted : textWidth part = columns part :=
    textWidth_of_isSeparate fun c member => List.all_eq_true.mp separate c (by simp [member])
  exact ⟨Nat.le_of_eq counted, fun _ => counted⟩

/-- Control characters, a combining mark, a zero width space, wide letters and an emoji. -/
example : "\x00\t\r\x7fa\u0301\u200b日한ｆ\u3000😀é".toList.all isSeparate = true := by
  decide +kernel

/-- Lam and alef join, and a sun takes a second column when it is shown as an emoji. -/
example : textWidth "\u0644\u0627".toList = 1 ∧ columns "\u0644\u0627".toList = 2 ∧
    textWidth "\u2600\ufe0f".toList = 2 ∧ columns "\u2600\ufe0f".toList = 1 := by
  decide +kernel

end Highlighter.Unicode
