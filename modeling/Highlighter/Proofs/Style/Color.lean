import Highlighter.Proofs.Text.Hex
import Highlighter.Style.Color
import Mathlib.Data.List.DropRight
import Mathlib.Data.List.TakeWhile

/-!
# Colors are read as they were written

A color has a long form, with two digits for each component, and a short one, with one digit for
each (`Color.Writes`). Exactly these forms are read, with white space around them
(`Color.ofHex?_eq_some_iff`). The long form of every color is read back as the color
(`Color.ofHex?_toHex`).
-/

namespace Highlighter.Color

/-! ### White space around a text -/

/-- Whether neither end of a text is white space. -/
structure IsTrimmed (core : List Char) : Prop where
  first : ∀ c ∈ core.head?, Unicode.isWhiteSpace c = false
  last : ∀ c ∈ core.getLast?, Unicode.isWhiteSpace c = false

/-- A text is `core` with white space around it, and nothing is left to remove from `core`. -/
def Trims (text core : List Char) : Prop :=
  IsTrimmed core ∧ ∃ before after, text = before ++ core ++ after ∧
    (∀ c ∈ before, Unicode.isWhiteSpace c) ∧ ∀ c ∈ after, Unicode.isWhiteSpace c

/-- White space is dropped up to the first character that is none. -/
theorem dropWhile_before {before rest : List Char}
    (white : ∀ c ∈ before, Unicode.isWhiteSpace c)
    (visible : ∀ c ∈ rest.head?, Unicode.isWhiteSpace c = false) :
    (before ++ rest).dropWhile Unicode.isWhiteSpace = rest := by
  rw [List.dropWhile_append_of_pos white]
  cases rest with
  | nil => rfl
  | cons c rest => exact List.dropWhile_cons_of_neg (by simp [visible c rfl])

/-- What follows the white space in front begins with another character. -/
theorem visible_dropWhile (text : List Char) :
    ∀ c ∈ (text.dropWhile Unicode.isWhiteSpace).head?, Unicode.isWhiteSpace c = false := by
  intro c first
  have visible := List.head?_dropWhile_not Unicode.isWhiteSpace text
  rw [first] at visible
  simpa using visible

/-- Trimming a text leaves it with white space around it. -/
theorem trims_trim (text : List Char) : Trims text (trim text) := by
  let middle := text.dropWhile Unicode.isWhiteSpace
  have shape : trim text ++ middle.rtakeWhile Unicode.isWhiteSpace = middle :=
    List.rdropWhile_append_rtakeWhile
  refine ⟨⟨fun c first => visible_dropWhile text c ?_, fun c last => ?_⟩,
    text.takeWhile Unicode.isWhiteSpace, middle.rtakeWhile Unicode.isWhiteSpace, ?_,
    fun c => List.mem_takeWhile_imp, fun c => List.mem_rtakeWhile_imp⟩
  · have kept : middle.head? = some c := by
      rw [← shape, List.head?_append, first, Option.some_or]
    exact kept
  · rw [trim, List.getLast?_reverse] at last
    exact visible_dropWhile _ c last
  · rw [List.append_assoc, shape, List.takeWhile_append_dropWhile]

/-- White space can be removed from a text in one way only. -/
theorem trim_eq_iff {text core : List Char} : trim text = core ↔ Trims text core := by
  refine ⟨fun same => same ▸ trims_trim text, ?_⟩
  rintro ⟨⟨first, last⟩, before, after, rfl, whiteBefore, whiteAfter⟩
  cases core with
  | nil =>
      have white : ∀ c ∈ before ++ [] ++ after, Unicode.isWhiteSpace c := by
        rw [List.append_nil]
        exact List.forall_mem_append.mpr ⟨whiteBefore, whiteAfter⟩
      rw [trim, List.dropWhile_eq_nil_iff.mpr white]
      rfl
  | cons c core =>
      have front : (before ++ (c :: core ++ after)).dropWhile Unicode.isWhiteSpace =
          c :: core ++ after := dropWhile_before whiteBefore first
      rw [trim, List.append_assoc, front, List.reverse_append,
        dropWhile_before (by simpa using whiteAfter) (by rwa [List.head?_reverse]),
        List.reverse_reverse]

/-! ### The two forms -/

/-- A text writes a color: a number sign, and then the digits of the three components. The short
form has one digit for each component, which stands for two. -/
inductive Writes : List Char → Color → Prop where
  | long {digits : List Char} {color : Color} {r₁ r₀ g₁ g₀ b₁ b₀ : Nat}
      (written : List.Forall₂ Hex.Digit digits [r₁, r₀, g₁, g₀, b₁, b₀])
      (red : color.red.toNat = 16 * r₁ + r₀) (green : color.green.toNat = 16 * g₁ + g₀)
      (blue : color.blue.toNat = 16 * b₁ + b₀) : Writes ('#' :: digits) color
  | short {digits : List Char} {color : Color} {r g b : Nat}
      (written : List.Forall₂ Hex.Digit digits [r, g, b])
      (red : color.red.toNat = 16 * r + r) (green : color.green.toNat = 16 * g + g)
      (blue : color.blue.toNat = 16 * b + b) : Writes ('#' :: digits) color

/-- Two digits write the component that has their value. -/
theorem component_eq_iff {high low : Nat} {byte : UInt8} (left : high < 16) (right : low < 16) :
    component high low = byte ↔ byte.toNat = 16 * high + low := by
  have fits : 16 * high + low < 256 := by omega
  rw [component, ← UInt8.toNat_inj, UInt8.toNat_ofNat_of_lt' fits, eq_comm]

/-- Six digits write the color of the three components that pairs of them write. -/
theorem writes_long {digits : List Char} {r₁ r₀ g₁ g₀ b₁ b₀ : Nat}
    (written : List.Forall₂ Hex.Digit digits [r₁, r₀, g₁, g₀, b₁, b₀]) :
    Writes ('#' :: digits) ⟨component r₁ r₀, component g₁ g₀, component b₁ b₀⟩ := by
  obtain ⟨r₁, r₀, g₁, g₀, b₁, b₀⟩ := Hex.forall_lt_of_digits written
  exact .long written ((component_eq_iff r₁ r₀).mp rfl) ((component_eq_iff g₁ g₀).mp rfl)
    ((component_eq_iff b₁ b₀).mp rfl)

/-- Three digits write the color of the three components that each of them writes twice. -/
theorem writes_short {digits : List Char} {r g b : Nat}
    (written : List.Forall₂ Hex.Digit digits [r, g, b]) :
    Writes ('#' :: digits) ⟨component r r, component g g, component b b⟩ := by
  obtain ⟨r, g, b⟩ := Hex.forall_lt_of_digits written
  exact .short written ((component_eq_iff r r).mp rfl) ((component_eq_iff g g).mp rfl)
    ((component_eq_iff b b).mp rfl)

/-- The texts that write a color are a number sign with three or six digits. -/
theorem exists_writes_iff {core : List Char} :
    (∃ color, Writes core color) ↔ ∃ digits, core = '#' :: digits ∧
      (digits.length = 3 ∨ digits.length = 6) ∧ ∀ c ∈ digits, ∃ value, Hex.Digit c value := by
  constructor
  · rintro ⟨color, writes⟩
    cases writes with
    | long written => exact ⟨_, rfl, .inr written.length_eq, Hex.exists_values_iff.mp ⟨_, written⟩⟩
    | short written => exact ⟨_, rfl, .inl written.length_eq, Hex.exists_values_iff.mp ⟨_, written⟩⟩
  · rintro ⟨digits, rfl, three | six, all⟩
    all_goals obtain ⟨values, written⟩ := Hex.exists_values_iff.mpr all
    · rw [written.length_eq] at three
      match values, three with
      | [r, g, b], _ => exact ⟨_, writes_short written⟩
    · rw [written.length_eq] at six
      match values, six with
      | [r₁, r₀, g₁, g₀, b₁, b₀], _ => exact ⟨_, writes_long written⟩

/-! ### Reading -/

/-- The color that a text writes is read from it. -/
theorem ofHex?_of_writes {text : String} {core : List Char} {color : Color}
    (trims : Trims text.toList core) (writes : Writes core color) : ofHex? text = some color := by
  obtain ⟨red, green, blue⟩ := color
  rw [ofHex?, trim_eq_iff.mpr trims]
  cases writes with
  | long written redValue greenValue blueValue =>
      obtain ⟨r₁, r₀, g₁, g₀, b₁, b₀⟩ := Hex.forall_lt_of_digits written
      simp only [Hex.mapM_digitValue?_eq_some_iff.mpr written,
        (component_eq_iff r₁ r₀).mpr redValue, (component_eq_iff g₁ g₀).mpr greenValue,
        (component_eq_iff b₁ b₀).mpr blueValue]
  | short written redValue greenValue blueValue =>
      obtain ⟨r, g, b⟩ := Hex.forall_lt_of_digits written
      simp only [Hex.mapM_digitValue?_eq_some_iff.mpr written,
        (component_eq_iff r r).mpr redValue, (component_eq_iff g g).mpr greenValue,
        (component_eq_iff b b).mpr blueValue]

/-- What is read is the color that the text writes. -/
theorem writes_of_ofHex? {text : String} {color : Color} (read : ofHex? text = some color) :
    Writes (trim text.toList) color := by
  rw [ofHex?] at read
  split at read
  next digits trimmed =>
    rw [trimmed]
    split at read
    next values =>
      rw [← Option.some_inj.mp read]
      exact writes_short (Hex.mapM_digitValue?_eq_some_iff.mp values)
    next values =>
      rw [← Option.some_inj.mp read]
      exact writes_long (Hex.mapM_digitValue?_eq_some_iff.mp values)
    next => cases read
  next => cases read

/-- A color is read from a text exactly if the text writes it, white space aside. -/
theorem ofHex?_eq_some_iff {text : String} {color : Color} :
    ofHex? text = some color ↔ ∃ core, Trims text.toList core ∧ Writes core color := by
  constructor
  · exact fun read => ⟨trim text.toList, trims_trim _, writes_of_ofHex? read⟩
  · rintro ⟨core, trims, writes⟩
    exact ofHex?_of_writes trims writes

/-! ### The long form -/

/-- No digit is white space. -/
theorem isWhiteSpace_digit : ∀ value < 16, Unicode.isWhiteSpace (Hex.digit value) = false := by
  decide

/-- The two digits of a component are read as the component. -/
theorem component_digits (byte : UInt8) :
    component (byte.toNat / 16 % 16) (byte.toNat % 16) = byte := by
  have bounded := byte.toNat_lt
  rw [component, show 16 * (byte.toNat / 16 % 16) + byte.toNat % 16 = byte.toNat by omega,
    UInt8.ofNat_toNat]

/-- A color is read back from its long form. -/
@[simp] theorem ofHex?_toHex (color : Color) : ofHex? color.toHex = some color := by
  obtain ⟨red, green, blue⟩ := color
  have digit : ∀ value, Hex.digitValue? (Hex.digit (value % 16)) = some (value % 16) := fun value =>
    Hex.digitValue?_digit _ (Nat.mod_lt _ (by decide))
  have noSpace : Unicode.isWhiteSpace (Hex.digit (blue.toNat % 16)) = false :=
    isWhiteSpace_digit _ (Nat.mod_lt _ (by decide))
  have hash : Unicode.isWhiteSpace '#' = false := by decide
  rw [ofHex?, toHex, String.toList_ofList]
  simp [trim, Hex.digits, hash, noSpace, digit, component_digits]

/-! ### Texts that are no colors -/

/-- In a text that writes a color, a number sign is the first character that is not white space. -/
theorem exists_sign_of_ofHex? {text : String} {color : Color} (written : ofHex? text = some color) :
    ∃ white digits, text.toList = white ++ '#' :: digits ∧
      ∀ c ∈ white, Unicode.isWhiteSpace c = true := by
  obtain ⟨core, ⟨-, before, after, shape, white, -⟩, writes⟩ := ofHex?_eq_some_iff.mp written
  obtain ⟨digits, rfl, -⟩ := exists_writes_iff.mp ⟨color, writes⟩
  refine ⟨before, digits ++ after, ?_, white⟩
  rw [shape, List.append_assoc, List.cons_append]

/-- A text without a number sign is no color. -/
theorem ofHex?_eq_none_of_not_mem {text : List Char} (absent : '#' ∉ text) :
    ofHex? (String.ofList text) = none := by
  refine Option.eq_none_iff_forall_ne_some.mpr fun color written => absent ?_
  obtain ⟨white, digits, shape, -⟩ := exists_sign_of_ofHex? written
  rw [String.toList_ofList] at shape
  rw [shape]
  exact List.mem_append_right _ List.mem_cons_self

/-- A text that begins with another visible character is no color. -/
theorem ofHex?_eq_none_of_head {c : Char} (visible : Unicode.isWhiteSpace c = false)
    (other : c ≠ '#') (rest : List Char) : ofHex? (String.ofList (c :: rest)) = none := by
  refine Option.eq_none_iff_forall_ne_some.mpr fun color written => ?_
  obtain ⟨white, digits, shape, spaces⟩ := exists_sign_of_ofHex? written
  rw [String.toList_ofList] at shape
  cases white with
  | nil => exact other (List.cons.inj shape).1
  | cons space white =>
      have hidden := spaces space List.mem_cons_self
      rw [← (List.cons.inj shape).1, visible] at hidden
      cases hidden

/-! ### The grammar of colors -/

/-- A color is read from a text exactly if the text, without the white space around it, is a number
sign with three or six digits. It is the color that the digits write: each component is the value of
a pair of digits, and a single digit stands for two equal ones. Every color is read back from the
form in which it is printed, and so printed in that form again. -/
theorem ofHex?_reads_exactly (text : String) :
    ((ofHex? text).isSome ↔ ∃ digits, Trims text.toList ('#' :: digits) ∧
        (digits.length = 3 ∨ digits.length = 6) ∧ ∀ c ∈ digits, ∃ value, Hex.Digit c value) ∧
      (∀ color, ofHex? text = some color ↔
        ∃ core, Trims text.toList core ∧ Writes core color) ∧
      ∀ color, ofHex? color.toHex = some color ∧
        (ofHex? color.toHex).map toHex = some color.toHex := by
  refine ⟨?accepted, fun color => ofHex?_eq_some_iff, fun color => ⟨ofHex?_toHex color, ?again⟩⟩
  case accepted =>
    rw [Option.isSome_iff_exists]
    simp only [ofHex?_eq_some_iff]
    constructor
    · rintro ⟨color, core, trims, writes⟩
      obtain ⟨digits, rfl, shape⟩ := exists_writes_iff.mp ⟨color, writes⟩
      exact ⟨digits, trims, shape⟩
    · rintro ⟨digits, trims, shape⟩
      obtain ⟨color, writes⟩ := exists_writes_iff.mpr ⟨digits, rfl, shape⟩
      exact ⟨color, _, trims, writes⟩
  case again => rw [ofHex?_toHex, Option.map_some]

/-- White space of any script may stand around a color, and nothing else may. -/
example : ofHex? "\u3000#1a2B3c\n" = some ⟨0x1a, 0x2b, 0x3c⟩ ∧ ofHex? "##abc" = none ∧
    ofHex? "#+1a2b3" = none ∧ ofHex? "#é1" = none := by
  decide +kernel

end Highlighter.Color
