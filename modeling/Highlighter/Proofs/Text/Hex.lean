import Highlighter.Text.Hex
import Mathlib.Data.List.Forall2
import Mathlib.Tactic.Ring

/-!
# Hexadecimal digits

Digits that are written are read as the number that they were written for (`Hex.value?_digits`).
There are no other digits than the sixteen of each case (`Hex.digitValue?_eq_some_iff`).
-/

namespace Highlighter.Hex

/-! ### The digits -/

/-- The digits by their values, once for each of the two cases. -/
def rows : List (List Char) :=
  ["0123456789abcdef".toList, "0123456789ABCDEF".toList]

/-- A character is the digit of a value, in either case. -/
def Digit (c : Char) (value : Nat) : Prop :=
  ∃ digits ∈ rows, digits[value]? = some c

instance (c : Char) (value : Nat) : Decidable (Digit c value) :=
  inferInstanceAs (Decidable (∃ digits ∈ rows, digits[value]? = some c))

/-- The value of a digit is below sixteen. -/
theorem Digit.lt {c : Char} {value : Nat} (digit : Digit c value) : value < 16 := by
  have sixteen : ∀ digits ∈ rows, digits.length = 16 := by decide
  obtain ⟨digits, member, written⟩ := digit
  rw [← sixteen digits member]
  exact (List.getElem?_eq_some_iff.mp written).1

/-- A digit has its value. -/
theorem Digit.digitValue? {c : Char} {value : Nat} (digit : Digit c value) :
    digitValue? c = some value := by
  have read : ∀ digits ∈ rows, ∀ value < 16,
      digits[value]?.bind Hex.digitValue? = some value := by decide
  have bounded := digit.lt
  obtain ⟨digits, member, written⟩ := digit
  have same := read digits member value bounded
  rwa [written, Option.bind_some] at same

/-- The characters from one on are numbered. -/
theorem ofNat_toNat_add_sub {first c : Char} (notBelow : first ≤ c) :
    Char.ofNat (first.toNat + (c.toNat - first.toNat)) = c := by
  have ordered : first.toNat ≤ c.toNat := notBelow
  rw [Nat.add_sub_cancel' ordered, Char.ofNat_toNat]

/-- A character of a range is the digit of a value if the range holds digits in their order, and the
first of them has the value `start`. -/
theorem digit_of_range {first last c : Char} (start : Nat) (notBelow : first ≤ c)
    (notAbove : c ≤ last)
    (digits : ∀ offset < last.toNat - first.toNat + 1,
      Digit (Char.ofNat (first.toNat + offset)) (offset + start)) :
    Digit c (c.toNat - first.toNat + start) := by
  have ordered : c.toNat ≤ last.toNat := notAbove
  have within := digits (c.toNat - first.toNat) (by omega)
  rwa [ofNat_toNat_add_sub notBelow] at within

/-- What has a value is a digit of it: each of the three ranges of characters holds digits. -/
theorem digit_of_digitValue? {c : Char} {value : Nat} (read : digitValue? c = some value) :
    Digit c value := by
  rw [digitValue?] at read
  split at read
  next decimal =>
    have range : '0' ≤ c ∧ c ≤ '9' := by
      simpa [Char.isDigit, Char.le_def] using decimal
    rw [← Option.some_inj.mp read]
    exact digit_of_range 0 range.1 range.2 (by decide)
  next =>
    split at read
    next lower =>
      rw [← Option.some_inj.mp read]
      exact digit_of_range 10 lower.1 lower.2 (by decide)
    next =>
      split at read
      next upper =>
        rw [← Option.some_inj.mp read]
        exact digit_of_range 10 upper.1 upper.2 (by decide)
      next => cases read

/-- The characters that have a value are the digits, and it is theirs. -/
theorem digitValue?_eq_some_iff {c : Char} {value : Nat} :
    digitValue? c = some value ↔ Digit c value :=
  ⟨digit_of_digitValue?, Digit.digitValue?⟩

/-- A row of characters has values if each of them is the digit of its own. -/
theorem mapM_digitValue?_eq_some_iff {digits : List Char} {values : List Nat} :
    digits.mapM digitValue? = some values ↔ List.Forall₂ Digit digits values := by
  induction digits generalizing values with
  | nil => simp [eq_comm]
  | cons c digits inductionHypothesis =>
      rw [List.mapM_cons, List.forall₂_cons_left_iff]
      simp only [Option.bind_eq_bind, Option.bind_eq_some_iff, Option.pure_def, Option.some_inj,
        digitValue?_eq_some_iff, inductionHypothesis, @eq_comm _ values, exists_and_left]

/-- A row of digits has values. -/
theorem exists_values_iff {digits : List Char} :
    (∃ values, List.Forall₂ Digit digits values) ↔ ∀ c ∈ digits, ∃ value, Digit c value := by
  induction digits with
  | nil => simp
  | cons c digits inductionHypothesis =>
      rw [List.forall_mem_cons, ← inductionHypothesis]
      constructor
      · rintro ⟨_, here | ⟨here, later⟩⟩
        exact ⟨⟨_, here⟩, _, later⟩
      · rintro ⟨⟨value, here⟩, values, later⟩
        exact ⟨value :: values, .cons here later⟩

/-- The values of a row of digits are below sixteen. -/
theorem forall_lt_of_digits {digits : List Char} {values : List Nat}
    (written : List.Forall₂ Digit digits values) : values.Forall (· < 16) := by
  induction written with
  | nil => trivial
  | cons digit _ inductionHypothesis =>
      exact (List.forall_cons ..).mpr ⟨digit.lt, inductionHypothesis⟩

/-! ### Numbers -/

/-- Every digit is read as its value. -/
theorem digitValue?_digit : ∀ value < 16, digitValue? (digit value) = some value := by
  decide

/-- Digits behind a number that is read already shift it by their width. -/
theorem foldlM_digits (width value start : Nat) :
    (digits width value).foldlM (fun value c => (digitValue? c).map (value * 16 + ·)) start =
      some (start * 16 ^ width + value % 16 ^ width) := by
  induction width generalizing value with
  | zero => simp [digits, Nat.mod_one]
  | succ width inductionHypothesis =>
      have last := digitValue?_digit (value % 16) (Nat.mod_lt _ (by decide))
      have split : value % 16 ^ (width + 1) = value / 16 % 16 ^ width * 16 + value % 16 := by
        rw [pow_succ', Nat.mod_mul]
        ring
      rw [digits, List.foldlM_append, inductionHypothesis, split]
      simp only [List.foldlM_cons, List.foldlM_nil, Option.bind_eq_bind, Option.bind_some, last,
        Option.map_some, Option.pure_def, Option.some_inj]
      ring

/-- Digits are read as the number that they write, if they are enough for it. -/
theorem value?_digits {width value : Nat} (fits : value < 16 ^ width) :
    value? (digits width value) = some value := by
  rw [value?, foldlM_digits, Nat.zero_mul, Nat.zero_add, Nat.mod_eq_of_lt fits]

end Highlighter.Hex
