import Highlighter.Unicode.CaseFolding

/-!
# Characters without case

Case variants of letters, and of what lies behind them, are not below the first letter. So a blank
is a case variant of itself only (`Unicode.mem_caseVariants_iff`).
-/

namespace Highlighter.Unicode

/-- A code point is the one of its character, unless it is the one of no character. -/
theorem toNat_ofNat_or (code : Nat) :
    (Char.ofNat code).toNat = code ∨ (Char.ofNat code).toNat = 0 := by
  by_cases valid : code.isValidChar
  · rw [Char.ofNat, dif_pos valid]
    exact .inl rfl
  · rw [Char.ofNat, dif_neg valid]
    exact .inr rfl

/-- Folding does not lead below the first letter. -/
theorem le_foldCode {code : Nat} (letter : 0x41 ≤ code) : 0x41 ≤ foldCode code := by
  have targets : ∀ shift ∈ foldShifts.toList, 0x41 ≤ shift.2.2 := by decide +kernel
  rw [foldCode]
  split
  next => split <;> omega
  next =>
    split
    next target image =>
      obtain ⟨⟨first, last, target⟩, found, rfl⟩ := Option.map_eq_some_iff.mp image
      have lower : 0x41 ≤ target :=
        targets _ (Array.mem_toList_iff.mpr (Array.mem_of_find?_eq_some found))
      exact Nat.le_add_right_of_le lower
    next => split <;> omega

/-- Nothing below the first letter folds to what is not below it. -/
theorem le_of_mem_unfoldCode {code variant : Nat} (letter : 0x41 ≤ code)
    (member : variant ∈ unfoldCode code) : 0x41 ≤ variant := by
  have firsts : ∀ shift ∈ foldShifts.toList, 0x41 ≤ shift.1 := by decide +kernel
  have notBefore : foldAlternating.containsAlternate 0x40 = false := by decide +kernel
  rw [unfoldCode, List.mem_append, List.mem_append] at member
  rcases member with (ascii | block) | alternating
  · split at ascii
    next range =>
      rw [List.mem_singleton.mp ascii]
      simp at range
      omega
    next => cases ascii
  · obtain ⟨⟨first, last, target⟩, listed, image⟩ := List.mem_filterMap.mp block
    have lower : 0x41 ≤ first := firsts _ listed
    dsimp only at image
    split at image
    next => exact Option.some.inj image ▸ Nat.le_add_right_of_le lower
    next => cases image
  · split at alternating
    next range =>
      rw [List.mem_singleton.mp alternating]
      rcases Nat.eq_or_lt_of_le letter with rfl | above
      · rw [notBefore] at range
        cases range
      · omega
    next => cases alternating

/-- A letter, or what lies behind ASCII, is not below the first letter, and neither is the other
case of a letter. -/
theorem le_of_isAlpha {c : Char} (isLetter : c.toNat < 0x80 → c.isAlpha = true) :
    0x41 ≤ c.toNat ∧ (c.toNat < 0x80 → 0x41 ≤ c.toLower.toNat ∧ 0x41 ≤ c.toUpper.toNat) := by
  have letters : ∀ code < 0x80, (Char.ofNat code).isAlpha = true →
      0x41 ≤ code ∧ 0x41 ≤ (Char.ofNat code).toLower.toNat ∧
        0x41 ≤ (Char.ofNat code).toUpper.toNat := by
    decide +kernel
  by_cases inAscii : c.toNat < 0x80
  · have bounds := letters c.toNat inAscii
    rw [Char.ofNat_toNat] at bounds
    exact ⟨(bounds (isLetter inAscii)).1, fun _ => (bounds (isLetter inAscii)).2⟩
  · exact ⟨by omega, fun inside => absurd inside inAscii⟩

/-- A sign below the first letter is a case variant of itself only. -/
theorem mem_caseVariants_iff {c sign : Char} (below : sign.toNat < 0x41)
    (visible : 0 < sign.toNat) : sign ∈ caseVariants c ↔ c = sign := by
  rw [caseVariants]
  split
  next => rw [List.mem_singleton, eq_comm]
  next cased =>
    -- No case variant of a letter is the sign, and the letter is not either.
    obtain ⟨lower, otherCases⟩ := le_of_isAlpha (c := c) (by simpa using cased)
    refine iff_of_false (fun member => ?_) (by rintro rfl; omega)
    split at member
    next inAscii =>
      rw [Bool.and_eq_true, decide_eq_true_eq] at inAscii
      have bounds := otherCases inAscii.1
      rcases List.mem_cons.mp member with rfl | member
      · omega
      · rw [List.mem_singleton.mp member] at below
        omega
    next =>
      obtain ⟨code, listed, rfl⟩ := List.mem_map.mp member
      have folded := le_foldCode lower
      have variant : 0x41 ≤ code := by
        rcases List.mem_cons.mp listed with rfl | listed
        · exact folded
        · exact le_of_mem_unfoldCode folded listed
      rcases toNat_ofNat_or code with same | invalid <;> omega

end Highlighter.Unicode
