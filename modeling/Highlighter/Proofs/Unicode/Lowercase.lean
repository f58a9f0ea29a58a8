import Highlighter.Unicode.Lowercase
import Mathlib.Data.Char

/-!
# Lower case is settled

Taking the lower case of a text twice is the same as taking it once. No character that the lower
case of a character holds is moved by it again: this is a fact about the tables, which are compared
block by block, so that no character has to be looked at.
-/

namespace Highlighter.Unicode

/-! ### What the tables give -/

/-- A range that is found is one of the ranges, and it holds the code. -/
theorem Ranges.mem_of_search {ranges : Ranges} {code steps low high first last : Nat}
    (found : ranges.search code steps low high = some (first, last)) :
    (first, last) ∈ ranges ∧ first ≤ code ∧ code ≤ last := by
  induction steps generalizing low high with
  | zero => simp [search] at found
  | succ steps inductionHypothesis =>
      rw [search] at found
      split at found
      next =>
        dsimp only at found
        split at found
        next => simp at found
        next lower upper atMiddle =>
          split at found
          next => exact inductionHypothesis found
          next =>
            split at found
            next => exact inductionHypothesis found
            next =>
              obtain ⟨rfl, rfl⟩ : lower = first ∧ upper = last := by simpa using found
              exact ⟨Array.mem_of_getElem? atMiddle, by omega, by omega⟩
      next => simp at found

/-- A code at an even distance from the start of a range lies in one of the ranges. -/
theorem Ranges.exists_of_containsAlternate {ranges : Ranges} {code : Nat}
    (contains : ranges.containsAlternate code = true) :
    ∃ first last, (first, last) ∈ ranges ∧ first ≤ code ∧ code ≤ last ∧
      (code - first) % 2 = 0 := by
  rw [containsAlternate] at contains
  split at contains
  next first last found =>
    obtain ⟨member, lower, upper⟩ := mem_of_search found
    exact ⟨first, last, member, lower, upper, by simpa using contains⟩
  next => simp at contains

/-- A code that is moved lies in one of the blocks, and keeps its distance from the start. -/
theorem Shifts.exists_of_image? {shifts : Shifts} {code target : Nat}
    (moved : shifts.image? code = some target) :
    ∃ first last start, (first, last, start) ∈ shifts ∧ first ≤ code ∧ code ≤ last ∧
      target = start + (code - first) := by
  rw [image?, Option.map_eq_some_iff] at moved
  obtain ⟨⟨first, last, start⟩, found, rfl⟩ := moved
  have holds := Array.find?_some found
  simp only [Bool.and_eq_true, decide_eq_true_eq] at holds
  exact ⟨first, last, start, Array.mem_of_find?_eq_some found, holds.1, holds.2, rfl⟩

/-! ### How the tables lie to each other -/

/-- Two blocks of codes have no code in common. -/
def apart (first last otherFirst otherLast : Nat) : Bool :=
  Nat.blt last otherFirst || Nat.blt otherLast first

-- The inner entry of each comparison is read by its projections: taking it apart by a pattern
-- doubles the time of the check.

/-- Where blocks are moved to, no block is moved away. -/
theorem shifts_apart_from_shifts :
    (lowercaseShifts.toList.all fun (first, last, start) =>
      lowercaseShifts.toList.all fun other =>
        apart start (start + (last - first)) other.1 other.2.1) = true := by
  decide +kernel

/-- Where blocks are moved to, there is no run of alternating case, or a single small letter of
one. -/
theorem shifts_beside_alternating :
    (lowercaseShifts.toList.all fun (first, last, start) =>
      lowercaseAlternating.toList.all fun other =>
        apart start (start + (last - first)) other.1 other.2 ||
          (first.beq last && ((start - other.1) % 2).beq 1)) = true := by
  decide +kernel

/-- The small letters of a run of alternating case lie in no block that is moved. -/
theorem alternating_apart_from_shifts :
    (lowercaseAlternating.toList.all fun (first, last) =>
      lowercaseShifts.toList.all fun other =>
        apart (first + 1) (last + 1) other.1 other.2.1) = true := by
  decide +kernel

/-- The small letters of a run of alternating case lie in no other run. -/
theorem alternating_apart_from_alternating :
    (lowercaseAlternating.toList.all fun (first, last) =>
      lowercaseAlternating.toList.all fun other =>
        apart (first + 1) (last + 1) other.1 other.2 || first.beq other.1) = true := by
  decide +kernel

/-- Blocks are moved to codes outside ASCII, the Kelvin sign apart, and not to `İ`. -/
theorem shifts_to_letters :
    (lowercaseShifts.toList.all fun (first, last, start) =>
      (Nat.ble 0x80 start || (start.beq 0x6B && first.beq last)) &&
        apart start (start + (last - first)) 0x130 0x130) = true := by
  decide +kernel

/-- The small letters of a run of alternating case are outside ASCII, and not `İ`. -/
theorem alternating_letters :
    (lowercaseAlternating.toList.all fun (first, last) =>
      Nat.ble 0x80 first && apart (first + 1) (last + 1) 0x130 0x130) = true := by
  decide +kernel

/-- Out of context, a capital sigma is moved. -/
theorem image?_sigma : lowercaseShifts.image? 0x3A3 ≠ none := by
  decide +kernel

/-! ### Characters that lower case leaves alone -/

/-- No table moves the code. -/
structure Unmoved (code : Nat) : Prop where
  letter : 0x80 ≤ code ∨ code = 0x6B
  notDotted : code ≠ 0x130
  notShifted : lowercaseShifts.image? code = none
  notAlternating : lowercaseAlternating.containsAlternate code = false

/-- A code of a block that is apart from the blocks that are moved is not moved with them. -/
theorem image?_eq_none_of_apart {first last code : Nat} (lower : first ≤ code)
    (upper : code ≤ last)
    (clear : (lowercaseShifts.toList.all fun other =>
      apart first last other.1 other.2.1) = true) :
    lowercaseShifts.image? code = none := by
  cases moved : lowercaseShifts.image? code with
  | none => rfl
  | some target =>
      obtain ⟨otherFirst, otherLast, _, member, otherLower, otherUpper, -⟩ :=
        Shifts.exists_of_image? moved
      have distance := List.all_eq_true.mp clear _ (Array.mem_toList_iff.mpr member)
      simp only [apart, Bool.or_eq_true, Nat.blt_eq] at distance
      omega

/-- A code to which a block is moved is moved by no table. -/
theorem unmoved_of_image? {code target : Nat}
    (moved : lowercaseShifts.image? code = some target) : Unmoved target := by
  obtain ⟨first, last, start, member, lower, upper, rfl⟩ := Shifts.exists_of_image? moved
  rw [← Array.mem_toList_iff] at member
  have letters := List.all_eq_true.mp shifts_to_letters _ member
  simp only [apart, Bool.and_eq_true, Bool.or_eq_true, Nat.ble_eq, Nat.beq_eq, Nat.blt_eq]
    at letters
  refine
    { letter := by omega
      notDotted := by omega
      notShifted := ?notShifted
      notAlternating := ?notAlternating }
  case notShifted =>
    exact image?_eq_none_of_apart (Nat.le_add_right start _) (by omega)
      (List.all_eq_true.mp shifts_apart_from_shifts _ member)
  case notAlternating =>
    rw [Bool.eq_false_iff]
    intro again
    obtain ⟨otherFirst, otherLast, otherMember, otherLower, otherUpper, even⟩ :=
      Ranges.exists_of_containsAlternate again
    rw [← Array.mem_toList_iff] at otherMember
    have distance := List.all_eq_true.mp
      (List.all_eq_true.mp shifts_beside_alternating _ member) _ otherMember
    simp only [apart, Bool.and_eq_true, Bool.or_eq_true, Nat.beq_eq, Nat.blt_eq] at distance
    rcases distance with distance | ⟨single, odd⟩
    · omega
    · rw [show code - first = 0 by omega] at even
      omega

/-- The small letter behind a capital one is moved by no table. -/
theorem unmoved_succ_of_containsAlternate {code : Nat}
    (contains : lowercaseAlternating.containsAlternate code = true) : Unmoved (code + 1) := by
  obtain ⟨first, last, member, lower, upper, even⟩ :=
    Ranges.exists_of_containsAlternate contains
  rw [← Array.mem_toList_iff] at member
  have letters := List.all_eq_true.mp alternating_letters _ member
  simp only [apart, Bool.and_eq_true, Bool.or_eq_true, Nat.ble_eq, Nat.blt_eq] at letters
  refine
    { letter := by omega
      notDotted := by omega
      notShifted := ?notShifted
      notAlternating := ?notAlternating }
  case notShifted =>
    exact image?_eq_none_of_apart (Nat.succ_le_succ lower) (Nat.succ_le_succ upper)
      (List.all_eq_true.mp alternating_apart_from_shifts _ member)
  case notAlternating =>
    rw [Bool.eq_false_iff]
    intro again
    obtain ⟨otherFirst, otherLast, otherMember, otherLower, otherUpper, otherEven⟩ :=
      Ranges.exists_of_containsAlternate again
    rw [← Array.mem_toList_iff] at otherMember
    have distance := List.all_eq_true.mp
      (List.all_eq_true.mp alternating_apart_from_alternating _ member) _ otherMember
    simp only [apart, Bool.or_eq_true, Nat.beq_eq, Nat.blt_eq] at distance
    omega

/-- A character that lower case leaves alone in every context. -/
structure Settled (c : Char) : Prop where
  notSigma : c.toNat ≠ 0x3A3
  fixed : lowercaseChar c = [c]

instance (c : Char) : Decidable (Settled c) :=
  decidable_of_iff (c.toNat ≠ 0x3A3 ∧ lowercaseChar c = [c])
    ⟨fun ⟨notSigma, fixed⟩ => ⟨notSigma, fixed⟩, fun settled => ⟨settled.1, settled.2⟩⟩

/-- The character of a code that no table moves is left alone. -/
theorem Unmoved.settled_ofNat {code : Nat} (unmoved : Unmoved code) :
    Settled (Char.ofNat code) := by
  by_cases valid : code.isValidChar
  · have sameCode : (Char.ofNat code).toNat = code := by
      rw [Char.ofNat, dif_pos valid]
      rfl
    have notSigma : code ≠ 0x3A3 := by
      rintro rfl
      exact image?_sigma unmoved.notShifted
    refine ⟨by rwa [sameCode], ?_⟩
    rcases unmoved.letter with outside | rfl
    · rw [lowercaseChar, sameCode, if_neg (by omega), if_neg unmoved.notDotted,
        unmoved.notShifted]
      simp [unmoved.notAlternating]
    · decide
  · rw [Char.ofNat, dif_neg valid]
    decide

/-- An ASCII character is left alone once it is in lower case. -/
theorem settled_toLower_ofNat : ∀ code < 0x80, Settled (Char.ofNat code).toLower := by
  decide +kernel

/-- What the lower case of a character holds is left alone. -/
theorem settled_of_mem_lowercaseChar {c image : Char} (member : image ∈ lowercaseChar c) :
    Settled image := by
  rw [lowercaseChar] at member
  split at member
  next ascii =>
    obtain rfl := List.mem_singleton.mp member
    have settled := settled_toLower_ofNat c.toNat ascii
    rwa [Char.ofNat_toNat] at settled
  next outside =>
    split at member
    next =>
      simp only [List.mem_cons, List.not_mem_nil, or_false] at member
      rcases member with rfl | rfl <;> decide +kernel
    next notDotted =>
      split at member
      next target moved =>
        obtain rfl := List.mem_singleton.mp member
        exact (unmoved_of_image? moved).settled_ofNat
      next unmoved =>
        split at member
        next contains =>
          obtain rfl := List.mem_singleton.mp member
          exact (unmoved_succ_of_containsAlternate contains).settled_ofNat
        next notAlternating =>
          obtain rfl := List.mem_singleton.mp member
          refine ⟨?_, by simp [lowercaseChar, outside, notDotted, unmoved, notAlternating]⟩
          intro sigma
          rw [sigma] at unmoved
          exact image?_sigma unmoved

/-! ### Texts -/

/-- A text of characters that are left alone is left alone. -/
theorem lowercaseFrom_of_settled {text : List Char} (settled : ∀ c ∈ text, Settled c)
    (before : List Char) : lowercaseFrom before text = text := by
  induction text generalizing before with
  | nil => rfl
  | cons c others inductionHypothesis =>
      have first := settled c List.mem_cons_self
      have later := inductionHypothesis (fun d member => settled d (List.mem_cons_of_mem c member))
      simp [lowercaseFrom, first.notSigma, first.fixed, later]

/-- The lower case of a text holds only characters that are left alone. -/
theorem settled_of_mem_lowercaseFrom {text before : List Char} {image : Char}
    (member : image ∈ lowercaseFrom before text) : Settled image := by
  induction text generalizing before with
  | nil => simp [lowercaseFrom] at member
  | cons c others inductionHypothesis =>
      simp only [lowercaseFrom, List.mem_append] at member
      rcases member with here | later
      · split at here
        next =>
          obtain rfl := List.mem_singleton.mp here
          split <;> decide +kernel
        next => exact settled_of_mem_lowercaseChar here
      · exact inductionHypothesis later

/-- Lower case is settled: a text in lower case is its own lower case. -/
@[simp] theorem lowercase_lowercase (text : String) :
    lowercase (lowercase text) = lowercase text := by
  rw [lowercase, lowercase, String.toList_ofList,
    lowercaseFrom_of_settled fun c member => settled_of_mem_lowercaseFrom member]

end Highlighter.Unicode
