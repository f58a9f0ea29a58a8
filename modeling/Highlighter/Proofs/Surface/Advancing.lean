import Highlighter.Proofs.Surface.Validity

/-!
# Arithmetic of places

Positions are brought into the text by way of their offsets, and offsets by way of their positions:
either way comes to the nearest place (`Surface.positionOf_offsetOf_eq_clamp`,
`Surface.offsetOf_positionOf_eq_min`). So going forward over the text is an action of counts
(`Surface.advance_advance`). It stays one where counts end at a greatest one and sums stop there, as
long as the text is no longer than that (`Surface.addresses_cohere`).
-/

namespace Highlighter.Surface

variable {surface : Surface} {most : Nat}

/-- The sum of two counts where `most` is the greatest count there is. -/
def saturatingSum (most left right : Nat) : Nat :=
  min (left + right) most

/-- The offset of the place of an offset is the nearest one in the text. -/
theorem offsetOf_positionOf_eq_min (nonempty : surface.lines ≠ []) (offset : Nat) :
    surface.offsetOf (surface.positionOf offset) = min offset surface.content.length := by
  rcases Nat.le_total offset surface.content.length with bounded | behind
  · rw [offsetOf_positionOf nonempty bounded, Nat.min_eq_left bounded]
  · rw [positionOf_of_length_le nonempty behind, offsetOf_finish nonempty, Nat.min_eq_right behind]

/-- What lies behind the text makes no difference to a place. -/
theorem positionOf_min_length (nonempty : surface.lines ≠ []) (offset : Nat) :
    surface.positionOf (min offset surface.content.length) = surface.positionOf offset := by
  rw [← offsetOf_positionOf_eq_min nonempty,
    positionOf_offsetOf (inside_positionOf nonempty offset)]

/-- Two offsets that are equal up to the end of the text lead to one place. -/
theorem positionOf_eq_of_min_eq (nonempty : surface.lines ≠ []) {left right : Nat}
    (same : min left surface.content.length = min right surface.content.length) :
    surface.positionOf left = surface.positionOf right := by
  rw [← positionOf_min_length nonempty left, same, positionOf_min_length nonempty]

/-- Going forward twice is going forward once, over both distances. -/
theorem advance_advance (nonempty : surface.lines ≠ []) (position : Position)
    (first second : Nat) :
    surface.advance (surface.advance position first) second =
      surface.advance position (first + second) := by
  refine positionOf_eq_of_min_eq nonempty ?_
  rw [advance, offsetOf_positionOf_eq_min nonempty]
  omega

/-- A sum that stops at the greatest count leads to the same place, if the text is not longer. -/
theorem positionOf_saturatingSum (nonempty : surface.lines ≠ [])
    (fits : surface.content.length ≤ most) (left right : Nat) :
    surface.positionOf (saturatingSum most left right) = surface.positionOf (left + right) := by
  refine positionOf_eq_of_min_eq nonempty ?_
  rw [saturatingSum]
  omega

/-- Positions and offsets cohere on every surface whose lines are lines. Clamping a position is
going to its offset and back; going from an offset to its place and back leads to the offset, or to
the end of the text; and the offsets of places in the text ascend as the places do. Going forward is
additive, and all of this holds as well where sums stop at a greatest count that the length of the
text does not exceed: the place that is reached is the same, and so is the one that is reached in
two steps and in one. -/
theorem addresses_cohere (lined : surface.Lined) (fits : surface.content.length ≤ most) :
    (∀ position, surface.clamp position = surface.positionOf (surface.offsetOf position)) ∧
      (∀ offset,
        surface.offsetOf (surface.positionOf offset) = min offset surface.content.length) ∧
      (∀ left right, surface.Inside left → surface.Inside right →
        (surface.offsetOf left < surface.offsetOf right ↔ left < right)) ∧
      (∀ position count, surface.advance position count =
        surface.positionOf (saturatingSum most (surface.offsetOf position) count)) ∧
      ∀ position first second,
        surface.advance (surface.advance position first) second =
          surface.advance position (saturatingSum most first second) := by
  have nonempty := lined.nonempty
  refine ⟨fun position => (positionOf_offsetOf_eq_clamp nonempty position).symm,
    offsetOf_positionOf_eq_min nonempty, fun left right => offsetOf_lt_iff lined,
    fun position count => (positionOf_saturatingSum nonempty fits _ _).symm,
    fun position first second => ?additive⟩
  case additive =>
    rw [advance_advance nonempty]
    refine positionOf_eq_of_min_eq nonempty ?_
    rw [saturatingSum]
    omega

/-- Words of 64 bits over a text with an empty line: a position far behind the text, and two
distances whose sum is no word. -/
theorem addresses_cohere_of_far :
    let surface := ofText ['a', 'b', '\n', '\n', 'c']
    let far : Position := ⟨UInt64.size - 1, UInt64.size - 1⟩
    surface.Lined ∧ surface.content.length ≤ UInt64.size - 1 ∧ surface.Inside ⟨1, 2⟩ ∧
      surface.Inside ⟨2, 0⟩ ∧ surface.clamp far = surface.positionOf (surface.offsetOf far) ∧
      surface.offsetOf (surface.positionOf (UInt64.size - 1)) = 5 ∧
      surface.offsetOf ⟨1, 2⟩ < surface.offsetOf ⟨2, 0⟩ ∧
      surface.advance (surface.advance ⟨1, 1⟩ 2) (UInt64.size - 1) =
        surface.advance ⟨1, 1⟩ (saturatingSum (UInt64.size - 1) 2 (UInt64.size - 1)) := by
  intro surface far
  have lined : surface.Lined := (Valid.ofText _).toLined
  have fits : surface.content.length ≤ UInt64.size - 1 := by decide
  have first : surface.Inside ⟨1, 2⟩ := ⟨['a', 'b'], by decide, by decide⟩
  have second : surface.Inside ⟨2, 0⟩ := ⟨[], by decide, by decide⟩
  obtain ⟨clamped, back, ordered, -, additive⟩ := addresses_cohere lined fits
  exact ⟨lined, fits, first, second, clamped far, back _,
    (ordered ⟨1, 2⟩ ⟨2, 0⟩ first second).mpr (by decide), additive _ _ _⟩

end Highlighter.Surface
