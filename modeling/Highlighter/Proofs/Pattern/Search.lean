import Highlighter.Pattern.Search
import Highlighter.Proofs.Text.Cursor

/-!
# What a search finds

A pattern has at most one preferred match at each place, which depends on the text and the place
alone (`Pattern.nonemptyMatch?`). A search finds the match at the first place that has one
(`Pattern.findNonempty?_eq_some_iff`). So a search that starts later, but not behind that place,
finds the same match, and a search behind one that found nothing finds nothing.
-/

namespace Highlighter.Pattern

variable {pattern : Pattern} {cursor : Cursor} {extent : Extent}

/-! ### Bounds -/

/-- A run ends inside of the text that it reads. -/
theorem le_of_run_eq_some {pending : List Nat} {length : Nat} {best : Option Nat}
    {before : Option Char} {rest : Text} {found : Nat}
    (bounded : ∀ earlier, best = some earlier → earlier ≤ length)
    (ends : pattern.run pending length best before rest = some found) :
    found ≤ length + rest.length := by
  induction rest generalizing pending length best before with
  | nil =>
      rw [run] at ends
      split at ends
      next => exact Nat.le_of_eq (Option.some.inj ends).symm
      next => exact bounded found ends
  | cons c rest inductionHypothesis =>
      have updated : ∀ (accepted : Bool) (earlier : Nat),
          (if accepted then some length else best) = some earlier → earlier ≤ length := by
        intro accepted earlier same
        split at same
        next => exact Nat.le_of_eq (Option.some.inj same).symm
        next => exact bounded earlier same
      rw [run] at ends
      rw [List.length_cons]
      split at ends
      next =>
        have atOnce := updated _ found ends
        omega
      next =>
        have later := inductionHypothesis
          (fun earlier same => Nat.le_succ_of_le (updated _ earlier same)) ends
        omega

/-- A match is a part of the text. -/
theorem matchLength?_le {before : Option Char} {rest : Text} {length : Nat}
    (found : pattern.matchLength? before rest = some length) : length ≤ rest.length := by
  have bounded := le_of_run_eq_some (by simp) found
  omega

/-- Any match that a search finds lies between the cursor and the end of the text. -/
theorem bounds_of_find? (found : pattern.find? cursor = some extent) :
    cursor.offset ≤ extent.start ∧ extent.start ≤ extent.stop ∧ extent.stop ≤ cursor.limit := by
  obtain ⟨offset, before, rest⟩ := cursor
  rw [find?] at found
  rw [Cursor.limit]
  induction rest generalizing offset before with
  | nil =>
      obtain ⟨length, here, rfl⟩ := Option.map_eq_some_iff.mp found
      have bounded := matchLength?_le here
      dsimp only
      omega
  | cons c rest inductionHypothesis =>
      dsimp only at found inductionHypothesis ⊢
      rw [findFrom] at found
      split at found
      next length here =>
        obtain rfl := Option.some.inj found
        have bounded := matchLength?_le here
        dsimp only
        omega
      next =>
        have later := inductionHypothesis (offset + 1) (some c) found
        rw [List.length_cons]
        omega

/-! ### Nonempty matches -/

/-- The preferred match right at the cursor, if it is not empty. -/
def nonemptyMatch? (pattern : Pattern) (cursor : Cursor) : Option Extent :=
  match pattern.matchLength? cursor.before cursor.rest with
  | some (length + 1) => some ⟨cursor.offset, cursor.offset + (length + 1)⟩
  | _ => none

/-- A nonempty match starts at the cursor and ends inside of the text. -/
theorem bounds_of_nonemptyMatch? (here : pattern.nonemptyMatch? cursor = some extent) :
    extent.start = cursor.offset ∧ cursor.offset < extent.stop ∧ extent.stop ≤ cursor.limit := by
  rw [nonemptyMatch?] at here
  split at here
  next length matched =>
    obtain rfl := Option.some.inj here
    have bounded := matchLength?_le matched
    rw [Cursor.limit]
    dsimp only
    omega
  next => cases here

/-- There is no nonempty match at the end of the text. -/
theorem nonemptyMatch?_of_rest_eq_nil (ended : cursor.rest = []) :
    pattern.nonemptyMatch? cursor = none := by
  cases here : pattern.nonemptyMatch? cursor with
  | none => rfl
  | some extent =>
      have bounds := bounds_of_nonemptyMatch? here
      rw [Cursor.limit, ended, List.length_nil] at bounds
      omega

/-- A search looks right at the cursor first and then behind the next character. -/
theorem findNonempty?_eq_or (more : cursor.rest ≠ []) :
    pattern.findNonempty? cursor =
      (pattern.nonemptyMatch? cursor).or (pattern.findNonempty? (cursor.advance 1)) := by
  obtain ⟨c, rest, shape⟩ := List.exists_cons_of_ne_nil more
  rw [Cursor.advance_succ_of_rest_eq_cons shape, Cursor.advance_zero, findNonempty?,
    nonemptyMatch?, shape, findNonemptyFrom]
  rcases pattern.matchLength? cursor.before (c :: rest) with _ | _ | length <;> rfl

/-- A search finds the match at the first place at or after the cursor that has one. -/
theorem findNonempty?_eq_some_iff :
    pattern.findNonempty? cursor = some extent ↔
      ∃ skipped, pattern.nonemptyMatch? (cursor.advance skipped) = some extent ∧
        ∀ earlier < skipped, pattern.nonemptyMatch? (cursor.advance earlier) = none := by
  induction size : cursor.rest.length generalizing cursor with
  | zero =>
      have ended := List.eq_nil_of_length_eq_zero size
      simp only [findNonempty?, ended, findNonemptyFrom, Cursor.advance_of_rest_eq_nil ended,
        nonemptyMatch?_of_rest_eq_nil ended]
      simp
  | succ length inductionHypothesis =>
      have more : cursor.rest ≠ [] := List.ne_nil_of_length_eq_add_one size
      have later := @inductionHypothesis (cursor.advance 1)
        (by rw [Cursor.rest_advance, List.length_drop, size, Nat.add_sub_cancel])
      rw [findNonempty?_eq_or more, Option.or_eq_some_iff, later]
      simp only [Cursor.advance_add]
      constructor
      · rintro (here | ⟨nothing, skipped, there, before⟩)
        · exact ⟨0, by rwa [Cursor.advance_zero], nofun⟩
        · refine ⟨1 + skipped, there, ?_⟩
          intro earlier below
          cases earlier with
          | zero => rwa [Cursor.advance_zero]
          | succ earlier =>
              rw [Nat.add_comm]
              exact before earlier (by omega)
      · rintro ⟨skipped, there, before⟩
        cases skipped with
        | zero => exact .inl (by rwa [Cursor.advance_zero] at there)
        | succ skipped =>
            have nothing := before 0 (Nat.succ_pos _)
            rw [Cursor.advance_zero] at nothing
            rw [Nat.add_comm] at there
            refine .inr ⟨nothing, skipped, there, fun earlier below => ?_⟩
            have same := before (earlier + 1) (by omega)
            rwa [Nat.add_comm] at same

/-- A search finds nothing when no place at or after the cursor has a match. -/
theorem findNonempty?_eq_none_iff :
    pattern.findNonempty? cursor = none ↔
      ∀ skipped, pattern.nonemptyMatch? (cursor.advance skipped) = none := by
  constructor
  · intro nothing skipped
    induction skipped using Nat.strongRecOn with
    | _ skipped inductionHypothesis =>
        cases there : pattern.nonemptyMatch? (cursor.advance skipped) with
        | none => rfl
        | some extent =>
            have found := findNonempty?_eq_some_iff.mpr ⟨skipped, there, inductionHypothesis⟩
            rw [nothing] at found
            cases found
  · intro nowhere
    cases found : pattern.findNonempty? cursor with
    | none => rfl
    | some extent =>
        obtain ⟨skipped, there, -⟩ := findNonempty?_eq_some_iff.mp found
        rw [nowhere skipped] at there
        cases there

/-- A nonempty match that a search finds lies between the cursor and the end of the text. -/
theorem bounds_of_findNonempty? (found : pattern.findNonempty? cursor = some extent) :
    cursor.offset ≤ extent.start ∧ extent.start < extent.stop ∧ extent.stop ≤ cursor.limit := by
  obtain ⟨skipped, there, -⟩ := findNonempty?_eq_some_iff.mp found
  obtain ⟨start, progress, bounded⟩ := bounds_of_nonemptyMatch? there
  have behind := Cursor.offset_advance cursor skipped
  rw [Cursor.limit_advance] at bounded
  omega

/-! ### Searching again -/

/-- A search that starts later, but not behind the match, finds the same match. -/
theorem findNonempty?_advance_of_le {count : Nat}
    (found : pattern.findNonempty? cursor = some extent)
    (reached : (cursor.advance count).offset ≤ extent.start) :
    pattern.findNonempty? (cursor.advance count) = some extent := by
  obtain ⟨skipped, there, before⟩ := findNonempty?_eq_some_iff.mp found
  obtain ⟨start, progress, bounded⟩ := bounds_of_nonemptyMatch? there
  have place := Cursor.offset_advance cursor count
  have target := Cursor.offset_advance cursor skipped
  rw [Cursor.limit_advance, Cursor.limit] at bounded
  have within : count ≤ skipped := by omega
  refine findNonempty?_eq_some_iff.mpr ⟨skipped - count, ?_, fun earlier below => ?_⟩
  · rwa [Cursor.advance_add, Nat.add_sub_cancel' within]
  · rw [Cursor.advance_add]
    exact before _ (by omega)

/-- Where nothing was found, nothing is found later. -/
theorem findNonempty?_advance_of_eq_none (nothing : pattern.findNonempty? cursor = none)
    (count : Nat) : pattern.findNonempty? (cursor.advance count) = none := by
  rw [findNonempty?_eq_none_iff] at nothing ⊢
  intro skipped
  rw [Cursor.advance_add]
  exact nothing _

/-- A search finds the same match behind further characters, as long as it sees the same character
in front of it. -/
theorem find?_moved (pattern : Pattern) (cursor : Cursor) (distance : Nat) :
    pattern.find? (cursor.moved distance) =
      (pattern.find? cursor).map fun extent =>
        ⟨distance + extent.start, distance + extent.stop⟩ := by
  obtain ⟨offset, before, rest⟩ := cursor
  rw [find?, find?, Cursor.moved]
  dsimp only
  induction rest generalizing offset before with
  | nil =>
      rw [findFrom, findFrom, Option.map_map]
      simp [Function.comp_def, Nat.add_assoc]
  | cons c rest inductionHypothesis =>
      rw [findFrom, findFrom]
      split
      next => simp [Nat.add_assoc]
      next => rw [Nat.add_assoc, inductionHypothesis]

end Highlighter.Pattern
