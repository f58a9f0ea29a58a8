import Highlighter.Proofs.Grammar.Boundaries
import Highlighter.Proofs.Text.ByteOffset

/-!
# Stepping over empty matches

The first nonempty match is where the preferred match is not empty for the first time. It can also
be found by searches that do not look for nonempty matches, as long as each one that finds an empty
match is followed by another one from the next character on. `Pattern.searchOver?` does so with
byte offsets, where the next character is looked for byte by byte.

Both find the same match, it is the first one, and no search finds another one before it is passed
(`Pattern.first_nonempty_match_is_stable`).
-/

namespace Highlighter

/-- The same part of a text with both ends counted in bytes. -/
def Extent.toBytes (extent : Extent) (text : Text) : Extent :=
  ⟨text.byteOffset extent.start, text.byteOffset extent.stop⟩

namespace Pattern

variable {pattern : Pattern} {text : Text} {place : Nat} {cursor : Cursor} {extent : Extent}

/-! ### Searching again behind an empty match -/

/-- A search for a nonempty match is a search for any match that goes on behind the next character
where it has found an empty one. -/
theorem findNonempty?_eq_of_find? (pattern : Pattern) (cursor : Cursor) :
    pattern.findNonempty? cursor =
      (pattern.find? cursor).bind fun extent =>
        if extent.start < extent.stop then some extent
        else pattern.findNonempty? (cursor.advance (extent.stop + 1 - cursor.offset)) := by
  obtain ⟨offset, before, rest⟩ := cursor
  induction rest generalizing offset before with
  | nil =>
      rw [find?, findFrom]
      cases found : pattern.matchLength? before [] with
      | none => rfl
      | some length =>
          obtain rfl : length = 0 := Nat.le_zero.mp (matchLength?_le found)
          simp [Cursor.advance_of_rest_eq_nil, findNonempty?, findNonemptyFrom]
  | cons c rest inductionHypothesis =>
      have later := inductionHypothesis (offset + 1) (some c)
      have step (count : Nat) : Cursor.advance ⟨offset, before, c :: rest⟩ (count + 1) =
          Cursor.advance ⟨offset + 1, some c, rest⟩ count :=
        Cursor.advance_succ_of_rest_eq_cons rfl count
      rw [find?, findNonempty?, findFrom, findNonemptyFrom]
      cases found : pattern.matchLength? before (c :: rest) with
      | none =>
          refine later.trans (Option.bind_congr fun extent there => ?_)
          have ahead := (bounds_of_find? there).1
          have bounds := (bounds_of_find? there).2.1
          dsimp only at ahead ⊢
          rw [show extent.stop + 1 - offset = extent.stop + 1 - (offset + 1) + 1 by omega, step]
      | some length =>
          cases length with
          | zero => simp [findNonempty?, step]
          | succ length => simp

/-- The match that a search from a byte offset finds, in bytes. -/
def searchFrom? (pattern : Pattern) (text : Text) (bytes : Nat) : Option Extent :=
  (text.charOffset? bytes).bind fun place =>
    (pattern.find? (.atOffset text place)).map (·.toBytes text)

/-- No search from a byte finds a match before it. -/
theorem le_stop_of_searchFrom? {bytes : Nat}
    (found : pattern.searchFrom? text bytes = some extent) : bytes ≤ extent.stop := by
  obtain ⟨place, same, searched⟩ := Option.bind_eq_some_iff.mp found
  obtain ⟨part, here, rfl⟩ := Option.map_eq_some_iff.mp searched
  obtain ⟨within, reached⟩ := Text.le_byteOffset_of_charOffset? same
  have bounds := bounds_of_find? here
  rw [Cursor.offset_atOffset within, Cursor.limit_atOffset] at bounds
  refine Nat.le_trans reached ?_
  exact (Text.byteOffset_le_byteOffset_iff within bounds.2.2).mpr (Nat.le_trans bounds.1 bounds.2.1)

/-- The first nonempty match at or behind a byte, in bytes. A search that finds an empty match is
followed by one from the next character boundary on. -/
def searchOver? (pattern : Pattern) (text : Text) (bytes : Nat) : Option Extent :=
  if bytes ≤ text.byteLength then
    match found : pattern.searchFrom? text bytes with
    | none => none
    | some extent =>
      if extent.start < extent.stop then some extent
      else searchOver? pattern text (text.boundaryFrom (extent.stop + 1))
  else none
termination_by text.byteLength + 1 - bytes
decreasing_by
  have reached := le_stop_of_searchFrom? found
  have forward := text.le_boundaryFrom (extent.stop + 1)
  omega

theorem searchFrom?_byteOffset (within : place ≤ text.length) :
    pattern.searchFrom? text (text.byteOffset place) =
      (pattern.find? (.atOffset text place)).map (·.toBytes text) := by
  rw [searchFrom?, Text.charOffset?_byteOffset within, Option.bind_some]

/-- Behind the end of the text there is nothing to step over. -/
theorem searchOver?_of_byteLength_lt {bytes : Nat} (behind : text.byteLength < bytes) :
    pattern.searchOver? text bytes = none := by
  rw [searchOver?, if_neg (Nat.not_le.mpr behind)]

/-- Stepping over empty matches finds the first nonempty match. -/
theorem searchOver?_byteOffset (within : place ≤ text.length) :
    pattern.searchOver? text (text.byteOffset place) =
      (pattern.findNonempty? (.atOffset text place)).map (·.toBytes text) := by
  induction distance : text.length - place using Nat.strongRecOn generalizing place with
  | _ distance inductionHypothesis =>
      have search : pattern.searchFrom? text (text.byteOffset place) = _ :=
        searchFrom?_byteOffset within
      rw [findNonempty?_eq_of_find?, searchOver?, if_pos (Text.byteOffset_le_byteLength within)]
      split
      next nothing =>
        rw [nothing, eq_comm, Option.map_eq_none_iff] at search
        rw [search]
        rfl
      next part found =>
        rw [found, eq_comm, Option.map_eq_some_iff] at search
        obtain ⟨extent, here, rfl⟩ := search
        have bounds := bounds_of_find? here
        rw [Cursor.offset_atOffset within, Cursor.limit_atOffset] at bounds
        have startBounded := Nat.le_trans bounds.2.1 bounds.2.2
        have sameTest : (extent.toBytes text).start < (extent.toBytes text).stop ↔
            extent.start < extent.stop :=
          Text.byteOffset_lt_byteOffset_iff startBounded bounds.2.2
        rw [here, Option.bind_some]
        by_cases nonempty : extent.start < extent.stop
        · rw [if_pos nonempty, if_pos (sameTest.mpr nonempty), Option.map_some]
        · rw [if_neg nonempty, if_neg (mt sameTest.mp nonempty),
            Cursor.advance_atOffset_sub within (by omega)]
          rcases Nat.lt_or_eq_of_le bounds.2.2 with inside | atEnd
          · have next := Text.boundaryFrom_succ inside
            rw [Extent.toBytes, next]
            exact inductionHypothesis _ (by omega) inside rfl
          · -- Behind an empty match at the end of the text there is nothing to search.
            have ended : (extent.toBytes text).stop = text.byteLength :=
              congrArg text.byteOffset atEnd
            have nothing : pattern.findNonempty? (.atOffset text (extent.stop + 1)) = none := by
              rw [findNonempty?, Cursor.rest_atOffset, List.drop_of_length_le (by omega)]
              rfl
            rw [ended, Text.boundaryFrom_of_byteLength_le (Nat.le_succ _), nothing,
              searchOver?_of_byteLength_lt (Nat.lt_succ_self _)]
            rfl

/-! ### The first nonempty match -/

/-- A pattern prefers a match at a place of a text that is not empty. -/
def PrefersNonempty (pattern : Pattern) (text : Text) (place : Nat) : Prop :=
  ∃ length, pattern.lengthAt? text place = some (length + 1)

/-- A match that is not empty starts before the end of the text. -/
theorem PrefersNonempty.lt_length (prefers : pattern.PrefersNonempty text place) :
    place < text.length := by
  obtain ⟨length, here⟩ := prefers
  have bounded := matchLength?_le here
  rw [List.length_drop] at bounded
  omega

theorem PrefersNonempty.startsAt (prefers : pattern.PrefersNonempty text place) :
    pattern.StartsAt text place :=
  (startsAt_iff (Nat.le_of_lt prefers.lt_length)).mpr prefers

/-- What a search finds is the preferred match at its place, and is not empty. -/
theorem lengthAt?_of_findNonempty? (within : place ≤ text.length)
    (found : pattern.findNonempty? (.atOffset text place) = some extent) :
    pattern.lengthAt? text extent.start = some (extent.stop - extent.start) ∧
      extent.start < extent.stop := by
  obtain ⟨ordered, inside, -, -⟩ := startsAt_of_findNonempty? within found
  have here := findNonempty?_atOffset_of_le found ordered (Nat.le_refl _)
  obtain ⟨length, matched, stop⟩ := (findNonempty?_here_iff (Nat.le_of_lt inside)).mp here
  rw [matched, stop, Nat.add_sub_cancel_left]
  exact ⟨rfl, by omega⟩

/-- A search finds the match at the least place where the preferred match is not empty. -/
theorem findNonempty?_atOffset_eq_some_iff (within : place ≤ text.length) :
    pattern.findNonempty? (.atOffset text place) = some extent ↔
      IsLeast {start | place ≤ start ∧ pattern.PrefersNonempty text start} extent.start ∧
        pattern.lengthAt? text extent.start = some (extent.stop - extent.start) := by
  constructor
  · intro found
    obtain ⟨ordered, inside, starts, first⟩ := startsAt_of_findNonempty? within found
    refine ⟨⟨⟨ordered, (startsAt_iff (Nat.le_of_lt inside)).mp starts⟩, ?_⟩,
      (lengthAt?_of_findNonempty? within found).1⟩
    rintro start ⟨behind, prefers⟩
    exact Nat.le_of_not_lt fun before => first start behind before prefers.startsAt
  · rintro ⟨⟨⟨ordered, prefers⟩, least⟩, matched⟩
    have first (earlier : Nat) (behind : place ≤ earlier) (before : earlier < extent.start) :
        ¬pattern.StartsAt text earlier := by
      intro starts
      have bounded := Nat.le_of_lt (Nat.lt_trans before prefers.lt_length)
      exact absurd (least ⟨behind, (startsAt_iff bounded).mp starts⟩) (Nat.not_le.mpr before)
    obtain ⟨other, found, same⟩ :=
      (exists_findNonempty?_iff within).mpr ⟨ordered, prefers.startsAt, first⟩
    obtain ⟨length, positive⟩ := lengthAt?_of_findNonempty? within found
    obtain ⟨more, nonempty⟩ := prefers
    rw [same, matched, Option.some_inj] at length
    rw [matched, Option.some_inj] at nonempty
    obtain ⟨start, stop⟩ := extent
    obtain ⟨otherStart, otherStop⟩ := other
    dsimp only at same length positive nonempty
    rw [found, Option.some_inj, Extent.mk.injEq]
    omega

/-- A search finds nothing when the preferred match is empty, or missing, at every later place. -/
theorem findNonempty?_atOffset_eq_none_iff (within : place ≤ text.length) :
    pattern.findNonempty? (.atOffset text place) = none ↔
      ∀ start, place ≤ start → ¬pattern.PrefersNonempty text start := by
  constructor
  · intro nothing start ordered prefers
    obtain ⟨stop, there⟩ := prefers.startsAt
    rw [findNonempty?_atOffset_of_eq_none nothing ordered] at there
    cases there
  · intro nowhere
    cases found : pattern.findNonempty? (.atOffset text place) with
    | none => rfl
    | some extent =>
        obtain ⟨⟨⟨ordered, prefers⟩, -⟩, -⟩ :=
          (findNonempty?_atOffset_eq_some_iff within).mp found
        exact absurd prefers (nowhere _ ordered)

/-- Every search for a nonempty match from a place of a text ends. It finds the match at the least
place from there on where the preferred match is not empty, or nothing if there is no such place,
and stepping over empty matches from the byte offset of the place finds the same. From any later
place that is not behind the match both find that match again, and where nothing was found nothing
is found from any later place. -/
theorem first_nonempty_match_is_stable (pattern : Pattern) (text : Text)
    (within : place ≤ text.length) :
    pattern.searchOver? text (text.byteOffset place) =
        (pattern.findNonempty? (.atOffset text place)).map (·.toBytes text) ∧
      (∀ extent, pattern.findNonempty? (.atOffset text place) = some extent ↔
        IsLeast {start | place ≤ start ∧ pattern.PrefersNonempty text start} extent.start ∧
          pattern.lengthAt? text extent.start = some (extent.stop - extent.start)) ∧
      (pattern.findNonempty? (.atOffset text place) = none ↔
        ∀ start, place ≤ start → ¬pattern.PrefersNonempty text start) ∧
      (∀ extent later, pattern.findNonempty? (.atOffset text place) = some extent →
        place ≤ later → later ≤ extent.start →
          pattern.findNonempty? (.atOffset text later) = some extent ∧
            pattern.searchOver? text (text.byteOffset later) = some (extent.toBytes text)) ∧
      ∀ later, pattern.findNonempty? (.atOffset text place) = none →
        place ≤ later → later ≤ text.length →
          pattern.findNonempty? (.atOffset text later) = none ∧
            pattern.searchOver? text (text.byteOffset later) = none := by
  refine ⟨searchOver?_byteOffset within, fun extent => findNonempty?_atOffset_eq_some_iff within,
    findNonempty?_atOffset_eq_none_iff within, ?again, ?nothing⟩
  case again =>
    intro extent later found ordered reached
    have inside := (startsAt_of_findNonempty? within found).2.1
    have again := findNonempty?_atOffset_of_le found ordered reached
    refine ⟨again, ?_⟩
    rw [searchOver?_byteOffset (by omega), again, Option.map_some]
  case nothing =>
    intro later nothing ordered bounded
    have again := findNonempty?_atOffset_of_eq_none nothing ordered
    refine ⟨again, ?_⟩
    rw [searchOver?_byteOffset bounded, again, Option.map_none]

/-- Two dashes are optional, and the first letter has two bytes: empty matches are stepped over up
to the dashes, also inside of the letter, and behind the dashes no other ones are left. -/
theorem first_nonempty_match_is_stable_of_optional_dashes :
    let text := ['é', ' ', '-', '-', 'b']
    ∃ pattern, compile? "(?:--)?" = some pattern ∧ pattern.lengthAt? text 0 = some 0 ∧
      0 ≤ text.length ∧ pattern.findNonempty? (.atOffset text 0) = some ⟨2, 4⟩ ∧
      pattern.searchOver? text 0 = some ⟨3, 5⟩ ∧
      pattern.findNonempty? (.atOffset text 1) = some ⟨2, 4⟩ ∧
      pattern.searchOver? text 2 = some ⟨3, 5⟩ ∧ pattern.searchOver? text 5 = none := by
  intro text
  obtain ⟨pattern, compiled⟩ : ∃ pattern, compile? "(?:--)?" = some pattern :=
    Option.isSome_iff_exists.mp (by decide +kernel)
  have evaluated {α : Type} (result : Pattern → α) :
      (compile? "(?:--)?").map result = some (result pattern) := by
    rw [compiled, Option.map_some]
  have empty : pattern.lengthAt? text 0 = some 0 :=
    Option.some.inj ((evaluated (·.lengthAt? text 0)).symm.trans (by decide +kernel))
  have found : pattern.findNonempty? (.atOffset text 0) = some ⟨2, 4⟩ :=
    Option.some.inj
      ((evaluated (·.findNonempty? (.atOffset text 0))).symm.trans (by decide +kernel))
  have behind : pattern.findNonempty? (.atOffset text 4) = none :=
    Option.some.inj
      ((evaluated (·.findNonempty? (.atOffset text 4))).symm.trans (by decide +kernel))
  obtain ⟨stepping, -, -, again, -⟩ :=
    first_nonempty_match_is_stable pattern text (show 0 ≤ text.length by decide)
  have later := again ⟨2, 4⟩ 1 found (by decide) (by decide)
  have ended := (first_nonempty_match_is_stable pattern text (show 4 ≤ text.length by decide)).1
  rw [found] at stepping
  rw [behind] at ended
  exact ⟨pattern, compiled, empty, by decide, found, stepping, later.1, later.2, ended⟩

end Pattern

end Highlighter
