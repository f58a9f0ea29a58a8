import Highlighter.Proofs.Pattern.Words

/-!
# Delimiters

A delimiter is spelled out, with runs of one character in it or in front. Where it matches, it
matches in one way only, which is then the match that is found (`Pattern.matchLength?_of_unique`). A
search for it stops at the first place where it matches (`Pattern.find?_eq_some_iff`).
-/

namespace Highlighter

/-- Characters with a property in front of one without it are all that a text starts with. -/
theorem Text.takeWhile_append_of_stop {p : Char → Bool} {part rest : Text}
    (members : ∀ c ∈ part, p c = true) (stops : ∀ c ∈ rest.head?, p c = false) :
    (part ++ rest).takeWhile p = part := by
  rw [List.takeWhile_append_of_pos members]
  cases rest with
  | nil => exact List.append_nil part
  | cons c rest =>
      rw [List.takeWhile_cons_of_neg (by simp [stops c rfl]), List.append_nil]

/-- A text is split in one way only between characters with a property and one without it. -/
theorem Text.eq_of_append_eq {p : Char → Bool} {part other rest back : Text}
    (same : part ++ rest = other ++ back) (members : ∀ c ∈ part, p c = true)
    (stops : ∀ c ∈ rest.head?, p c = false) (otherMembers : ∀ c ∈ other, p c = true)
    (otherStops : ∀ c ∈ back.head?, p c = false) : part = other ∧ rest = back := by
  have taken := congrArg (List.takeWhile p) same
  rw [takeWhile_append_of_stop members stops, takeWhile_append_of_stop otherMembers otherStops]
    at taken
  subst taken
  exact ⟨rfl, List.append_cancel_left same⟩

/-- The set of the characters that are listed. -/
def CharSet.oneOf (first : Char) (others : Text) : CharSet :=
  others.foldl (fun set c => .union set (.single c)) (.single first)

theorem CharSet.member_oneOf_iff {first c : Char} {others : Text} :
    (oneOf first others).member c = true ↔ c ∈ first :: others := by
  induction others using List.reverseRecOn with
  | nil => rw [oneOf, List.foldl_nil, member_single_iff, List.mem_singleton]
  | append_singleton others last inductionHypothesis =>
      rw [oneOf, List.foldl_append, List.foldl_cons, List.foldl_nil, ← oneOf, member,
        Bool.or_eq_true, inductionHypothesis, member_single_iff]
      simp [or_assoc]

namespace Expr

variable {start stop : Cursor}

/-- Characters as they are written. -/
def spelled (marks : Text) : Expr :=
  .sequence ((marks.map CharSet.single).map .char)

theorem matches_spelled_iff {marks : Text} :
    (spelled marks).Matches start stop ↔
      ∃ rest, start.rest = marks ++ rest ∧ stop = start.advance marks.length := by
  have same (part : Text) :
      List.Forall₂ (fun mark c => (CharSet.single mark).member c = true) marks part ↔
        marks = part := by
    simp only [CharSet.member_single_iff, @eq_comm _ _ (_ : Char), List.forall₂_eq_eq_eq]
  simp only [spelled, matches_sequence_chars_iff, List.forall₂_map_left_iff, same]
  constructor
  · rintro ⟨_, rest, split, rfl, rfl⟩
    exact ⟨rest, split, rfl⟩
  · rintro ⟨rest, split, rfl⟩
    exact ⟨marks, rest, split, rfl, rfl⟩

end Expr

namespace Pattern

variable {expr : Expr} {before : Option Char} {rest : Text} {cursor : Cursor} {extent : Extent}

/-- Where an expression matches nothing, there is no match of it. -/
theorem matchLength?_eq_none_of_forall (never : ∀ stop, ¬expr.Matches ⟨0, before, rest⟩ stop) :
    (ofExpr expr).matchLength? before rest = none := by
  cases found : (ofExpr expr).matchLength? before rest with
  | none => rfl
  | some length =>
      obtain ⟨stop, matched, -⟩ := exists_matches_of_matchLength? found
      exact absurd matched (never stop)

/-- Where an expression can match only one part of the text, that is the match. -/
theorem matchLength?_of_unique {last : Cursor} (matched : expr.Matches ⟨0, before, rest⟩ last)
    (unique : ∀ stop, expr.Matches ⟨0, before, rest⟩ stop → stop.offset = last.offset) :
    (ofExpr expr).matchLength? before rest = some last.offset := by
  obtain ⟨length, found⟩ := Option.isSome_iff_exists.mp (isSome_matchLength?_iff.mpr ⟨_, matched⟩)
  obtain ⟨stop, other, rfl⟩ := exists_matches_of_matchLength? found
  rw [found, unique stop other]

/-! ### Searches -/

/-- A search for something that is not empty is a search for nonempty matches. -/
theorem find?_eq_findNonempty? (some : expr.nullable = false) (cursor : Cursor) :
    (ofExpr expr).find? cursor = (ofExpr expr).findNonempty? cursor := by
  have positive {before : Option Char} {rest : Text} :
      (ofExpr expr).matchLength? before rest ≠ .some 0 := by
    intro found
    obtain ⟨stop, matched, atOnce⟩ := exists_matches_of_matchLength? found
    exact absurd (matched.progress.2 some) (by simp [atOnce])
  obtain ⟨offset, before, rest⟩ := cursor
  rw [find?, findNonempty?]
  dsimp only
  induction rest generalizing offset before with
  | nil =>
      have nothing : (ofExpr expr).matchLength? before [] = none := by
        cases found : (ofExpr expr).matchLength? before [] with
        | none => rfl
        | some length =>
            have ended := matchLength?_le found
            rw [List.length_nil, Nat.le_zero] at ended
            exact absurd (ended ▸ found) positive
      rw [findFrom, findNonemptyFrom, nothing, Option.map_none]
  | cons c rest inductionHypothesis =>
      rw [findFrom, findNonemptyFrom]
      cases found : (ofExpr expr).matchLength? before (c :: rest) with
      | none => exact inductionHypothesis (offset + 1) (.some c)
      | some length =>
          cases length with
          | zero => exact absurd found positive
          | succ length => rfl

/-- Where something that is not empty cannot be matched, there is no match of it. -/
theorem nonemptyMatch?_eq_none_iff (some : expr.nullable = false) :
    (ofExpr expr).nonemptyMatch? cursor = none ↔
      ∀ stop, ¬expr.Matches ⟨0, cursor.before, cursor.rest⟩ stop := by
  rw [← not_exists, ← exists_matchLength?_succ_iff some, nonemptyMatch?]
  rcases (ofExpr expr).matchLength? cursor.before cursor.rest with _ | _ | length <;> simp

/-- A search for something that is not empty finds its match at the first place that has one. -/
theorem find?_eq_some_iff (some : expr.nullable = false) :
    (ofExpr expr).find? cursor = .some extent ↔
      ∃ skipped, (ofExpr expr).nonemptyMatch? (cursor.advance skipped) = .some extent ∧
        ∀ earlier < skipped, ∀ stop,
          ¬expr.Matches ⟨0, (cursor.advance earlier).before, (cursor.advance earlier).rest⟩
            stop := by
  simp only [find?_eq_findNonempty? some, findNonempty?_eq_some_iff,
    nonemptyMatch?_eq_none_iff some]

/-- What a search finds is matched at the first place where something is. -/
theorem exists_matches_of_find? (some : expr.nullable = false)
    (found : (ofExpr expr).find? cursor = .some extent) :
    ∃ skipped stop,
      expr.Matches ⟨0, (cursor.advance skipped).before, (cursor.advance skipped).rest⟩ stop ∧
      extent.start = (cursor.advance skipped).offset ∧
      extent.stop = (cursor.advance skipped).offset + stop.offset ∧
      ∀ earlier < skipped, ∀ stop,
        ¬expr.Matches ⟨0, (cursor.advance earlier).before, (cursor.advance earlier).rest⟩ stop := by
  obtain ⟨skipped, here, first⟩ := (find?_eq_some_iff some).mp found
  rw [nonemptyMatch?] at here
  split at here
  next length matched =>
    obtain rfl := Option.some.inj here
    obtain ⟨stop, part, ends⟩ := exists_matches_of_matchLength? matched
    exact ⟨skipped, stop, part, rfl, by rw [ends], first⟩
  next => cases here

/-- Where something is matched at the cursor or later, a search finds something. -/
theorem exists_find?_of_matches (some : expr.nullable = false) {skipped : Nat} {stop : Cursor}
    (matched :
      expr.Matches ⟨0, (cursor.advance skipped).before, (cursor.advance skipped).rest⟩ stop) :
    ∃ extent, (ofExpr expr).find? cursor = .some extent := by
  rw [← Option.ne_none_iff_exists', Ne, find?_eq_findNonempty? some, findNonempty?_eq_none_iff]
  intro nowhere
  exact (nonemptyMatch?_eq_none_iff some).mp (nowhere skipped) stop matched

end Pattern

end Highlighter
