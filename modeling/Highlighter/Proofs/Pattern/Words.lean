import Highlighter.Proofs.Pattern.Meaning

/-!
# What words mean

Patterns for words are alternatives of sequences of characters, with characters of one set repeated
in front. Each of these forms means what it looks like.
-/

namespace Highlighter.Expr

variable {start stop : Cursor} {set : CharSet}

/-! ### Progress -/

/-- Rounds that do not go back do not go back together, and if every one of them goes on, they go as
far on as there are rounds. -/
theorem Rounds.progress {body : Cursor → Cursor → Prop} {advances : Prop}
    (forward : ∀ {start stop}, body start stop →
      start.offset ≤ stop.offset ∧ (advances → start.offset < stop.offset))
    {count : Nat} {start stop : Cursor} (rounds : Rounds body count start stop) :
    start.offset ≤ stop.offset ∧ (advances → start.offset + count ≤ stop.offset) := by
  induction rounds with
  | none => exact ⟨Nat.le_refl _, fun _ => Nat.le_refl _⟩
  | round first _ later =>
      have here := forward first
      refine ⟨Nat.le_trans here.1 later.1, fun each => ?_⟩
      have near := here.2 each
      have far := later.2 each
      omega

/-- A match does not go back, and goes on if the expression cannot match the empty text. -/
theorem Matches.progress {expr : Expr} (matched : expr.Matches start stop) :
    start.offset ≤ stop.offset ∧ (expr.nullable = false → start.offset < stop.offset) := by
  induction expr generalizing start stop with
  | empty =>
      obtain rfl : start = stop := matched
      exact ⟨Nat.le_refl _, nofun⟩
  | char set =>
      obtain ⟨c, rest, -, -, rfl⟩ := matched
      exact ⟨Nat.le_succ _, fun _ => Nat.lt_succ_self _⟩
  | edge edge =>
      obtain ⟨-, rfl⟩ := matched
      exact ⟨Nat.le_refl _, nofun⟩
  | seq first second near far =>
      obtain ⟨middle, left, right⟩ := matched
      have before := near left
      have behind := far right
      refine ⟨Nat.le_trans before.1 behind.1, fun some => ?_⟩
      rcases Bool.and_eq_false_iff.mp some with here | there
      · exact Nat.lt_of_lt_of_le (before.2 here) behind.1
      · exact Nat.lt_of_le_of_lt before.1 (behind.2 there)
  | choice first second near far =>
      rcases matched with left | right
      · exact ⟨(near left).1, fun some => (near left).2 (Bool.or_eq_false_iff.mp some).1⟩
      · exact ⟨(far right).1, fun some => (far right).2 (Bool.or_eq_false_iff.mp some).2⟩
  | group body inductionHypothesis => exact inductionHypothesis matched
  | repetition body least most greedy inductionHypothesis =>
      obtain ⟨count, ⟨enough, -⟩, rounds⟩ := matched
      have forward := rounds.progress inductionHypothesis
      refine ⟨forward.1, fun some => ?_⟩
      rw [nullable, Bool.or_eq_false_iff, beq_eq_false_iff_ne] at some
      have far := forward.2 some.2
      omega

/-! ### Forms -/

/-- Characters of a set, one behind the other. -/
theorem rounds_reads_iff {count : Nat} :
    Rounds (Reads set) count start stop ↔
      ∃ part rest, start.rest = part ++ rest ∧ part.length = count ∧
        (∀ c ∈ part, set.member c = true) ∧ stop = start.advance part.length := by
  constructor
  · intro rounds
    induction rounds with
    | none => exact ⟨[], _, rfl, rfl, nofun, by simp⟩
    | @round count start middle stop first _ inductionHypothesis =>
        obtain ⟨c, _, shape, member, rfl⟩ := first
        obtain ⟨part, rest, split, length, members, rfl⟩ := inductionHypothesis
        refine ⟨c :: part, rest, by rw [shape]; exact congrArg _ split, by simp [length],
          List.forall_mem_cons.mpr ⟨member, members⟩, ?_⟩
        rw [List.length_cons, Cursor.advance_succ_of_rest_eq_cons shape]
  · rintro ⟨part, rest, split, rfl, members, rfl⟩
    induction part generalizing start with
    | nil => simpa using Rounds.none
    | cons c part inductionHypothesis =>
        obtain ⟨member, others⟩ := List.forall_mem_cons.mp members
        rw [List.length_cons, Cursor.advance_succ_of_rest_eq_cons split]
        exact .round ⟨c, part ++ rest, split, member, rfl⟩
          (@inductionHypothesis ⟨start.offset + 1, some c, part ++ rest⟩ rfl others)

/-- A repeated character of a set: a part of the text that consists of as many of them as are
admitted. -/
theorem matches_repetition_char_iff {least : Nat} {most : Option Nat} {greedy : Bool} :
    (repetition (.char set) least most greedy).Matches start stop ↔
      ∃ part rest, start.rest = part ++ rest ∧
        (least ≤ part.length ∧ ∀ limit ∈ most, part.length ≤ max least limit) ∧
        (∀ c ∈ part, set.member c = true) ∧ stop = start.advance part.length := by
  constructor
  · rintro ⟨count, admitted, rounds⟩
    obtain ⟨part, rest, split, rfl, further⟩ := rounds_reads_iff.mp rounds
    exact ⟨part, rest, split, admitted, further⟩
  · rintro ⟨part, rest, split, admitted, further⟩
    exact ⟨part.length, admitted, rounds_reads_iff.mpr ⟨part, rest, split, rfl, further⟩⟩

/-- Any number of characters of a set: a part of the text that consists of them. -/
theorem matches_repeated_char_iff {greedy : Bool} :
    (repetition (.char set) 0 none greedy).Matches start stop ↔
      ∃ part rest, start.rest = part ++ rest ∧ (∀ c ∈ part, set.member c = true) ∧
        stop = start.advance part.length := by
  rw [matches_repetition_char_iff]
  simp

theorem matches_sequence_cons_iff {sets : List CharSet} :
    (sequence ((set :: sets).map .char)).Matches start stop ↔
      Relation.Comp (Reads set) (sequence (sets.map .char)).Matches start stop := by
  cases sets with
  | nil => simp [sequence, Matches, Relation.Comp]
  | cons => rfl

/-- Characters of given sets in a row. -/
theorem matches_sequence_chars_iff {sets : List CharSet} :
    (sequence (sets.map .char)).Matches start stop ↔
      ∃ part rest, start.rest = part ++ rest ∧
        List.Forall₂ (fun set c => set.member c = true) sets part ∧
        stop = start.advance part.length := by
  induction sets generalizing start stop with
  | nil =>
      constructor
      · rintro rfl
        exact ⟨[], _, rfl, .nil, by simp⟩
      · rintro ⟨_, rest, -, ⟨⟩, rfl⟩
        simp [sequence, Matches]
  | cons set sets inductionHypothesis =>
      rw [matches_sequence_cons_iff]
      constructor
      · rintro ⟨middle, ⟨c, _, shape, member, rfl⟩, later⟩
        obtain ⟨part, rest, split, spelled, rfl⟩ := inductionHypothesis.mp later
        refine ⟨c :: part, rest, by rw [shape]; exact congrArg _ split, .cons member spelled, ?_⟩
        rw [List.length_cons, Cursor.advance_succ_of_rest_eq_cons shape]
      · rintro ⟨_, rest, split, spelled, rfl⟩
        cases spelled with
        | @cons _ c _ part member spelled =>
            rw [List.length_cons, Cursor.advance_succ_of_rest_eq_cons split]
            exact ⟨_, ⟨c, part ++ rest, split, member, rfl⟩,
              inductionHypothesis.mpr ⟨part, rest, rfl, spelled, rfl⟩⟩

/-- One of several alternatives. -/
theorem matches_alternatives_iff {exprs : List Expr} (some : exprs ≠ []) :
    (alternatives exprs).Matches start stop ↔ ∃ expr ∈ exprs, expr.Matches start stop := by
  induction exprs with
  | nil => exact absurd rfl some
  | cons first others inductionHypothesis =>
      cases others with
      | nil => simp [alternatives]
      | cons second others =>
          have shape : (alternatives (first :: second :: others)).Matches start stop ↔
              first.Matches start stop ∨ (alternatives (second :: others)).Matches start stop :=
            Iff.rfl
          rw [shape, inductionHypothesis (List.cons_ne_nil _ _)]
          simp only [List.exists_mem_cons_iff]

end Highlighter.Expr

namespace Highlighter.Pattern

open Highlighter.Expr

/-- A pattern that cannot match the empty text has a nonempty match where its expression matches. -/
theorem exists_matchLength?_succ_iff {expr : Expr} (some : expr.nullable = false)
    {before : Option Char} {rest : Text} :
    (∃ length, (ofExpr expr).matchLength? before rest = .some (length + 1)) ↔
      ∃ stop, expr.Matches ⟨0, before, rest⟩ stop := by
  rw [← isSome_matchLength?_iff]
  constructor
  · rintro ⟨length, found⟩
    rw [found]
    rfl
  · intro found
    obtain ⟨length, found⟩ := Option.isSome_iff_exists.mp found
    obtain ⟨stop, matched, rfl⟩ := exists_matches_of_matchLength? found
    have progress := matched.progress.2 some
    exact ⟨stop.offset - 1, by rw [found, Nat.sub_add_cancel progress]⟩

end Highlighter.Pattern
