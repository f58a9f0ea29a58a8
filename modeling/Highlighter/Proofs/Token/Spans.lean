import Highlighter.Proofs.Token.Stream
import Mathlib.Data.List.Forall2

/-!
# The spans of a token stream

The spans of a stream stand end to end, one for each lexeme that is not empty. A stream that is
checked against a text keeps the spans of its longest front that the text starts with, whether it
departs from the text, runs over its end or stops short of it, and it is complete exactly when the
lexemes make up the text (`ofTokens_lays_longest_front`). Where the spans lie in a surface is the
subject of other modules.
-/

namespace Highlighter

/-- The longest front of a stream whose lexemes, put together, are the start of a text. -/
structure Token.LongestFront (source : Text) (tokens front : List Token) : Prop where
  isFront : front <+: tokens
  agrees : concat front <+: source
  longest : ∀ other, other <+: tokens → concat other <+: source → other.length ≤ front.length

/-- The agreeing lexemes are the longest front that agrees. -/
theorem Token.longestFront_agreeing (source : Text) (tokens : List Token) :
    LongestFront source tokens (agreeing source tokens) where
  isFront := agreeing_isFront source tokens
  agrees := concat_agreeing_isFront source tokens
  longest _ part agrees := (isFront_agreeing part agrees).length_le

namespace Span

/-- A span is laid for a token: it has the kind of the token and is as long as its lexeme, which is
not empty. -/
structure LaidFor (token : Token) (span : Span) : Prop where
  kind : span.kind = token.kind
  stop : span.stop = span.start.advancedBy token.text
  nonempty : span.start < span.stop

/-- Spans stand end to end from one position to another: the first one starts at the one position,
each later one where the span before it ends, and the last one ends at the other position. -/
inductive EndToEnd : Position → List Span → Position → Prop where
  | nil (position : Position) : EndToEnd position [] position
  | cons (span : Span) {others : List Span} {stop : Position}
      (later : EndToEnd span.stop others stop) : EndToEnd span.start (span :: others) stop

end Span

namespace Mapping

open Token

/-- A span is laid for each lexeme that is not empty, in their order. -/
theorem laidFor_spansFrom (position : Position) (tokens : List Token) :
    List.Forall₂ Span.LaidFor (tokens.filter (!·.text.isEmpty)) (spansFrom position tokens) := by
  induction tokens generalizing position with
  | nil => exact .nil
  | cons token others inductionHypothesis =>
      rw [spansFrom]
      split
      next empty =>
        rw [List.filter_cons_of_neg (by simpa using empty)]
        exact inductionHypothesis position
      next visible =>
        rw [List.filter_cons_of_pos (by simpa using visible)]
        exact .cons ⟨rfl, rfl, Position.lt_advancedBy position (by simpa using visible)⟩
          (inductionHypothesis _)

/-- The spans stand end to end up to where a walk over all lexemes leads. -/
theorem endToEnd_spansFrom (position : Position) (tokens : List Token) :
    Span.EndToEnd position (spansFrom position tokens) (position.advancedBy (concat tokens)) := by
  induction tokens generalizing position with
  | nil => exact .nil position
  | cons token others inductionHypothesis =>
      rw [spansFrom, concat_cons, Position.advancedBy_append]
      split
      next empty =>
        rw [List.isEmpty_iff.mp empty, Position.advancedBy_nil]
        exact inductionHypothesis position
      next => exact .cons ⟨position, _, token.kind⟩ (inductionHypothesis _)

/-- A checked stream, of any lexemes and from any position, is complete exactly when its lexemes
make up the text. In every case its spans are laid for the lexemes of the longest front that the
text starts with, leaving out empty ones; they are not empty, stand end to end from the first
position, and end where a walk over that front leads. A complete stream has the spans of an
unchecked one. Walking over two texts is walking over one after the other, and over any character it
leads on. -/
theorem ofTokens_lays_longest_front :
    (∀ (origin : Position) (source : Text) (tokens : List Token),
      let mapping := ofTokens origin source tokens
      (mapping.complete = true ↔ concat tokens = source) ∧
        (∃ front, LongestFront source tokens front ∧
          List.Forall₂ Span.LaidFor (front.filter (!·.text.isEmpty)) mapping.spans ∧
          Span.EndToEnd origin mapping.spans mapping.stop ∧
          mapping.stop = origin.advancedBy (concat front)) ∧
        (mapping.complete = true → mapping.spans = spansFrom origin tokens)) ∧
    (∀ (position : Position) (front back : Text),
      position.advancedBy (front ++ back) = (position.advancedBy front).advancedBy back) ∧
    ∀ (position : Position) (text : Text), text ≠ [] → position < position.advancedBy text := by
  refine ⟨?mapping, Position.advancedBy_append, fun position _ => Position.lt_advancedBy position⟩
  case mapping =>
    intro origin source tokens
    rw [ofTokens_eq]
    refine ⟨decide_eq_true_iff, ⟨_, longestFront_agreeing source tokens,
      laidFor_spansFrom origin _, endToEnd_spansFrom origin _, rfl⟩, fun complete => ?_⟩
    rw [agreeing_of_concat_eq (of_decide_eq_true complete)]

/-- A stream with an empty lexeme departs from its text on the second line. -/
theorem ofTokens_lays_longest_front_of_departing :
    let tokens : List Token := [⟨.text, ['ä', '\n']⟩, ⟨⟨"Keyword"⟩, []⟩, ⟨⟨"Name"⟩, ['b']⟩,
      ⟨⟨"Name"⟩, ['x']⟩]
    let mapping := ofTokens ⟨3, 4⟩ ['ä', '\n', 'b', 'c'] tokens
    mapping.complete = false ∧ Span.EndToEnd ⟨3, 4⟩ mapping.spans ⟨4, 1⟩ ∧
      mapping.spans = [⟨⟨3, 4⟩, ⟨4, 0⟩, .text⟩, ⟨⟨4, 0⟩, ⟨4, 1⟩, ⟨"Name"⟩⟩] ∧
      (⟨3, 4⟩ : Position) < Position.advancedBy ⟨3, 4⟩ ['ä', '\n'] := by
  intro tokens mapping
  obtain ⟨laid, -, forward⟩ := ofTokens_lays_longest_front
  obtain ⟨complete, ⟨front, -, -, endToEnd, -⟩, -⟩ := laid ⟨3, 4⟩ ['ä', '\n', 'b', 'c'] tokens
  refine ⟨?_, endToEnd, by decide, forward _ _ (by decide)⟩
  exact Bool.eq_false_iff.mpr fun whole => absurd (complete.mp whole) (by decide)

end Mapping

end Highlighter
