import Highlighter.Proofs.Session.Incremental
import Highlighter.Proofs.Surface.Runs

/-!
# The places of lexemes

A lexeme of a line block has two addresses. The mapper walks over the characters, and counts the
newlines and what stands behind the last of them. The surface adds up the lengths of its lines.
`ofTokens_places` shows that they agree for every stream that gives back the text of the block. A
stream that departs from the text is outside of this module.
-/

namespace Highlighter

namespace Surface

/-- A span is where the surface has the lexeme of a token. -/
structure Places (surface : Surface) (token : Token) (span : Span) : Prop where
  kind : span.kind = token.kind
  startInside : surface.clamp span.start = span.start
  stopInside : surface.clamp span.stop = span.stop
  text : surface.text span.start span.stop = token.text
  advance : surface.advance span.start token.text.length = span.stop

variable {surface : Surface}

/-- The surface has a lexeme between the places of the offsets at which its text starts and
ends. -/
theorem places_of_isFront (lined : surface.Lined) {offset : Nat} {token : Token}
    (bounded : offset ≤ surface.content.length)
    (follows : token.text <+: surface.content.drop offset) :
    surface.Places token ⟨surface.positionOf offset,
      surface.positionOf (offset + token.text.length), token.kind⟩ := by
  have stopBounded : offset + token.text.length ≤ surface.content.length := by
    have length := follows.length_le
    rw [List.length_drop] at length
    omega
  have startOffset := offsetOf_positionOf lined.nonempty bounded
  have stopOffset := offsetOf_positionOf lined.nonempty stopBounded
  refine
    { kind := rfl
      startInside := clamp_of_inside (inside_positionOf lined.nonempty offset)
      stopInside := clamp_of_inside (inside_positionOf lined.nonempty _)
      text := ?text
      advance := ?advance }
  case text =>
    dsimp only
    rw [text_eq, startOffset, stopOffset, Nat.add_sub_cancel_left]
    exact (List.prefix_iff_eq_take.mp follows).symm
  case advance =>
    dsimp only
    rw [advance, startOffset]

/-- A walk over lexemes that stand in the text finds the places of the surface, one for each
lexeme that is not empty. -/
theorem spansFrom_places (lined : surface.Lined) {offset : Nat} {tokens : List Token}
    (bounded : offset ≤ surface.content.length)
    (follow : Token.concat tokens <+: surface.content.drop offset) :
    List.Forall₂ surface.Places (tokens.filter (!·.text.isEmpty))
      (Mapping.spansFrom (surface.positionOf offset) tokens) := by
  induction tokens generalizing offset with
  | nil => exact .nil
  | cons token others inductionHypothesis =>
      rw [Token.concat_cons] at follow
      have here : token.text <+: surface.content.drop offset :=
        (List.prefix_append _ _).trans follow
      rw [Mapping.spansFrom]
      split
      next empty =>
        rw [List.filter_cons_of_neg (by simp [empty])]
        rw [List.isEmpty_iff.mp empty, List.nil_append] at follow
        exact inductionHypothesis bounded follow
      next visible =>
        have length := here.length_le
        rw [List.length_drop] at length
        rw [List.filter_cons_of_pos (by simpa using visible), advancedBy_positionOf lined here]
        exact .cons (places_of_isFront lined bounded here)
          (inductionHypothesis (by omega) (Token.isFront_drop_of_append follow))

/-- The mapper and the surface agree on addresses. A stream that gives back the text of a line
block is laid onto the whole block, and each span is where the surface has the lexeme. A walk over
the first characters of the text leads to the place that the surface gives to their number. -/
theorem ofTokens_places (lined : surface.Lined) :
    (∀ {first last : Nat}, surface.LineBlock first last → ∀ {tokens : List Token},
      Token.concat tokens = surface.text (.lineStart first) (surface.lineEnd last) →
      let mapping := Mapping.ofTokens (.lineStart first)
        (surface.text (.lineStart first) (surface.lineEnd last)) tokens
      mapping.complete = true ∧ mapping.stop = surface.lineEnd last ∧
        List.Forall₂ surface.Places (tokens.filter (!·.text.isEmpty)) mapping.spans) ∧
    ∀ {front : Text}, front <+: surface.content →
      Position.start.advancedBy front = surface.positionOf front.length ∧
        Position.start.advancedBy front = surface.advance .start front.length := by
  constructor
  · intro first last block tokens covers
    have startOffset := positionOf_offsetOf block.startInside
    have follow : Token.concat tokens <+:
        surface.content.drop (surface.offsetOf (.lineStart first)) :=
      covers ▸ Session.blockText_isFront surface first last
    have length := Session.length_blockText lined block
    rw [Session.blockText, ← covers] at length
    dsimp only
    rw [Mapping.ofTokens_eq, Token.agreeing_of_concat_eq covers]
    refine ⟨decide_eq_true covers, ?_, ?_⟩
    · dsimp only
      rw [← startOffset, advancedBy_positionOf lined follow, length,
        positionOf_offsetOf block.stopInside]
    · have places := spansFrom_places lined
        (offsetOf_le_length lined.nonempty (.lineStart first)) follow
      rwa [startOffset] at places
  · intro front part
    have walk : Position.start.advancedBy front = surface.positionOf front.length := by
      rw [positionOf_eq_advancedBy lined, ← List.prefix_iff_eq_take.mp part]
    exact ⟨walk, by rw [walk, advance, offsetOf_start, Nat.zero_add]⟩

/-- A block with a blank line, in a text that was edited: the first lexeme starts with the newline
of the blank line, the second one is empty, and the third one follows on the last line. -/
theorem ofTokens_places_of_blank_line :
    let surface := (ofText ['ç', 'x', '\n', '\n', 'ü', 'b']).apply (.delete ⟨1, 1⟩ ⟨1, 2⟩)
    let tokens : List Token := [⟨.text, ['\n', 'ü']⟩, ⟨.text, []⟩, ⟨⟨"Name"⟩, ['b']⟩]
    surface.Lined ∧ surface.LineBlock 2 3 ∧
      Token.concat tokens = surface.text (.lineStart 2) (surface.lineEnd 3) ∧
      List.Forall₂ surface.Places [⟨.text, ['\n', 'ü']⟩, ⟨⟨"Name"⟩, ['b']⟩]
        [⟨⟨2, 0⟩, ⟨3, 1⟩, .text⟩, ⟨⟨3, 1⟩, ⟨3, 2⟩, ⟨"Name"⟩⟩] ∧
      ['ç', '\n', '\n'] <+: surface.content ∧
      Position.start.advancedBy ['ç', '\n', '\n'] = surface.advance .start 3 := by
  intro surface tokens
  have admitted : Ordered (ofText ['ç', 'x', '\n', '\n', 'ü', 'b']) (.delete ⟨1, 1⟩ ⟨1, 2⟩) :=
    trivial
  have lined : surface.Lined := .of_reachable (.step _ (.ofText _) admitted)
  have block : surface.LineBlock 2 3 := ⟨by decide, by decide, by decide⟩
  have covers : Token.concat tokens = surface.text (.lineStart 2) (surface.lineEnd 3) := by
    decide
  have part : ['ç', '\n', '\n'] <+: surface.content := by decide
  obtain ⟨blocks, fronts⟩ := ofTokens_places lined
  exact ⟨lined, block, covers, (blocks block covers).2.2, part, (fronts part).2⟩

end Surface

end Highlighter
