import Highlighter.Proofs.Text.Position
import Highlighter.Token.Mapping

/-!
# Token streams against their text

`Token.holding?` finds the lexeme that holds a character of a stream. A stream that is checked
against a text is laid up to the first lexeme that departs from the text: `Token.agreeing` is the
longest front of the stream that the text starts with, and `Mapping.ofTokens_eq` says that its
spans are the ones that are laid.
-/

namespace Highlighter

namespace Token

@[simp] theorem concat_nil : concat [] = [] := rfl

@[simp] theorem concat_cons (token : Token) (tokens : List Token) :
    concat (token :: tokens) = token.text ++ concat tokens := rfl

@[simp] theorem concat_append (front back : List Token) :
    concat (front ++ back) = concat front ++ concat back := by
  simp [concat]

/-- What follows a part of a text behind an offset follows the offset behind that part. -/
theorem isFront_drop_of_append {front back text : Text} {offset : Nat}
    (follows : front ++ back <+: text.drop offset) :
    back <+: text.drop (offset + front.length) := by
  obtain ⟨rest, split⟩ := follows
  rw [← List.drop_drop, ← split, List.append_assoc, List.drop_left]
  exact List.prefix_append _ _

/-! ### The lexeme of a character -/

/-- The lexeme that holds the character behind the first `offset` characters of a stream, with
the offset at which it starts. -/
def holding? : List Token → Nat → Option (Nat × Token)
  | [], _ => none
  | token :: tokens, offset =>
    if offset < token.text.length then some (0, token)
    else
      (holding? tokens (offset - token.text.length)).map fun (start, holder) =>
        (token.text.length + start, holder)

/-- The kind of the lexeme that holds a character of a stream. -/
def kindAt? (tokens : List Token) (offset : Nat) : Option TokenKind :=
  (holding? tokens offset).map (·.2.kind)

/-- A lexeme holds a character when the stream can be taken apart around it. -/
theorem holding?_eq_some_iff {tokens : List Token} {offset start : Nat} {token : Token} :
    holding? tokens offset = some (start, token) ↔
      ∃ front back, tokens = front ++ token :: back ∧ start = (concat front).length ∧
        start ≤ offset ∧ offset < start + token.text.length := by
  induction tokens generalizing offset start with
  | nil => simp [holding?]
  | cons first others inductionHypothesis =>
      rw [holding?]
      split
      next here =>
        constructor
        · intro found
          cases found
          exact ⟨[], others, rfl, rfl, Nat.zero_le _, by omega⟩
        · rintro ⟨front, back, split, rfl, lower, upper⟩
          cases front with
          | nil =>
              cases split
              rfl
          | cons head front =>
              cases split
              simp only [concat_cons, List.length_append] at lower
              omega
      next later =>
        simp only [Option.map_eq_some_iff, Prod.mk.injEq, Prod.exists]
        constructor
        · rintro ⟨start, holder, found, rfl, rfl⟩
          obtain ⟨front, back, rfl, rfl, lower, upper⟩ := inductionHypothesis.mp found
          refine ⟨first :: front, back, rfl, ?_, by omega, by omega⟩
          rw [concat_cons, List.length_append]
        · rintro ⟨front, back, split, rfl, lower, upper⟩
          cases front with
          | nil =>
              cases split
              simp only [concat_nil, List.length_nil] at upper
              omega
          | cons head front =>
              cases split
              simp only [concat_cons, List.length_append] at lower upper ⊢
              refine ⟨(concat front).length, token, inductionHypothesis.mpr ?_, rfl, rfl⟩
              exact ⟨front, back, rfl, rfl, by omega, by omega⟩

/-- Lexemes hold characters of the stream only. -/
theorem lt_of_holding? {tokens : List Token} {offset start : Nat} {token : Token}
    (found : holding? tokens offset = some (start, token)) :
    offset < (concat tokens).length := by
  obtain ⟨front, back, rfl, rfl, lower, upper⟩ := holding?_eq_some_iff.mp found
  simp only [concat_append, concat_cons, List.length_append]
  omega

/-- Every character of a stream is held by a lexeme. -/
theorem exists_holding? {tokens : List Token} {offset : Nat}
    (within : offset < (concat tokens).length) :
    ∃ start token, holding? tokens offset = some (start, token) := by
  induction tokens generalizing offset with
  | nil => simp at within
  | cons first others inductionHypothesis =>
      rw [concat_cons, List.length_append] at within
      rw [holding?]
      split
      next => exact ⟨_, _, rfl⟩
      next later =>
        have rest : offset - first.text.length < (concat others).length := by omega
        obtain ⟨start, token, found⟩ := inductionHypothesis rest
        exact ⟨first.text.length + start, token, by rw [found]; rfl⟩

/-- In two streams put together, the characters of the second one come behind those of the
first one. -/
theorem holding?_append (front back : List Token) (offset : Nat) :
    holding? (front ++ back) offset =
      if offset < (concat front).length then holding? front offset
      else
        (holding? back (offset - (concat front).length)).map fun (start, holder) =>
          ((concat front).length + start, holder) := by
  induction front generalizing offset with
  | nil => simp
  | cons first others inductionHypothesis =>
      rw [List.cons_append, holding?, inductionHypothesis, holding?, concat_cons,
        List.length_append]
      by_cases here : offset < first.text.length
      · rw [if_pos here, if_pos here, if_pos (by omega)]
      · rw [if_neg here, if_neg here]
        by_cases inFront : offset - first.text.length < (concat others).length
        · rw [if_pos inFront, if_pos (by omega)]
        · rw [if_neg inFront, if_neg (by omega), Option.map_map, Nat.sub_sub]
          simp [Function.comp_def, Nat.add_assoc]

/-! ### Agreement with a text -/

/-- The front of a stream up to the first lexeme that departs from a text. -/
def agreeing (source : Text) : List Token → List Token
  | [] => []
  | token :: tokens =>
    if token.text.isPrefixOf source then
      token :: agreeing (source.drop token.text.length) tokens
    else []

/-- The number of characters before the first lexeme that departs from a text. -/
def divergence (source : Text) (tokens : List Token) : Nat :=
  (concat (agreeing source tokens)).length

/-- The agreeing lexemes are a front of the stream. -/
theorem agreeing_isFront (source : Text) (tokens : List Token) :
    agreeing source tokens <+: tokens := by
  induction tokens generalizing source with
  | nil => exact List.prefix_rfl
  | cons token others inductionHypothesis =>
      rw [agreeing]
      split
      next => exact (List.prefix_cons_inj token).mpr (inductionHypothesis _)
      next => exact List.nil_prefix

/-- The text starts with the agreeing lexemes. -/
theorem concat_agreeing_isFront (source : Text) (tokens : List Token) :
    concat (agreeing source tokens) <+: source := by
  induction tokens generalizing source with
  | nil => exact List.nil_prefix
  | cons token others inductionHypothesis =>
      rw [agreeing]
      split
      next agrees =>
        obtain ⟨rest, rfl⟩ := List.isPrefixOf_iff_prefix.mp agrees
        rw [concat_cons, List.prefix_append_right_inj, List.drop_left]
        exact inductionHypothesis rest
      next => exact List.nil_prefix

/-- A stream departs from a text inside of it. -/
theorem divergence_le (source : Text) (tokens : List Token) :
    divergence source tokens ≤ source.length :=
  (concat_agreeing_isFront source tokens).length_le

/-- No longer front of the stream agrees with the text. -/
theorem isFront_agreeing {source : Text} {front tokens : List Token} (part : front <+: tokens)
    (agrees : concat front <+: source) : front <+: agreeing source tokens := by
  induction tokens generalizing source front with
  | nil => exact part
  | cons token others inductionHypothesis =>
      cases front with
      | nil => exact List.nil_prefix
      | cons first front =>
          obtain ⟨rfl, later⟩ := List.cons_prefix_cons.mp part
          rw [concat_cons] at agrees
          obtain ⟨rest, rfl⟩ := (List.prefix_append _ _).trans agrees
          rw [List.prefix_append_right_inj] at agrees
          rw [agreeing, if_pos (List.isPrefixOf_iff_prefix.mpr (List.prefix_append _ _)),
            List.drop_left]
          exact (List.prefix_cons_inj first).mpr (inductionHypothesis later agrees)

/-- A stream that gives back the text agrees with it as a whole. -/
theorem agreeing_of_concat_eq {source : Text} {tokens : List Token}
    (covers : concat tokens = source) : agreeing source tokens = tokens :=
  (agreeing_isFront source tokens).eq_of_length_le
    (isFront_agreeing List.prefix_rfl (covers ▸ List.prefix_rfl)).length_le

/-- The lexeme that holds a character of the agreeing front is the one of the whole stream. -/
theorem holding?_of_agreeing {source : Text} {tokens : List Token} {offset start : Nat}
    {token : Token} (found : holding? (agreeing source tokens) offset = some (start, token)) :
    holding? tokens offset = some (start, token) := by
  obtain ⟨front, back, same, rest⟩ := holding?_eq_some_iff.mp found
  obtain ⟨later, whole⟩ := agreeing_isFront source tokens
  exact holding?_eq_some_iff.mpr ⟨front, back ++ later, by rw [← whole, same]; simp, rest⟩

end Token

namespace Mapping

open Token

/-- The spans of a stream end where a walk over its lexemes ends, and are those of the front that
agrees with the text. The mapping is complete when the stream gives the text back. -/
theorem ofTokens_eq (position : Position) (source : Text) (tokens : List Token) :
    ofTokens position source tokens =
      { spans := spansFrom position (agreeing source tokens)
        stop := position.advancedBy (concat (agreeing source tokens))
        complete := decide (concat tokens = source) } := by
  induction tokens generalizing position source with
  | nil => cases source <;> rfl
  | cons token others inductionHypothesis =>
      rw [ofTokens, agreeing]
      split
      next empty =>
        rw [List.isEmpty_iff] at empty
        simp [inductionHypothesis, empty, spansFrom]
      next nonempty =>
        split
        next agrees =>
          obtain ⟨rest, rfl⟩ := List.isPrefixOf_iff_prefix.mp agrees
          simp [inductionHypothesis, spansFrom, nonempty, Position.advancedBy_append]
        next departs =>
          have incomplete : token.text ++ concat others ≠ source := by
            rintro rfl
            exact departs (List.isPrefixOf_iff_prefix.mpr (List.prefix_append _ _))
          simp [incomplete, spansFrom]

/-- A stream that gives back its text is laid to the end. -/
theorem complete_of_covers {tokenizer : Tokenizer} {text : Text} (covers : tokenizer.Covers text)
    (position : Position) :
    (ofTokens position text (tokenizer.lex text)).complete = true := by
  rw [ofTokens_eq]
  exact decide_eq_true covers

end Mapping

end Highlighter
