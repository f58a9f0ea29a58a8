import Highlighter.Proofs.Grammar.Scanning
import Highlighter.Proofs.Token.Stream

/-!
# Lexing covers the text

Whatever the rules of a grammar are, every token takes at least one character, so the tokens come to
an end, and put together they are the text. The tokenizer for text without a grammar cuts nothing,
and the same holds of it (`Tokenizer.OfLibrary.partitions`).
-/

namespace Highlighter

open Token

namespace Tokenizer

/-- The lexemes of a text are parts of it that are not empty, one behind the other. -/
structure Partitions (tokenizer : Tokenizer) (text : Text) : Prop where
  nonempty : ∀ token ∈ tokenizer.lex text, token.text ≠ []
  covers : tokenizer.Covers text

/-- The tokenizers of this library: the one for text without a grammar, and one for each
grammar. -/
inductive OfLibrary : Tokenizer → Prop where
  | plainText : OfLibrary .plainText
  | grammar (grammar : Grammar) : OfLibrary grammar.tokenizer

end Tokenizer

namespace Grammar

variable {grammar : Grammar} {text : Text} {place : Nat} {tokens : List Token}

/-- The tokens from a place on are the rest of the text. -/
theorem Scanned.concat_eq (scanned : Scanned grammar text place tokens) :
    concat tokens = text.drop place := by
  induction scanned with
  | finish => simp
  | @token place stop kind tokens within next later inductionHypothesis =>
      have ordered := Nat.le_of_lt (next.bounds within).1
      rw [concat_cons, inductionHypothesis, ← Nat.add_sub_cancel' ordered, Nat.add_sub_cancel_left,
        ← List.drop_drop, List.take_append_drop]

/-- No token is empty. -/
theorem Scanned.nonempty (scanned : Scanned grammar text place tokens) :
    ∀ token ∈ tokens, token.text ≠ [] := by
  induction scanned with
  | finish => exact fun _ member => absurd member List.not_mem_nil
  | @token place stop kind tokens within next later inductionHypothesis =>
      refine List.forall_mem_cons.mpr ⟨?_, inductionHypothesis⟩
      have bounds := next.bounds within
      apply List.ne_nil_of_length_pos
      rw [List.length_take, List.length_drop]
      omega

/-- The tokens of a text are what searches from every place anew decide. -/
theorem scanned_lex (grammar : Grammar) (text : Text) :
    Scanned grammar text 0 (grammar.lex text) := by
  rw [lex_eq_scan, scan]
  exact (scanFrom_eq_iff (Nat.zero_le _) (Nat.le_refl _)).mp rfl

/-- Lexing ends by itself: to allow further steps yields no further token. -/
theorem lexFrom_eq_lex (grammar : Grammar) {text : Text} {steps : Nat}
    (enough : text.length ≤ steps) :
    lexFrom steps (grammar.rules.map (·, .unknown)) (.start text) = grammar.lex text := by
  rw [lexFrom_unknown_eq_scanFrom]
  exact (scanFrom_eq_iff (Nat.zero_le _) enough).mpr (scanned_lex grammar text)

end Grammar

namespace Tokenizer

/-- The tokenizers of this library cut every text into lexemes that are not empty. -/
theorem OfLibrary.partitions {tokenizer : Tokenizer} (own : tokenizer.OfLibrary) (text : Text) :
    tokenizer.Partitions text := by
  cases own with
  | plainText =>
      cases text with
      | nil => exact ⟨nofun, rfl⟩
      | cons c rest => constructor <;> simp [Tokenizer.plainText, Covers]
  | grammar grammar =>
      have scanned := Grammar.scanned_lex grammar text
      exact ⟨scanned.nonempty, scanned.concat_eq⟩

end Tokenizer

end Highlighter
