import Highlighter.Proofs.Text.Lines
import Highlighter.Proofs.Token.Stream

/-!
# Tokenizers that work line by line

A tokenizer is line-local when the kinds of the characters of a block of lines do not depend on
the lines around the block. `LineLocal.kindAt?_lines` is the form in which two texts are compared
that share a block of lines.
-/

namespace Highlighter

namespace Token

/-- The kind of the lexeme that lies across the place behind the first `place` characters of a
stream: it starts before the place and goes on behind it. -/
def kindAcross? (tokens : List Token) (place : Nat) : Option TokenKind :=
  (holding? tokens place).bind fun (start, token) =>
    if start < place then some token.kind else none

end Token

namespace Tokenizer

open Token Text

/-- The tokenizer gives back every text, and the characters of a block of lines get the kinds that
they get from the block alone. Newlines are left out. -/
structure LineLocal (tokenizer : Tokenizer) : Prop where
  covers : ∀ text, tokenizer.Covers text
  blockKinds : ∀ {before behind : Text} (block : Text), Opens before → Closes behind →
    ∀ {index c}, block[index]? = some c → c ≠ '\n' →
      kindAt? (tokenizer.lex (before ++ block ++ behind)) (before.length + index) =
        kindAt? (tokenizer.lex block) index

/-- The characters of a block of lines get the same kinds in every text that holds the block. -/
theorem LineLocal.kindAt?_lines {tokenizer : Tokenizer} (lineLocal : tokenizer.LineLocal)
    (front block back : List Text) {index : Nat} {c : Char}
    (atIndex : (ofLines block)[index]? = some c) (visible : c ≠ '\n') :
    kindAt? (tokenizer.lex (ofLines (front ++ block ++ back)))
        ((opening front).length + index) =
      kindAt? (tokenizer.lex (ofLines block)) index := by
  have blockLines : block ≠ [] := by
    rintro rfl
    simp [ofLines] at atIndex
  have whole : ofLines (front ++ block ++ back) =
      opening front ++ ofLines block ++ closing back := by
    rw [ofLines_append_eq_closing (by simp [blockLines]),
      ofLines_append_eq_opening front blockLines]
  rw [whole]
  exact lineLocal.blockKinds (ofLines block) (opens_opening front) (closes_closing back) atIndex
    visible

variable {tokenizer : Tokenizer} {old new : Text} {index : Nat} {c : Char}

/-- The characters of the lines that two texts share at the start get the same kinds in both. -/
theorem LineLocal.kindAt?_front (lineLocal : tokenizer.LineLocal)
    {front oldBack newBack : List Text} (oldLines : old = ofLines (front ++ oldBack))
    (newLines : new = ofLines (front ++ newBack)) (inFront : index < (opening front).length)
    (atIndex : new[index]? = some c) (visible : c ≠ '\n') :
    kindAt? (tokenizer.lex old) index = kindAt? (tokenizer.lex new) index := by
  obtain ⟨-, inside⟩ := getElem?_of_lt_length_opening inFront (newLines ▸ atIndex) visible
  have inOld := lineLocal.kindAt?_lines [] front oldBack inside visible
  have inNew := lineLocal.kindAt?_lines [] front newBack inside visible
  rw [opening, List.length_nil, Nat.zero_add, List.nil_append] at inOld inNew
  rw [oldLines, newLines, inOld, inNew]

/-- The characters of the lines that two texts share at the end get the same kinds in both. -/
theorem LineLocal.kindAt?_back (lineLocal : tokenizer.LineLocal)
    {oldFront newFront back : List Text} (oldLines : old = ofLines (oldFront ++ back))
    (newLines : new = ofLines (newFront ++ back))
    (atIndex : new[(opening newFront).length + index]? = some c) (visible : c ≠ '\n') :
    kindAt? (tokenizer.lex old) ((opening oldFront).length + index) =
      kindAt? (tokenizer.lex new) ((opening newFront).length + index) := by
  obtain ⟨-, inside⟩ := getElem?_of_length_opening_le (newLines ▸ atIndex)
  have inOld := lineLocal.kindAt?_lines oldFront back [] inside visible
  have inNew := lineLocal.kindAt?_lines newFront back [] inside visible
  rw [List.append_nil] at inOld inNew
  rw [oldLines, newLines, inOld, inNew]

/-- The tokenizer for text without a grammar is line-local. -/
theorem lineLocal_plainText : plainText.LineLocal where
  covers text := by
    cases text with
    | nil => rfl
    | cons c rest => simp [Covers, plainText]
  blockKinds block opens closes index c atIndex visible := by
    have within := (List.getElem?_eq_some_iff.mp atIndex).1
    have kind : ∀ {text : Text} {offset : Nat}, offset < text.length →
        kindAt? (plainText.lex text) offset = some .text := by
      intro text offset within
      cases text with
      | nil => simp at within
      | cons c rest => simpa [kindAt?, plainText, holding?] using within
    rw [kind within, kind]
    simp only [List.length_append]
    omega

end Tokenizer

end Highlighter
