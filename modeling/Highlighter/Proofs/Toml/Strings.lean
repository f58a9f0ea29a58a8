import Highlighter.Proofs.Text.Hex
import Highlighter.Toml.Printer

/-!
# Strings are read as they were written

A string is written in one of four forms, and each of them is read back (`readString_stringText`).
The two basic forms can write every text, since what may not stand in them is escaped. The two
literal forms can write the texts for which they are chosen. Quotes need care where they meet the
closing quotes: up to two may stand there, so a string of several lines is read back only if no
quote follows it.
-/

namespace Highlighter.Toml

/-! ### Escapes -/

section Escapes

variable {c : Char}

theorem isPlain_iff : isPlain c = true ↔ isControl c = false ∧ c ≠ '\n' := by
  simp [isPlain]

/-- A character of four hexadecimal digits is read as it was written. -/
theorem codePoint?_digits (fits : c.toNat < 16 ^ 4) :
    codePoint? (Hex.digits 4 c.toNat) = some c := by
  have valid : c.toNat.isValidChar := c.valid
  rw [codePoint?, Hex.value?_digits fits, Option.bind_some, if_pos valid, Char.ofNat_toNat]

/-- The code point of a control character has four hexadecimal digits at most. -/
theorem toNat_lt_of_isControl (control : isControl c = true) : c.toNat < 16 ^ 4 := by
  simp only [isControl, Bool.or_eq_true, Bool.and_eq_true, decide_eq_true_eq] at control
  omega

/-- An escape by code point is read as the character. -/
theorem readBasic_codePoint (fits : c.toNat < 16 ^ 4) (rest : List Char) :
    readBasic ('\\' :: 'u' :: Hex.digits 4 c.toNat ++ rest) = prepend c (readBasic rest) := by
  have read : readBasic ('\\' :: 'u' :: Hex.digits 4 c.toNat ++ rest) =
      (codePoint? (Hex.digits 4 c.toNat)).bind fun e => prepend e (readBasic rest) :=
    rfl
  rw [read, codePoint?_digits fits, Option.bind_some]

/-- An escape by code point is read as the character, also in several lines. -/
theorem readBasicLines_codePoint (fits : c.toNat < 16 ^ 4) (rest : List Char) :
    readBasicLines false ('\\' :: 'u' :: Hex.digits 4 c.toNat ++ rest) =
      prepend c (readBasicLines false rest) := by
  have read : readBasicLines false ('\\' :: 'u' :: Hex.digits 4 c.toNat ++ rest) =
      (codePoint? (Hex.digits 4 c.toNat)).bind fun e => prepend e (readBasicLines false rest) :=
    rfl
  rw [read, codePoint?_digits fits, Option.bind_some]

/-- Every character is plain that is neither a control character nor a newline. -/
theorem isPlain_of_not_isControl (noNewline : c ≠ '\n') (control : isControl c ≠ true) :
    isPlain c = true :=
  isPlain_iff.mpr ⟨Bool.eq_false_iff.mpr control, noNewline⟩

/-- A character in a basic string is read as it was written. -/
theorem readBasic_escaped (noNewline : c ≠ '\n') (noQuote : c ≠ '"') (rest : List Char) :
    readBasic (escaped c ++ rest) = prepend c (readBasic rest) := by
  unfold escaped
  split
  iterate 5 rfl
  next noBackslash =>
    split
    next control => exact readBasic_codePoint (toNat_lt_of_isControl control) rest
    next control =>
      have plain := isPlain_of_not_isControl noNewline control
      simp_all [readBasic]

/-- An escape of one letter is read as the character that it stands for. -/
theorem readBasicLines_escape {letter : Char} (stands : simpleEscape? letter = some c)
    (rest : List Char) :
    readBasicLines false ('\\' :: letter :: rest) = prepend c (readBasicLines false rest) := by
  have notPoint : letter ≠ 'u' ∧ letter ≠ 'U' := by
    constructor <;> rintro rfl <;> simp [simpleEscape?] at stands
  rw [readBasicLines.eq_def]
  split <;> grind

/-- A plain character of several lines is read as it is. -/
theorem readBasicLines_plain (plain : isPlain c = true) (noBackslash : c ≠ '\\')
    (noQuote : c ≠ '"') (rest : List Char) :
    readBasicLines false (c :: rest) = prepend c (readBasicLines false rest) := by
  have noLineEnd : c ≠ '\r' ∧ c ≠ '\n' := by
    constructor <;> rintro rfl <;> simp [isPlain, isControl] at plain
  rw [readBasicLines.eq_def]
  split <;> grind

/-- A character in a basic string of several lines is read as it was written. -/
theorem readBasicLines_escaped (noNewline : c ≠ '\n') (noQuote : c ≠ '"') (rest : List Char) :
    readBasicLines false (escaped c ++ rest) = prepend c (readBasicLines false rest) := by
  unfold escaped
  split
  iterate 5 exact readBasicLines_escape rfl rest
  next noBackslash =>
    split
    next control => exact readBasicLines_codePoint (toNat_lt_of_isControl control) rest
    next control =>
      exact readBasicLines_plain (isPlain_of_not_isControl noNewline control) noBackslash noQuote
        rest

/-- What is written for a character begins neither with a quote nor with an end of a line. -/
theorem head?_escaped (noNewline : c ≠ '\n') (noQuote : c ≠ '"') (rest : List Char) :
    (escaped c ++ rest).head? ≠ some '"' ∧ (escaped c ++ rest).head? ≠ some '\n' ∧
      (escaped c ++ rest).head? ≠ some '\r' := by
  unfold escaped
  split
  iterate 5 simp
  split <;> simp_all

end Escapes

variable {content rest : List Char}

@[simp] theorem prepend_some (c : Char) :
    prepend c (some (content, rest)) = some (c :: content, rest) := rfl

/-! ### Strings on one line -/

/-- Every text is read back from a basic string on one line. -/
theorem readBasic_escapeLine (content rest : List Char) :
    readBasic (escapeLine content ++ '"' :: rest) = some (content, rest) := by
  induction content with
  | nil => rfl
  | cons c others inductionHypothesis =>
      by_cases newline : c = '\n'
      · subst newline
        exact congrArg (prepend '\n') inductionHypothesis
      · by_cases quote : c = '"'
        · subst quote
          exact congrArg (prepend '"') inductionHypothesis
        · rw [escapeLine.eq_4 c others newline quote, List.append_assoc,
            readBasic_escaped newline quote, inductionHypothesis, prepend_some]

/-- A text of plain characters without single quotes is read back from a literal string. -/
theorem readLiteral_append (plain : ∀ c ∈ content, isPlain c = true) (noQuote : '\'' ∉ content)
    (rest : List Char) : readLiteral (content ++ '\'' :: rest) = some (content, rest) := by
  induction content with
  | nil => rfl
  | cons c others inductionHypothesis =>
      obtain ⟨first, later⟩ := List.forall_mem_cons.mp plain
      rw [List.mem_cons, not_or] at noQuote
      have notQuote : c ≠ '\'' := Ne.symm noQuote.1
      simp [readLiteral, first, inductionHypothesis later noQuote.2]

/-! ### Basic strings of several lines -/

/-- A quote that is not the first of three belongs to the string. -/
theorem readBasicLines_quote (inner : ¬['"', '"'] <+: rest) :
    readBasicLines false ('"' :: rest) = prepend '"' (readBasicLines false rest) := by
  have plain : isPlain '"' = true := by decide
  rw [readBasicLines.eq_def]
  split <;> simp_all
  grind

/-- Up to two quotes behind which no other stands belong to the string. -/
theorem readBasicLines_replicate {quotes : Nat} (few : quotes ≤ 2) {text : List Char}
    (behind : text.head? ≠ some '"') (read : readBasicLines false text = some (content, rest)) :
    readBasicLines false (List.replicate quotes '"' ++ text) =
      some (List.replicate quotes '"' ++ content, rest) := by
  have one : ¬['"', '"'] <+: text := by
    rintro ⟨later, rfl⟩
    simp at behind
  have two : ¬['"', '"'] <+: '"' :: text := by
    rintro ⟨later, same⟩
    simp only [List.cons_append, List.cons.injEq] at same
    simp [← same.2] at behind
  rcases quotes with _ | _ | _ | more
  · exact read
  · simp [readBasicLines_quote one, read]
  · simp [List.replicate_succ, readBasicLines_quote two, readBasicLines_quote one, read]
  · omega

/-- Three quotes end the string; up to two more that stand before them belong to it. -/
theorem readBasicLines_close {quotes : Nat} (few : quotes ≤ 2) (behind : rest.head? ≠ some '"') :
    readBasicLines false (List.replicate quotes '"' ++ '"' :: '"' :: '"' :: rest) =
      some (List.replicate quotes '"', rest) := by
  rcases quotes with _ | _ | _ | more
  · rw [readBasicLines.eq_def]
    simp only [List.replicate, List.nil_append]
    split <;> simp_all
    grind
  · rw [readBasicLines.eq_def]
    simp only [List.replicate, List.cons_append, List.nil_append]
    split <;> simp_all
    all_goals grind
  · rfl
  · omega

/-- Every text is read back from a basic string of several lines. The quotes right before it, of
which the escapes take account, are read along with it. -/
theorem readBasicLines_escapeLines {quotes : Nat} (few : quotes ≤ 2) (content : List Char)
    (behind : rest.head? ≠ some '"') :
    readBasicLines false
        (List.replicate quotes '"' ++ (escapeLines quotes content ++ '"' :: '"' :: '"' :: rest)) =
      some (List.replicate quotes '"' ++ content, rest) := by
  induction content generalizing quotes with
  | nil => simpa [escapeLines] using readBasicLines_close few behind
  | cons c others inductionHypothesis =>
      have later := inductionHypothesis (Nat.zero_le 2)
      rw [List.replicate_zero, List.nil_append, List.nil_append] at later
      by_cases newline : c = '\n'
      · subst newline
        refine readBasicLines_replicate few (by simp [escapeLines]) ?_
        exact congrArg (prepend '\n') later
      · by_cases quote : c = '"'
        · subst quote
          by_cases third : quotes = 2
          · refine readBasicLines_replicate few (by simp [escapeLines, third]) ?_
            rw [escapeLines, if_pos third, List.cons_append, List.cons_append,
              readBasicLines_escape rfl, later, prepend_some]
          · have stillFew : quotes + 1 ≤ 2 := by omega
            have next := inductionHypothesis stillFew
            rw [escapeLines, if_neg third]
            simpa [List.replicate_succ'] using next
        · rw [escapeLines.eq_4 quotes c others newline quote, List.append_assoc]
          refine readBasicLines_replicate few (head?_escaped newline quote _).1 ?_
          rw [readBasicLines_escaped newline quote, later, prepend_some]

/-! ### Literal strings of several lines -/

/-- Where no character stands three times in a row, none does behind the first character. -/
theorem hasTriple_of_cons {c first : Char} {text : List Char}
    (single : hasTriple c (first :: text) = false) : hasTriple c text = false := by
  match text with
  | [] | [_] => rfl
  | second :: third :: others =>
      rw [hasTriple, Bool.or_eq_false_iff] at single
      exact single.2

/-- A single quote that is not the first of three belongs to the string. -/
theorem readLiteralLines_quote (inner : ¬['\'', '\''] <+: rest) :
    readLiteralLines ('\'' :: rest) = prepend '\'' (readLiteralLines rest) := by
  have plain : isPlain '\'' = true := by decide
  rw [readLiteralLines.eq_def]
  split <;> simp_all
  grind

/-- A plain character belongs to the string. -/
theorem readLiteralLines_plain {c : Char} (plain : isPlain c = true) (noQuote : c ≠ '\'')
    (rest : List Char) : readLiteralLines (c :: rest) = prepend c (readLiteralLines rest) := by
  have noLineEnd : c ≠ '\r' ∧ c ≠ '\n' := by
    constructor <;> rintro rfl <;> simp [isPlain, isControl] at plain
  rw [readLiteralLines.eq_def]
  split <;> grind

/-- Three single quotes end the string; up to two more that stand before them belong to it. -/
theorem readLiteralLines_close {quotes : Nat} (few : quotes ≤ 2) (behind : rest.head? ≠ some '\'') :
    readLiteralLines (List.replicate quotes '\'' ++ '\'' :: '\'' :: '\'' :: rest) =
      some (List.replicate quotes '\'', rest) := by
  rcases quotes with _ | _ | _ | more
  · rw [readLiteralLines.eq_def]
    simp only [List.replicate, List.nil_append]
    split <;> simp_all
    grind
  · rw [readLiteralLines.eq_def]
    simp only [List.replicate, List.cons_append, List.nil_append]
    split <;> simp_all
    all_goals grind
  · rfl
  · omega

/-- A text without control characters and without three single quotes in a row is read back from a
literal string of several lines. -/
theorem readLiteralLines_append (readable : ∀ c ∈ content, isControl c = false)
    (single : hasTriple '\'' content = false) (behind : rest.head? ≠ some '\'') :
    readLiteralLines (content ++ '\'' :: '\'' :: '\'' :: rest) = some (content, rest) := by
  induction content with
  | nil => exact readLiteralLines_close (Nat.zero_le 2) behind
  | cons c others inductionHypothesis =>
      obtain ⟨first, later⟩ := List.forall_mem_cons.mp readable
      have read := inductionHypothesis later (hasTriple_of_cons single)
      by_cases newline : c = '\n'
      · subst newline
        exact congrArg (prepend '\n') read
      · by_cases quote : c = '\''
        · subst quote
          -- One or two quotes at the end are read along with the closing ones.
          match others with
          | [] => exact readLiteralLines_close (show 1 ≤ 2 by decide) behind
          | [second] =>
              by_cases last : second = '\''
              · subst last
                exact readLiteralLines_close (Nat.le_refl 2) behind
              · have inner : ¬['\'', '\''] <+: [second] ++ '\'' :: '\'' :: '\'' :: rest := by
                  rintro ⟨text, same⟩
                  simp only [List.cons_append, List.cons.injEq] at same
                  exact last same.1.symm
                rw [List.cons_append, readLiteralLines_quote inner, read, prepend_some]
          | second :: third :: further =>
              have inner : ¬['\'', '\''] <+:
                  second :: third :: further ++ '\'' :: '\'' :: '\'' :: rest := by
                rintro ⟨text, same⟩
                simp only [List.cons_append, List.cons.injEq] at same
                simp [hasTriple, ← same.1, ← same.2.1] at single
              rw [List.cons_append, readLiteralLines_quote inner, read, prepend_some]
        · have plain := isPlain_iff.mpr ⟨first, newline⟩
          rw [List.cons_append, readLiteralLines_plain plain quote, read, prepend_some]

/-! ### Strings in any form -/

section AnyForm

variable {text : List Char}

/-- A text that does not begin with an end of a line keeps its first character. -/
theorem dropFirstNewline_eq_self (noNewline : text.head? ≠ some '\n')
    (noReturn : text.head? ≠ some '\r') : dropFirstNewline text = text := by
  have nothing : readNewline text = none := by
    rw [readNewline.eq_def]
    split <;> simp_all
  rw [dropFirstNewline, nothing, Option.getD_none]

/-- The newline behind the opening quotes of a text with newlines is not part of the text, and a
text without newlines loses nothing. -/
theorem dropFirstNewline_openingNewline
    (first : '\n' ∉ content → text.head? ≠ some '\n' ∧ text.head? ≠ some '\r') :
    dropFirstNewline (openingNewline content ++ text) = text := by
  rw [openingNewline]
  split
  next => rfl
  next without =>
    obtain ⟨noNewline, noReturn⟩ := first (by simpa using without)
    exact dropFirstNewline_eq_self noNewline noReturn

theorem readString_basicLine (content : List Char) (behind : rest.head? ≠ some '"') :
    readString (basicLine content ++ rest) = some (String.ofList content, rest) := by
  have opening : ∀ later, escapeLine content ++ '"' :: rest ≠ '"' :: '"' :: later := by
    intro later same
    cases content with
    | nil => simp_all [escapeLine]
    | cons c others =>
        by_cases newline : c = '\n'
        · simp [newline, escapeLine] at same
        · by_cases quote : c = '"'
          · simp [quote, escapeLine] at same
          · rw [escapeLine.eq_4 c others newline quote, List.append_assoc] at same
            exact (head?_escaped newline quote _).1 (by rw [same]; rfl)
  have read := readBasic_escapeLine content rest
  simp only [basicLine, List.cons_append, List.append_assoc, List.nil_append]
  generalize escapeLine content ++ '"' :: rest = written at opening read
  rw [readString, read, Option.map_some]
  exact opening

theorem readString_literalLine (plain : ∀ c ∈ content, isPlain c = true) (noQuote : '\'' ∉ content)
    (behind : rest.head? ≠ some '\'') :
    readString (literalLine content ++ rest) = some (String.ofList content, rest) := by
  have opening : ∀ later, content ++ '\'' :: rest ≠ '\'' :: '\'' :: later := by
    intro later same
    cases content <;> simp_all
  have read := readLiteral_append plain noQuote rest
  simp only [literalLine, List.cons_append, List.append_assoc, List.nil_append]
  generalize content ++ '\'' :: rest = written at opening read
  rw [readString, read, Option.map_some]
  exact opening

theorem readString_basicLines (content : List Char) (behind : rest.head? ≠ some '"') :
    readString (basicLines content ++ rest) = some (String.ofList content, rest) := by
  have first : '\n' ∉ content →
      (escapeLines 0 content ++ '"' :: '"' :: '"' :: rest).head? ≠ some '\n' ∧
        (escapeLines 0 content ++ '"' :: '"' :: '"' :: rest).head? ≠ some '\r' := by
    intro without
    cases content with
    | nil => simp [escapeLines]
    | cons c others =>
        rw [List.mem_cons, not_or] at without
        by_cases quote : c = '"'
        · simp [quote, escapeLines]
        · rw [escapeLines.eq_4 0 c others (Ne.symm without.1) quote, List.append_assoc]
          exact (head?_escaped (Ne.symm without.1) quote _).2
  have read := readBasicLines_escapeLines (Nat.zero_le 2) content behind
  rw [List.replicate_zero, List.nil_append, List.nil_append] at read
  simp only [basicLines, List.cons_append, List.append_assoc, List.nil_append]
  rw [readString]
  simp only [dropFirstNewline_openingNewline first, read, Option.map_some]

theorem readString_literalLines (readable : ∀ c ∈ content, isControl c = false)
    (single : hasTriple '\'' content = false) (behind : rest.head? ≠ some '\'') :
    readString (literalLines content ++ rest) = some (String.ofList content, rest) := by
  have first : '\n' ∉ content →
      (content ++ '\'' :: '\'' :: '\'' :: rest).head? ≠ some '\n' ∧
        (content ++ '\'' :: '\'' :: '\'' :: rest).head? ≠ some '\r' := by
    intro without
    cases content with
    | nil => simp
    | cons c others =>
        have noReturn : c ≠ '\r' := by
          rintro rfl
          exact absurd (readable '\r' List.mem_cons_self) (by decide)
        rw [List.mem_cons, not_or] at without
        exact ⟨by simpa using Ne.symm without.1, by simpa using noReturn⟩
  have read := readLiteralLines_append readable single behind
  simp only [literalLines, List.cons_append, List.append_assoc, List.nil_append]
  rw [readString]
  simp only [dropFirstNewline_openingNewline first, read, Option.map_some]

/-- Every string is read back, whatever form is chosen for it, if no quote follows it. -/
theorem readString_stringText (value : String) (noQuote : rest.head? ≠ some '"')
    (noSingle : rest.head? ≠ some '\'') :
    readString (stringText value ++ rest) = some (value, rest) := by
  have whole : String.ofList value.toList = value := String.ofList_toList
  have basic := readString_basicLine value.toList noQuote
  have basics := readString_basicLines value.toList noQuote
  rw [whole] at basic basics
  rw [stringText]
  split
  next => exact basic
  next =>
    split
    next literal =>
      simp only [Bool.and_eq_true, Bool.not_eq_true', List.any_eq_false, List.contains_eq_mem,
        decide_eq_false_iff_not, Bool.not_eq_true] at literal
      obtain ⟨⟨readable, noQuoteInside⟩, noNewline⟩ := literal
      have plain : ∀ c ∈ value.toList, isPlain c = true := fun c member =>
        isPlain_iff.mpr ⟨readable c member, fun newline => noNewline (newline ▸ member)⟩
      rw [readString_literalLine plain noQuoteInside noSingle, whole]
    next =>
      split
      next => exact basics
      next =>
        split
        next literal =>
          simp only [Bool.and_eq_true, Bool.not_eq_true', List.any_eq_false,
            Bool.not_eq_true] at literal
          rw [readString_literalLines literal.1 literal.2 noSingle, whole]
        next =>
          split
          next => exact basic
          next => exact basics

end AnyForm

end Highlighter.Toml
