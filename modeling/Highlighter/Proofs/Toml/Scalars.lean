import Highlighter.Proofs.Toml.Strings
import Highlighter.Toml.Document
import Mathlib.Data.Nat.Digits.Lemmas

/-!
# Keys and scalars are read as they were written

A scalar is a string, a whole number of 64 bits or a boolean. On a line of its own each of them is
read back (`readValue_toText`), and so is the key before it (`readKey_keyPartText`). A number also
begins as dates and times do, so the readers of those have to give up on it.
-/

namespace Highlighter.Toml

variable {rest : List Char}

/-! ### Keys -/

/-- A character that a key may begin with. -/
def BeginsKey (c : Char) : Prop :=
  c = '"' ∨ c = '\'' ∨ isBareKey c = true

theorem BeginsKey.of_ne {c : Char} (begins : BeginsKey c) (other : Char)
    (notQuote : other ≠ '"') (notSingle : other ≠ '\'') (notBare : isBareKey other = false) :
    c ≠ other := by
  rintro rfl
  rcases begins with quote | single | bare
  · exact notQuote quote
  · exact notSingle single
  · rw [notBare] at bare
    exact absurd bare (by decide)

/-- A key begins with a quote or with a character of bare keys. -/
theorem exists_keyPartText_eq_cons (part : String) :
    ∃ c later, keyPartText part = c :: later ∧ BeginsKey c := by
  rw [keyPartText]
  split
  next bare =>
    simp only [Bool.and_eq_true, Bool.not_eq_true', List.isEmpty_eq_false_iff,
      List.all_eq_true] at bare
    obtain ⟨c, later, shape⟩ := List.exists_cons_of_ne_nil bare.1
    exact ⟨c, later, shape, .inr (.inr (bare.2 c (by rw [shape]; exact List.mem_cons_self)))⟩
  next =>
    split
    next => exact ⟨_, _, rfl, .inl rfl⟩
    next =>
      split
      next => exact ⟨_, _, rfl, .inr (.inl rfl)⟩
      next => exact ⟨_, _, rfl, .inl rfl⟩

theorem readKeyPart_basicLine (content rest : List Char) :
    readKeyPart (basicLine content ++ rest) = some (String.ofList content, rest) := by
  simp only [basicLine, List.cons_append, List.append_assoc, List.nil_append]
  rw [readKeyPart, readBasic_escapeLine, Option.map_some]

theorem readKeyPart_literalLine {content : List Char} (plain : ∀ c ∈ content, isPlain c = true)
    (noQuote : '\'' ∉ content) (rest : List Char) :
    readKeyPart (literalLine content ++ rest) = some (String.ofList content, rest) := by
  simp only [literalLine, List.cons_append, List.append_assoc, List.nil_append]
  rw [readKeyPart, readLiteral_append plain noQuote, Option.map_some]

/-- A bare key ends where its characters do. -/
theorem readKeyPart_bare {content : List Char} (nonempty : content ≠ [])
    (bare : ∀ c ∈ content, isBareKey c = true) (rest : List Char) :
    readKeyPart (content ++ ' ' :: rest) = some (String.ofList content, ' ' :: rest) := by
  obtain ⟨c, later, rfl⟩ := List.exists_cons_of_ne_nil nonempty
  have notQuote : c ≠ '"' ∧ c ≠ '\'' := by
    constructor <;> rintro rfl <;> exact absurd (bare _ List.mem_cons_self) (by decide)
  have front : (c :: later ++ ' ' :: rest).takeWhile isBareKey = c :: later := by
    rw [List.takeWhile_append_of_pos bare]
    simp [isBareKey]
  have behind : (c :: later ++ ' ' :: rest).dropWhile isBareKey = ' ' :: rest := by
    rw [List.dropWhile_append_of_pos bare]
    simp [isBareKey]
  rw [readKeyPart, front, behind]
  · simp
  · intro text same
    exact notQuote.1 (List.cons.inj same).1
  · intro text same
    exact notQuote.2 (List.cons.inj same).1

/-- Every part of a key is read back, whatever form is chosen for it. -/
theorem readKeyPart_keyPartText (part : String) (rest : List Char) :
    readKeyPart (keyPartText part ++ ' ' :: rest) = some (part, ' ' :: rest) := by
  have whole : String.ofList part.toList = part := String.ofList_toList
  have basic := readKeyPart_basicLine part.toList (' ' :: rest)
  rw [whole] at basic
  rw [keyPartText]
  split
  next bare =>
    simp only [Bool.and_eq_true, Bool.not_eq_true', List.isEmpty_eq_false_iff,
      List.all_eq_true] at bare
    rw [readKeyPart_bare bare.1 bare.2, whole]
  next =>
    split
    next => exact basic
    next =>
      split
      next literal =>
        simp only [Bool.and_eq_true, Bool.not_eq_true', List.any_eq_false, Bool.or_eq_true,
          not_or, List.contains_eq_mem, decide_eq_false_iff_not, Bool.not_eq_true,
          beq_iff_eq] at literal
        have plain : ∀ c ∈ part.toList, isPlain c = true := fun c member =>
          isPlain_iff.mpr (literal.1 c member)
        rw [readKeyPart_literalLine plain literal.2, whole]
      next => exact basic

/-- A key of one part is read back up to the equals sign behind it. -/
theorem readKey_keyPartText (key : String) (rest : List Char) :
    readKey (keyPartText key ++ ' ' :: '=' :: rest) = some ([key], '=' :: rest) := by
  obtain ⟨c, later, shape, begins⟩ := exists_keyPartText_eq_cons key
  have notBlank : isBlank c = false := by
    have noSpace := begins.of_ne ' ' (by decide) (by decide) (by decide)
    have noTab := begins.of_ne '\t' (by decide) (by decide) (by decide)
    simp [isBlank, noSpace, noTab]
  have start : skipBlanks (keyPartText key ++ ' ' :: '=' :: rest) =
      keyPartText key ++ ' ' :: '=' :: rest := by
    simp [shape, skipBlanks, notBlank]
  have behind : skipBlanks (' ' :: '=' :: rest) = '=' :: rest := by
    simp [skipBlanks, isBlank]
  rw [readKey, nestingLimit, readKeyParts, start, readKeyPart_keyPartText, Option.bind_some]
  simp [behind]

/-! ### Whole numbers -/

section Digits

variable {digits : List Char}

/-- A digit is no letter, no sign and no blank. -/
theorem ne_of_isDigit {c other : Char} (digit : c.isDigit = true)
    (notDigit : other.isDigit = false) : c ≠ other := by
  rintro rfl
  rw [digit] at notDigit
  exact absurd notDigit (by decide)

/-- The digits of a number but zero begin with another digit. -/
theorem head?_toDigits {n : Nat} (positive : 0 < n) :
    (Nat.toDigits 10 n).head? ≠ some '0' := by
  induction n using Nat.strongRecOn with
  | ind n inductionHypothesis =>
      by_cases small : n < 10
      · rw [Nat.toDigits_of_lt_base small]
        have nonzero : ∀ n < 10, 0 < n → Nat.digitChar n ≠ '0' := by decide
        simpa using nonzero n small positive
      · rw [Nat.toDigits_of_base_le (by decide) (Nat.not_lt.mp small), List.head?_append]
        have quotient : 0 < n / 10 := Nat.div_pos (Nat.not_lt.mp small) (by decide)
        obtain ⟨first, others, shape⟩ :=
          List.exists_cons_of_ne_nil (Nat.toDigits_ne_nil (n := n / 10) (b := 10))
        have earlier := inductionHypothesis (n / 10) (by omega) quotient
        rw [shape] at earlier ⊢
        simpa using earlier

theorem decimalValue_toDigits (n : Nat) : decimalValue (Nat.toDigits 10 n) = n := by
  have value := Nat.ofDigitChars_toDigits (b := 10) (n := n) (by decide) (by decide)
  rw [Nat.ofDigitChars_eq_foldl] at value
  simpa [decimalValue, Nat.mul_comm] using value

/-- More digits are read up to the end of the line. -/
theorem readMoreDigits_append (all : ∀ c ∈ digits, c.isDigit = true) (rest : List Char) :
    readMoreDigits Char.isDigit (digits ++ '\n' :: rest) = some (digits, '\n' :: rest) := by
  induction digits with
  | nil => simp [readMoreDigits]
  | cons c others inductionHypothesis =>
      obtain ⟨digit, later⟩ := List.forall_mem_cons.mp all
      have notUnderscore : c ≠ '_' := ne_of_isDigit digit (by decide)
      rw [List.cons_append, readMoreDigits, if_pos digit, inductionHypothesis later, prepend_some]
      exact fun _ _ same => absurd same notUnderscore

/-- A number is read up to the end of the line. -/
theorem readWhole_toDigits (n : Nat) (rest : List Char) :
    readWhole (Nat.toDigits 10 n ++ '\n' :: rest) = some (Nat.toDigits 10 n, '\n' :: rest) := by
  rcases Nat.eq_zero_or_pos n with rfl | positive
  · rfl
  · have all : ∀ c ∈ Nat.toDigits 10 n, c.isDigit = true := fun c member =>
      Nat.isDigit_of_mem_toDigits (by decide) (by decide) member
    have first := head?_toDigits positive
    obtain ⟨c, others, shape⟩ :=
      List.exists_cons_of_ne_nil (Nat.toDigits_ne_nil (n := n) (b := 10))
    rw [shape] at all first ⊢
    obtain ⟨digit, later⟩ := List.forall_mem_cons.mp all
    have notZero : c ≠ '0' := by simpa using first
    rw [List.cons_append, readWhole, readDigitRun, if_pos digit, readMoreDigits_append later,
      prepend_some]
    exact fun _ same => notZero (List.cons.inj same).1

/-- Behind some digits of a number stands another digit or the end of the line. -/
theorem readChar_after_digits (all : ∀ c ∈ digits, c.isDigit = true) (separator : Char)
    (notDigit : separator.isDigit = false) (notNewline : separator ≠ '\n') {count value : Nat}
    {text : List Char} (read : readDigits count (digits ++ '\n' :: rest) = some (value, text)) :
    readChar separator text = none := by
  simp only [readDigits] at read
  split at read
  next taken =>
    obtain rfl : (digits ++ '\n' :: rest).drop count = text := by
      simpa using (Prod.mk.inj (Option.some.inj read)).2
    -- As many digits cannot be had across the end of the line.
    have enough : count ≤ digits.length := by
      by_contra more
      have newline : '\n' ∈ (digits ++ '\n' :: rest).take count := by
        rw [List.take_append, List.mem_append]
        refine .inr ?_
        obtain ⟨further, same⟩ : ∃ further, count - digits.length = further + 1 :=
          ⟨count - digits.length - 1, by omega⟩
        rw [same, List.take_succ_cons]
        exact List.mem_cons_self
      have digit := List.all_eq_true.mp taken.2 '\n' newline
      exact absurd digit (by decide)
    rw [List.drop_append_of_le_length enough]
    cases shape : digits.drop count with
    | nil => simpa [readChar] using Ne.symm notNewline
    | cons c others =>
        have digit : c.isDigit = true :=
          all c (List.mem_of_mem_drop (shape ▸ List.mem_cons_self))
        simpa [readChar] using ne_of_isDigit digit notDigit
  next => simp at read

/-- A number on a line is no date and no time. -/
theorem readDatetime_digits (all : ∀ c ∈ digits, c.isDigit = true) (rest : List Char) :
    readDatetime (digits ++ '\n' :: rest) = none := by
  have noDate : readDate (digits ++ '\n' :: rest) = none := by
    rw [readDate]
    cases read : readDigits 4 (digits ++ '\n' :: rest) with
    | none => rfl
    | some year =>
        have separator := readChar_after_digits all '-' (by decide) (by decide) read
        simp [separator]
  have noTime : readTime (digits ++ '\n' :: rest) = none := by
    rw [readTime, readBounded]
    cases read : readDigits 2 (digits ++ '\n' :: rest) with
    | none => rfl
    | some hour =>
        have separator := readChar_after_digits all ':' (by decide) (by decide) read
        rw [Option.filter_some]
        split
        simp [separator]
  rw [readDatetime, noDate, noTime]
  rfl

/-- Nothing that begins with a minus is a date or a time. -/
theorem readDatetime_minus (text : List Char) : readDatetime ('-' :: text) = none := by
  have noDigits : ∀ count, readDigits (count + 1) ('-' :: text) = none := by
    intro count
    simp [readDigits]
  rw [readDatetime, readDate, readTime, readBounded, noDigits 3, noDigits 1]
  rfl

/-- A whole number begins with a minus or a digit, and goes on with digits. -/
theorem exists_integerText_eq_cons (value : Int) :
    ∃ c later, integerText value = c :: later ∧ (c = '-' ∨ c.isDigit = true) ∧
      ∀ d ∈ later, d.isDigit = true := by
  have all : ∀ c ∈ Nat.toDigits 10 value.natAbs, c.isDigit = true := fun c member =>
    Nat.isDigit_of_mem_toDigits (by decide) (by decide) member
  rw [integerText]
  split
  next => exact ⟨'-', _, rfl, .inl rfl, all⟩
  next =>
    obtain ⟨c, later, shape⟩ :=
      List.exists_cons_of_ne_nil (Nat.toDigits_ne_nil (n := value.natAbs) (b := 10))
    rw [shape] at all ⊢
    obtain ⟨digit, later⟩ := List.forall_mem_cons.mp all
    exact ⟨c, _, rfl, .inr digit, later⟩

/-- The sign of a whole number is read off, and its digits are left. -/
theorem readSign_integerText (value : Int) (rest : List Char) :
    readSign (integerText value ++ rest) =
      (decide (value < 0), Nat.toDigits 10 value.natAbs ++ rest) := by
  rw [integerText]
  by_cases negative : value < 0
  · simp [negative, readSign]
  · have all : ∀ c ∈ Nat.toDigits 10 value.natAbs, c.isDigit = true := fun c member =>
      Nat.isDigit_of_mem_toDigits (by decide) (by decide) member
    obtain ⟨c, later, shape⟩ :=
      List.exists_cons_of_ne_nil (Nat.toDigits_ne_nil (n := value.natAbs) (b := 10))
    have digit := all c (by rw [shape]; exact List.mem_cons_self)
    have noPlus : c ≠ '+' := ne_of_isDigit digit (by decide)
    have noMinus : c ≠ '-' := ne_of_isDigit digit (by decide)
    simp [negative, shape, readSign, noPlus, noMinus]

/-- A whole number is no infinity and no undefined number. -/
theorem readSpecial_integerText (value : Int) (rest : List Char) :
    readSpecial (integerText value ++ rest) = none := by
  have all : ∀ c ∈ Nat.toDigits 10 value.natAbs, c.isDigit = true := fun c member =>
    Nat.isDigit_of_mem_toDigits (by decide) (by decide) member
  obtain ⟨c, later, shape⟩ :=
    List.exists_cons_of_ne_nil (Nat.toDigits_ne_nil (n := value.natAbs) (b := 10))
  have digit := all c (by rw [shape]; exact List.mem_cons_self)
  have noI : c ≠ 'i' := ne_of_isDigit digit (by decide)
  have noN : c ≠ 'n' := ne_of_isDigit digit (by decide)
  simp [readSpecial, readSign_integerText, shape, noI, noN]

theorem readDecimal_integerText {value : Int} (word : isWord value = true) (rest : List Char) :
    readDecimal (integerText value ++ '\n' :: rest) = some (.integer value, '\n' :: rest) := by
  have signed : (if decide (value < 0) = true then -(value.natAbs : Int) else value.natAbs) =
      value := by
    by_cases negative : value < 0
    · rw [if_pos (decide_eq_true negative)]
      omega
    · rw [if_neg (by simpa using negative)]
      omega
  have noFraction : readFraction ('\n' :: rest) = some ([], '\n' :: rest) := rfl
  have noExponent : readExponent ('\n' :: rest) = some (none, '\n' :: rest) := by
    simp [readExponent]
  rw [readDecimal]
  simp only [readSign_integerText, readWhole_toDigits, noFraction, noExponent,
    Option.bind_eq_bind, Option.bind_some, decimalValue_toDigits, signed, word]
  rfl

/-- A whole number is read up to the end of the line. -/
theorem readNumber_integerText {value : Int} (word : isWord value = true) (rest : List Char) :
    readNumber (integerText value ++ '\n' :: rest) = some (.integer value, '\n' :: rest) := by
  obtain ⟨c, later, shape, -, digits⟩ := exists_integerText_eq_cons value
  have noLetter : ∀ letter : Char, letter.isDigit = false → letter ≠ '\n' → ∀ text,
      integerText value ++ '\n' :: rest ≠ '0' :: letter :: text := by
    intro letter notDigit notNewline text same
    rw [shape] at same
    cases later with
    | nil => exact notNewline (by simpa using (List.cons.inj (List.cons.inj same).2).1.symm)
    | cons d others =>
        obtain rfl : d = letter := (List.cons.inj (List.cons.inj same).2).1
        exact ne_of_isDigit (digits d List.mem_cons_self) notDigit rfl
  rw [readNumber.eq_def]
  split
  next text same => exact absurd same (noLetter 'x' (by decide) (by decide) text)
  next text same => exact absurd same (noLetter 'o' (by decide) (by decide) text)
  next text same => exact absurd same (noLetter 'b' (by decide) (by decide) text)
  next => rw [readSpecial_integerText, readDecimal_integerText word, Option.none_or]

/-- No whole number is a date or a time. -/
theorem readDatetime_integerText (value : Int) (rest : List Char) :
    readDatetime (integerText value ++ '\n' :: rest) = none := by
  rw [integerText]
  split
  next => exact readDatetime_minus _
  next =>
    exact readDatetime_digits (fun c member =>
      Nat.isDigit_of_mem_toDigits (by decide) (by decide) member) rest

end Digits

/-! ### Values -/

/-- Strings, whole numbers of 64 bits and booleans. -/
inductive Value.Scalar : Value → Prop where
  | string (text : String) : Scalar (.string text)
  | integer {number : Int} (word : isWord number = true) : Scalar (.integer number)
  | boolean (flag : Bool) : Scalar (.boolean flag)

/-- A string begins with a quote. -/
theorem exists_stringText_eq_cons (value : String) :
    ∃ c later, stringText value = c :: later ∧ (c = '"' ∨ c = '\'') := by
  rw [stringText]
  iterate 5
    split
    next => exact ⟨_, _, rfl, by simp⟩
  exact ⟨_, _, rfl, by simp⟩

/-- A number with nothing else on its line is tried last. -/
theorem readValue_integerText {value : Int} (word : isWord value = true) (rest : List Char) :
    readValue (integerText value ++ '\n' :: rest) = some (.integer value, '\n' :: rest) := by
  have noDatetime := readDatetime_integerText value rest
  have number := readNumber_integerText word rest
  obtain ⟨c, later, shape, begins, -⟩ := exists_integerText_eq_cons value
  have notOther : ∀ other : Char, other.isDigit = false → other ≠ '-' → c ≠ other := by
    rintro other notDigit notMinus rfl
    rcases begins with minus | digit
    · exact notMinus minus
    · exact ne_of_isDigit digit notDigit rfl
  rw [shape, List.cons_append] at noDatetime number ⊢
  have noQuote := notOther '"' (by decide) (by decide)
  have noSingle := notOther '\'' (by decide) (by decide)
  have noBracket := notOther '[' (by decide) (by decide)
  have noBrace := notOther '\x7b' (by decide) (by decide)
  have noTrue := notOther 't' (by decide) (by decide)
  have noFalse := notOther 'f' (by decide) (by decide)
  rw [readValue, readValueWithin.eq_def]
  split <;> simp_all

/-- Every scalar is read up to the end of the line. -/
theorem readValue_toText {value : Value} (scalar : value.Scalar) (rest : List Char) :
    readValue (value.toText ++ '\n' :: rest) = some (value, '\n' :: rest) := by
  cases scalar with
  | string text =>
      have read : readString (stringText text ++ '\n' :: rest) = some (text, '\n' :: rest) :=
        readString_stringText text (by simp) (by simp)
      obtain ⟨c, later, shape, quote⟩ := exists_stringText_eq_cons text
      rw [Value.toText, readValue]
      rw [shape, List.cons_append] at read ⊢
      rcases quote with rfl | rfl
      · rw [readValueWithin, read, Option.map_some]
      · rw [readValueWithin, read, Option.map_some]
  | integer word =>
      rw [Value.toText]
      exact readValue_integerText word rest
  | boolean flag =>
      rw [Value.toText, readValue]
      cases flag <;> rfl

/-- No scalar begins with a blank. -/
theorem skipBlanks_toText {value : Value} (scalar : value.Scalar) (rest : List Char) :
    skipBlanks (value.toText ++ rest) = value.toText ++ rest := by
  suffices begins : ∃ c later, value.toText = c :: later ∧ isBlank c = false by
    obtain ⟨c, later, shape, notBlank⟩ := begins
    simp [shape, skipBlanks, notBlank]
  cases scalar with
  | string text =>
      obtain ⟨c, later, shape, rfl | rfl⟩ := exists_stringText_eq_cons text
      · exact ⟨_, later, by rw [Value.toText, shape], rfl⟩
      · exact ⟨_, later, by rw [Value.toText, shape], rfl⟩
  | @integer number word =>
      obtain ⟨c, later, shape, rfl | digit, -⟩ := exists_integerText_eq_cons number
      · exact ⟨_, later, by rw [Value.toText, shape], rfl⟩
      · have noSpace : c ≠ ' ' := ne_of_isDigit digit (by decide)
        have noTab : c ≠ '\t' := ne_of_isDigit digit (by decide)
        exact ⟨_, later, by rw [Value.toText, shape], by simp [isBlank, noSpace, noTab]⟩
  | boolean flag =>
      rw [Value.toText]
      cases flag <;> exact ⟨_, _, rfl, rfl⟩

end Highlighter.Toml
