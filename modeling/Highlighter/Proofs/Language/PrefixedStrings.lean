import Highlighter.Language.Application
import Highlighter.Proofs.Grammar.Regions
import Highlighter.Proofs.Pattern.Delimiters

/-!
# Prefixed strings of Python

A string on one line may have one or two letters in front of its quote. One pattern opens and closes
the region of such a string, so only a quote with letters in front closes it. Its own closing quote
does if the body ends in such letters at a word boundary; otherwise the region goes on to another
prefixed quote or to the end of the line (`Language.prefixed_string_ends_iff`).
-/

namespace Highlighter.Language

open Highlighter.Expr

/-! ### Prefixes -/

/-- The letters that a prefix consists of. -/
def prefixLetters : Text :=
  ['f', 'F', 'r', 'R', 'b', 'B', 'u', 'U']

/-- One or two of the letters that can stand in front of a string. -/
structure StringPrefix (letters : Text) : Prop where
  length : letters.length = 1 ∨ letters.length = 2
  listed : ∀ c ∈ letters, c ∈ prefixLetters

/-- Marks behind a prefix that begins at a word boundary. -/
def prefixed (marks : Text) : Expr :=
  .seq (.edge .wordBoundary)
    (.seq (.repetition (.char (.oneOf 'f' prefixLetters.tail)) 1 (some 2) true) (.spelled marks))

/-- The body ends in letters that can stand in front of a string, with no further letter or other
word character in front of them. -/
def EndsInPrefix (body : Text) : Prop :=
  ∃ front letters, body = front ++ letters ∧ StringPrefix letters ∧
    ∀ c ∈ front.getLast?, Unicode.isWord c = false

variable {start stop : Cursor} {letters marks : Text}

namespace StringPrefix

theorem nonempty (isPrefix : StringPrefix letters) : letters ≠ [] := by
  rintro rfl
  rcases isPrefix.length with single | double <;> cases ‹_›

theorem isWord (isPrefix : StringPrefix letters) {c : Char} (member : c ∈ letters) :
    Unicode.isWord c = true := by
  have words : prefixLetters.all Unicode.isWord = true := by decide +kernel
  exact List.all_eq_true.mp words c (isPrefix.listed c member)

end StringPrefix

/-- A prefix begins at a word boundary exactly if no word character stands in front of it. -/
theorem holds_wordBoundary_iff {before : Option Char} (isPrefix : StringPrefix letters)
    (rest : Text) : Edge.wordBoundary.holds before (letters ++ rest).head? = true ↔
      before.any Unicode.isWord = false := by
  obtain ⟨c, others, rfl⟩ := List.exists_cons_of_ne_nil isPrefix.nonempty
  rw [Edge.holds, Edge.atWordBoundary, List.cons_append, List.head?_cons, Option.any_some,
    isPrefix.isWord List.mem_cons_self, bne_iff_ne, Ne, Bool.not_eq_true]

theorem matches_prefixed_iff :
    (prefixed marks).Matches start stop ↔
      start.before.any Unicode.isWord = false ∧ ∃ letters rest, StringPrefix letters ∧
        start.rest = letters ++ (marks ++ rest) ∧
        stop = start.advance (letters.length + marks.length) := by
  constructor
  · rintro ⟨_, ⟨boundary, rfl⟩, _, repeated, marked⟩
    obtain ⟨letters, others, split, ⟨least, most⟩, members, rfl⟩ :=
      matches_repetition_char_iff.mp repeated
    obtain ⟨rest, behind, rfl⟩ := matches_spelled_iff.mp marked
    have isPrefix : StringPrefix letters := {
      length := by
        have upper := most 2 rfl
        omega
      listed := fun c member => CharSet.member_oneOf_iff.mp (members c member) }
    rw [Cursor.rest_advance_of_split split] at behind
    subst behind
    rw [split, holds_wordBoundary_iff isPrefix] at boundary
    exact ⟨boundary, letters, rest, isPrefix, split, Cursor.advance_add _ _ _⟩
  · rintro ⟨boundary, letters, rest, isPrefix, split, rfl⟩
    have behind := Cursor.rest_advance_of_split split
    have counted : 1 ≤ letters.length ∧ ∀ limit ∈ some 2, letters.length ≤ max 1 limit := by
      simp only [Option.mem_def, Option.some.injEq, forall_eq']
      rcases isPrefix.length with single | double <;> omega
    refine ⟨start, ⟨by rwa [split, holds_wordBoundary_iff isPrefix], rfl⟩,
      start.advance letters.length, matches_repetition_char_iff.mpr
        ⟨letters, _, split, counted, fun c member => ?_, rfl⟩,
      matches_spelled_iff.mpr ⟨rest, behind, (Cursor.advance_add _ _ _).symm⟩⟩
    exact CharSet.member_oneOf_iff.mpr (isPrefix.listed c member)

/-! ### The regions -/

/-- The region of a string in triple quotes. -/
def tripleRegion (name : String) (opening : Expr) (quote : Char) : RegionRule :=
  { name, opening := .ofExpr opening, closing := .ofExpr (.spelled [quote, quote, quote])
    kind := ⟨"Literal.String.Doc"⟩ }

/-- The regions of strings in triple quotes. -/
def tripleRegions : List RegionRule :=
  [tripleRegion "prefixed_triple_double" (prefixed ['"', '"', '"']) '"',
    tripleRegion "prefixed_triple_single" (prefixed ['\'', '\'', '\'']) '\'',
    tripleRegion "triple_double" (.spelled ['"', '"', '"']) '"',
    tripleRegion "triple_single" (.spelled ['\'', '\'', '\'']) '\'']

/-- The kind of a string on one line. -/
def stringKind (quote : Char) : TokenKind :=
  if quote = '"' then ⟨"Literal.String.Double"⟩ else ⟨"Literal.String.Single"⟩

/-- The region of a prefixed string on one line. -/
def prefixedRegion (quote : Char) : RegionRule :=
  { name := if quote = '"' then "prefixed_double" else "prefixed_single"
    opening := .ofExpr (prefixed [quote]), closing := .ofExpr (prefixed [quote])
    kind := stringKind quote, escape := some '\\', singleLine := true }

/-- The regions for triple quotes are tried before those of prefixed strings on one line. -/
theorem exists_regions_python : ∃ others,
    python.regions = tripleRegions ++ prefixedRegion '"' :: prefixedRegion '\'' :: others := by
  have prefixedTripleDouble : Pattern.compile? "\\b[fFrRbBuU]\x7b1,2\x7d\"\"\"" =
      some (.ofExpr (prefixed ['"', '"', '"'])) :=
    Pattern.compile?_eq_some_iff.mpr ⟨_, by decide +kernel, by decide, rfl⟩
  have prefixedTripleSingle : Pattern.compile? "\\b[fFrRbBuU]\x7b1,2\x7d'''" =
      some (.ofExpr (prefixed ['\'', '\'', '\''])) :=
    Pattern.compile?_eq_some_iff.mpr ⟨_, by decide +kernel, by decide, rfl⟩
  have tripleDouble : Pattern.compile? "\"\"\"" = some (.ofExpr (.spelled ['"', '"', '"'])) :=
    Pattern.compile?_eq_some_iff.mpr ⟨_, by decide +kernel, by decide, rfl⟩
  have tripleSingle : Pattern.compile? "'''" = some (.ofExpr (.spelled ['\'', '\'', '\''])) :=
    Pattern.compile?_eq_some_iff.mpr ⟨_, by decide +kernel, by decide, rfl⟩
  have prefixedDouble : Pattern.compile? "\\b[fFrRbBuU]\x7b1,2\x7d\"" =
      some (.ofExpr (prefixed ['"'])) :=
    Pattern.compile?_eq_some_iff.mpr ⟨_, by decide +kernel, by decide, rfl⟩
  have prefixedSingle : Pattern.compile? "\\b[fFrRbBuU]\x7b1,2\x7d'" =
      some (.ofExpr (prefixed ['\''])) :=
    Pattern.compile?_eq_some_iff.mpr ⟨_, by decide +kernel, by decide, rfl⟩
  simp only [python, Grammar.regions_pattern, Grammar.regions_words, Grammar.regions_string,
    Grammar.regions_region, Grammar.regions_named, RegionRule.make?, Option.bind_eq_bind,
    prefixedTripleDouble, prefixedTripleSingle, tripleDouble, tripleSingle, prefixedDouble,
    prefixedSingle]
  exact ⟨_, rfl⟩

/-! ### The opening quote -/

variable {quote mark : Char} {tail body rest : Text}

/-- Behind a prefix the marks match that stand there. -/
theorem prefix_of_matches_prefixed {before : Option Char} (isPrefix : StringPrefix letters)
    (quoted : quote ∉ prefixLetters) (marked : mark ∉ prefixLetters)
    (matched : (prefixed (mark :: marks)).Matches ⟨0, before, letters ++ quote :: tail⟩ stop) :
    mark :: marks <+: quote :: tail ∧ stop.offset = letters.length + (marks.length + 1) := by
  obtain ⟨-, other, rest, otherPrefix, split, rfl⟩ := matches_prefixed_iff.mp matched
  obtain ⟨rfl, behind⟩ := Text.eq_of_append_eq (p := fun c => decide (c ∈ prefixLetters)) split
    (by simpa using isPrefix.listed) (by simpa using quoted) (by simpa using otherPrefix.listed)
    (by simpa using marked)
  have shown : mark :: marks <+: quote :: tail := ⟨rest, behind.symm⟩
  have bounded := shown.length_le
  refine ⟨shown, ?_⟩
  rw [Cursor.offset_advance]
  simp only [List.length_append, List.length_cons] at bounded ⊢
  omega

/-- Where one quote stands behind a prefix, a region for triple quotes does not open, and neither
does one for another quote. -/
theorem matchLength?_prefixed_eq_none (isPrefix : StringPrefix letters)
    (quoted : quote ∉ prefixLetters) (marked : mark ∉ prefixLetters)
    (apart : ¬mark :: marks <+: quote :: tail) :
    (Pattern.ofExpr (prefixed (mark :: marks))).matchLength? none (letters ++ quote :: tail) =
      none :=
  Pattern.matchLength?_eq_none_of_forall fun _ matched =>
    apart (prefix_of_matches_prefixed isPrefix quoted marked matched).1

/-- Where a prefix stands, no quote does. -/
theorem matchLength?_spelled_eq_none (isPrefix : StringPrefix letters)
    (marked : mark ∉ prefixLetters) :
    (Pattern.ofExpr (spelled (mark :: marks))).matchLength? none (letters ++ tail) = none := by
  refine Pattern.matchLength?_eq_none_of_forall fun stop matched => ?_
  obtain ⟨c, others, rfl⟩ := List.exists_cons_of_ne_nil isPrefix.nonempty
  obtain ⟨rest, split, -⟩ := matches_spelled_iff.mp matched
  obtain ⟨rfl, -⟩ := List.cons.inj split
  exact marked (isPrefix.listed c List.mem_cons_self)

/-- The region of a prefixed string opens at the start of its prefix. -/
theorem matchLength?_prefixed (isPrefix : StringPrefix letters) (quoted : quote ∉ prefixLetters)
    (tail : Text) :
    (Pattern.ofExpr (prefixed [quote])).matchLength? none (letters ++ quote :: tail) =
      some (letters.length + 1) := by
  have matched : (prefixed [quote]).Matches ⟨0, none, letters ++ quote :: tail⟩ _ :=
    matches_prefixed_iff.mpr ⟨rfl, letters, tail, isPrefix, rfl, rfl⟩
  have ends := (prefix_of_matches_prefixed isPrefix quoted quoted matched).2
  refine (Pattern.matchLength?_of_unique matched fun stop other => ?_).trans (congrArg some ends)
  rw [ends, (prefix_of_matches_prefixed isPrefix quoted quoted other).2]

/-! ### The closing quote -/

variable {here : Cursor}

/-- A match that begins before the quote behind the body ends right behind that quote, and the body
ends in a prefix. -/
theorem endsInPrefix_of_matches {place : Nat} (quoted : quote ∉ prefixLetters)
    (absent : quote ∉ body) (shape : here.rest = body ++ quote :: rest)
    (within : place ≤ body.length)
    (matched : (prefixed [quote]).Matches
      ⟨0, (here.advance place).before, (here.advance place).rest⟩ stop) :
    EndsInPrefix body ∧ place + stop.offset = body.length + 1 := by
  obtain ⟨outside, letters, others, isPrefix, split, rfl⟩ := matches_prefixed_iff.mp matched
  have passed : (body.take place).length = place := by
    rw [List.length_take, Nat.min_eq_left within]
  have parts : here.rest = body.take place ++ (body.drop place ++ quote :: rest) := by
    rw [shape, ← List.append_assoc, List.take_append_drop]
  have left : (here.advance place).rest = body.drop place ++ quote :: rest := by
    rw [Cursor.rest_advance, shape, List.drop_append_of_le_length within]
  -- Both what is left of the body and the letters go up to the first quote.
  obtain ⟨same, -⟩ := Text.eq_of_append_eq (p := (· != quote)) (left.symm.trans split)
    (by
      simp only [bne_iff_ne]
      rintro c member rfl
      exact absent (List.mem_of_mem_drop member))
    (by simp)
    (by
      simp only [bne_iff_ne]
      rintro c member rfl
      exact quoted (isPrefix.listed c member))
    (by simp)
  constructor
  · refine ⟨body.take place, body.drop place, (List.take_append_drop _ _).symm, same ▸ isPrefix,
      fun c last => ?_⟩
    have before := Cursor.before_advance parts
    rw [passed, Option.mem_def.mp last] at before
    simpa [before] using outside
  · have length := congrArg List.length same
    rw [Cursor.offset_advance]
    simp only [left, List.length_append, List.length_cons, List.length_drop, List.length_nil]
      at length ⊢
    omega

/-- Where the body ends in a prefix, the closing pattern matches. -/
theorem exists_matches_of_endsInPrefix (outside : here.before.any Unicode.isWord = false)
    (shape : here.rest = body ++ quote :: rest) (ends : EndsInPrefix body) :
    ∃ place ≤ body.length, ∃ stop, (prefixed [quote]).Matches
      ⟨0, (here.advance place).before, (here.advance place).rest⟩ stop := by
  obtain ⟨front, letters, rfl, isPrefix, boundary⟩ := ends
  rw [List.append_assoc] at shape
  refine ⟨front.length, by simp, _, matches_prefixed_iff.mpr
    ⟨?_, letters, rest, isPrefix, ?_, rfl⟩⟩
  · rw [Cursor.before_advance shape]
    cases last : front.getLast? with
    | none => exact outside
    | some c => simpa using boundary c last
  · exact Cursor.rest_advance_of_split shape

/-- A body that ends in a prefix and holds no escape character closes its region. -/
theorem findEndFrom_of_endsInPrefix (quoted : quote ∉ prefixLetters)
    (plain : ∀ c ∈ body, c ≠ quote ∧ c ≠ '\\') (outside : here.before.any Unicode.isWord = false)
    (shape : here.rest = body ++ quote :: rest) (ends : EndsInPrefix body) (rounds : Nat) :
    (prefixedRegion quote).findEndFrom here (rounds + 1) here =
      here.offset + body.length + 1 := by
  have absent : quote ∉ body := fun member => (plain quote member).1 rfl
  obtain ⟨place, within, stop, matched⟩ := exists_matches_of_endsInPrefix outside shape ends
  obtain ⟨closing, found⟩ := Pattern.exists_find?_of_matches rfl matched
  obtain ⟨skipped, last, part, startsAt, stopsAt, first⟩ :=
    Pattern.exists_matches_of_find? rfl found
  have reached : skipped ≤ place := Nat.le_of_not_lt fun behind => first place behind stop matched
  have own := (endsInPrefix_of_matches quoted absent shape (by omega) part).2
  have offset : (here.advance skipped).offset = here.offset + skipped := by
    rw [Cursor.offset_advance, shape, List.length_append, Nat.min_eq_left (by omega)]
  -- In front of the match stands a part of the body, which holds no escape character.
  have free : (prefixedRegion quote).isEscaped here closing.start = false := by
    refine RegionRule.isEscaped_of_absent fun escape escaping member => ?_
    rw [startsAt, offset, Nat.add_sub_cancel_left, shape,
      List.take_append_of_le_length (by omega)] at member
    obtain rfl := Option.some.inj escaping
    exact (plain '\\' (List.mem_of_mem_take member)).2 rfl
  rw [RegionRule.findEndFrom_of_find? found free, stopsAt, offset]
  omega

/-- Any other body does not: its region ends behind the quote or, if nothing closes it, with the
text. -/
theorem findEndFrom_of_not_endsInPrefix (quoted : quote ∉ prefixLetters)
    (absent : quote ∉ body) (shape : here.rest = body ++ quote :: rest)
    (unended : ¬EndsInPrefix body) (rounds : Nat) :
    (prefixedRegion quote).findEndFrom here rounds here = here.limit ∨
      here.offset + body.length + 1 <
        (prefixedRegion quote).findEndFrom here rounds here := by
  rcases RegionRule.findEndFrom_eq_limit_or (prefixedRegion quote) here rounds here with
    atEnd | ⟨passed, closing, found, ends⟩
  · exact .inl atEnd
  · have matched : (Pattern.ofExpr (prefixed [quote])).find? (here.advance passed) = some closing :=
      found
    obtain ⟨skipped, stop, part, -, stopsAt, -⟩ := Pattern.exists_matches_of_find? rfl matched
    rw [Cursor.advance_add] at part stopsAt
    have behind : body.length < passed + skipped := by
      by_contra within
      exact unended (endsInPrefix_of_matches quoted absent shape (by omega) part).1
    have progress := part.progress.2 rfl
    rw [Cursor.offset_advance, shape] at stopsAt
    simp only [List.length_append, List.length_cons] at stopsAt progress
    exact .inr (by omega)

/-- A region ends at its own quote if the body ends in a prefix or nothing follows, and otherwise in
what follows. -/
theorem findEndFrom_prefixedRegion (quoted : quote ∉ prefixLetters)
    (plain : ∀ c ∈ body, c ≠ quote ∧ c ≠ '\\') (outside : here.before.any Unicode.isWord = false)
    (shape : here.rest = body ++ quote :: rest) (rounds : Nat) :
    ∃ tail, tail <+: rest ∧
      (prefixedRegion quote).findEndFrom here (rounds + 1) here =
        here.offset + body.length + 1 + tail.length ∧
      (tail = [] ↔ EndsInPrefix body ∨ rest = []) := by
  by_cases early : EndsInPrefix body
  · exact ⟨[], List.nil_prefix,
      findEndFrom_of_endsInPrefix quoted plain outside shape early rounds,
      iff_of_true rfl (.inl early)⟩
  · have absent : quote ∉ body := fun member => (plain quote member).1 rfl
    have bounded := ((prefixedRegion quote).findEndFrom_bounds here (rounds + 1) here).2
    have later := @findEndFrom_of_not_endsInPrefix quote body rest here quoted absent
      shape early (rounds + 1)
    generalize (prefixedRegion quote).findEndFrom here (rounds + 1) here = stop
      at bounded later ⊢
    have limit : here.limit = here.offset + body.length + 1 + rest.length := by
      rw [Cursor.limit, shape, List.length_append, List.length_cons]
      omega
    rw [limit] at bounded later
    refine ⟨rest.take (stop - (here.offset + body.length + 1)), List.take_prefix _ _, ?_, ?_⟩
    · rw [List.length_take]
      omega
    · rw [List.take_eq_nil_iff, or_iff_right early]
      refine or_iff_right_of_imp fun atQuote => List.eq_nil_of_length_eq_zero ?_
      omega

/-- The region of a prefixed string on one line ends in the rest of that line. -/
theorem findEnd_prefixedRegion (quoted : quote ∉ prefixLetters)
    (visible : quote ≠ '\n') (plain : ∀ c ∈ body, c ≠ quote ∧ c ≠ '\\' ∧ c ≠ '\n')
    (outside : here.before.any Unicode.isWord = false)
    (shape : here.rest = body ++ quote :: rest) :
    ∃ tail, tail <+: rest.takeWhile (· != '\n') ∧
      (prefixedRegion quote).findEnd here =
        here.offset + body.length + 1 + tail.length ∧
      (tail = [] ↔ EndsInPrefix body ∨ rest.takeWhile (· != '\n') = []) := by
  have seen : (here.upTo ((prefixedRegion quote).limit here)).rest =
      body ++ quote :: rest.takeWhile (· != '\n') := by
    rw [RegionRule.upTo_limit, if_pos (by rfl), shape,
      List.takeWhile_append_of_pos (by simpa using fun c member => (plain c member).2.2),
      List.takeWhile_cons_of_pos (by simpa using visible)]
  have unescaped : ∀ c ∈ body, c ≠ quote ∧ c ≠ '\\' :=
    fun c member => ⟨(plain c member).1, (plain c member).2.1⟩
  have before : (here.upTo ((prefixedRegion quote).limit here)).before.any
      Unicode.isWord = false := outside
  exact findEndFrom_prefixedRegion quoted unescaped before seen _

/-! ### The first token -/

/-- Where one quote stands behind a prefix, no region for triple quotes opens. -/
theorem matchLength?_tripleRegions (isPrefix : StringPrefix letters)
    (quoted : quote ∉ prefixLetters) (single : tail.head? ≠ some quote) :
    ∀ other ∈ tripleRegions, other.opening.matchLength? none (letters ++ quote :: tail) = none := by
  have apart (mark : Char) : ¬[mark, mark, mark] <+: quote :: tail := by
    rintro ⟨rest, split⟩
    obtain ⟨rfl, rfl⟩ := List.cons.inj split
    exact single rfl
  have double : '"' ∉ prefixLetters := by decide
  have other : '\'' ∉ prefixLetters := by decide
  simp only [tripleRegions, tripleRegion, List.forall_mem_cons,
    matchLength?_prefixed_eq_none isPrefix quoted double (apart _),
    matchLength?_prefixed_eq_none isPrefix quoted other (apart _),
    matchLength?_spelled_eq_none isPrefix double, matchLength?_spelled_eq_none isPrefix other]
  simp

/-- A prefixed string is the first token of a text that begins with it, up to the end of its
region. -/
theorem head?_lex_prefixed (isQuote : quote = '"' ∨ quote = '\'') (isPrefix : StringPrefix letters)
    (single : tail.head? ≠ some quote) :
    (python.lex (letters ++ quote :: tail)).head? =
      some ⟨stringKind quote, (letters ++ quote :: tail).take
        ((prefixedRegion quote).findEnd
          (.atOffset (letters ++ quote :: tail) (letters.length + 1)))⟩ := by
  obtain ⟨others, order⟩ := exists_regions_python
  rcases isQuote with rfl | rfl
  · have quoted : '"' ∉ prefixLetters := by decide
    exact Grammar.head?_lex_of_region order (matchLength?_tripleRegions isPrefix quoted single)
      (matchLength?_prefixed isPrefix quoted tail)
  · have quoted : '\'' ∉ prefixLetters := by decide
    have double : '"' ∉ prefixLetters := by decide
    have passed : ∀ other ∈ tripleRegions ++ [prefixedRegion '"'],
        other.opening.matchLength? none (letters ++ '\'' :: tail) = none := by
      refine List.forall_mem_append.mpr
        ⟨matchLength?_tripleRegions isPrefix quoted single, List.forall_mem_singleton.mpr ?_⟩
      exact @matchLength?_prefixed_eq_none letters [] '\'' '"' tail isPrefix quoted double (by simp)
    exact Grammar.head?_lex_of_region (order.trans (List.append_cons _ _ _)) passed
      (matchLength?_prefixed isPrefix quoted tail)

/-- A prefixed string on one line, with neither a quote nor an escape character in its body, is the
first token of the text that it begins, together with a part of what follows on its line. This part
is empty exactly if the body ends in letters that can stand in front of a string, at a word
boundary, or if nothing follows on the line. -/
theorem prefixed_string_ends_iff (isQuote : quote = '"' ∨ quote = '\'')
    (isPrefix : StringPrefix letters) (some : body ≠ [])
    (plain : ∀ c ∈ body, c ≠ quote ∧ c ≠ '\\' ∧ c ≠ '\n') (rest : Text) :
    ∃ tail, tail <+: rest.takeWhile (· != '\n') ∧
      (python.lex (letters ++ quote :: (body ++ quote :: rest))).head? =
        .some ⟨stringKind quote, letters ++ quote :: (body ++ quote :: tail)⟩ ∧
      (tail = [] ↔ EndsInPrefix body ∨ rest.takeWhile (· != '\n') = []) := by
  have marks : quote ∉ prefixLetters ∧ quote ≠ '\n' ∧ Unicode.isWord quote = false := by
    rcases isQuote with rfl | rfl <;> decide +kernel
  obtain ⟨quoted, visible, noWord⟩ := marks
  have single : (body ++ quote :: rest).head? ≠ .some quote := by
    obtain ⟨c, others, rfl⟩ := List.exists_cons_of_ne_nil some
    simpa using (plain c List.mem_cons_self).1
  have first := head?_lex_prefixed isQuote isPrefix single
  have opened : letters.length + 1 ≤ (letters ++ quote :: (body ++ quote :: rest)).length := by
    simp
  have behind : (Cursor.atOffset (letters ++ quote :: (body ++ quote :: rest))
      (letters.length + 1)).rest = body ++ quote :: rest := by
    rw [Cursor.rest_atOffset, List.append_cons, List.drop_left' (by simp)]
  have outside : (Cursor.atOffset (letters ++ quote :: (body ++ quote :: rest))
      (letters.length + 1)).before.any Unicode.isWord = false := by
    rw [Cursor.before_atOffset, List.append_cons, List.take_left' (by simp),
      List.getLast?_concat, Option.any_some, noWord]
  obtain ⟨tail, within, ends, closes⟩ := @findEnd_prefixedRegion quote body rest _
    quoted visible plain outside behind
  obtain ⟨others, split⟩ := within.trans (List.takeWhile_prefix _)
  have token : letters ++ quote :: (body ++ quote :: rest) =
      letters ++ quote :: (body ++ quote :: tail) ++ others := by
    simp [← split]
  have length : letters.length + 1 + body.length + 1 + tail.length =
      (letters ++ quote :: (body ++ quote :: tail)).length := by
    simp only [List.length_append, List.length_cons]
    omega
  refine ⟨tail, within, ?_, closes⟩
  rw [first, ends, Cursor.offset_atOffset opened, length, token, List.take_left]

/-- A string whose last word can be a prefix ends at its quote, whatever follows. -/
theorem prefixed_string_ends_iff_of_word : StringPrefix ['r', 'b'] ∧
    (∀ c ∈ ['a', ' ', 'f'], c ≠ '\'' ∧ c ≠ '\\' ∧ c ≠ '\n') ∧
    (python.lex ['r', 'b', '\'', 'a', ' ', 'f', '\'', ';']).head? =
      some ⟨⟨"Literal.String.Single"⟩, ['r', 'b', '\'', 'a', ' ', 'f', '\'']⟩ := by
  have isPrefix : StringPrefix ['r', 'b'] := ⟨by decide, by simp [prefixLetters]⟩
  have plain : ∀ c ∈ ['a', ' ', 'f'], c ≠ '\'' ∧ c ≠ '\\' ∧ c ≠ '\n' := by simp
  obtain ⟨tail, -, first, closes⟩ :=
    prefixed_string_ends_iff (.inr rfl) isPrefix (List.cons_ne_nil _ _) plain [';']
  have ends : EndsInPrefix ['a', ' ', 'f'] := by
    refine ⟨['a', ' '], ['f'], rfl, ⟨by decide, by simp [prefixLetters]⟩, ?_⟩
    rintro c ⟨⟩
    decide
  rw [closes.mpr (.inl ends)] at first
  exact ⟨isPrefix, plain, first⟩

/-- The body of this string ends in no prefix: the first token goes on behind the string. -/
theorem prefixed_string_runs_on :
    (python.lex ['f', '"', 'a', '"', ' ', 'x']).head? =
      some ⟨⟨"Literal.String.Double"⟩, ['f', '"', 'a', '"', ' ', 'x']⟩ ∧
    ¬∀ (letters body rest : Text) (quote : Char), StringPrefix letters →
      (quote = '"' ∨ quote = '\'') → body ≠ [] →
      (∀ c ∈ body, c ≠ quote ∧ c ≠ '\\' ∧ c ≠ '\n') →
        (python.lex (letters ++ quote :: (body ++ quote :: rest))).head? =
          some ⟨stringKind quote, letters ++ quote :: (body ++ [quote])⟩ := by
  have isPrefix : StringPrefix ['f'] := ⟨by decide, by simp [prefixLetters]⟩
  have first : (python.lex ['f', '"', 'a', '"', ' ', 'x']).head? =
      some ⟨⟨"Literal.String.Double"⟩, ['f', '"', 'a', '"', ' ', 'x']⟩ := by
    have token := @head?_lex_prefixed ['f'] '"' ['a', '"', ' ', 'x'] (.inl rfl) isPrefix (by decide)
    have ends : (prefixedRegion '"').findEnd (.atOffset ['f', '"', 'a', '"', ' ', 'x'] 2) = 6 := by
      decide +kernel
    rw [List.singleton_append, List.length_singleton, ends] at token
    exact token
  refine ⟨first, fun closes => ?_⟩
  have whole := closes ['f'] ['a'] [' ', 'x'] '"' isPrefix (.inl rfl) (by decide) (by simp)
  have same := first.symm.trans whole
  revert same
  decide

end Highlighter.Language
