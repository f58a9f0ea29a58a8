import Highlighter.Proofs.Grammar.Rule
import Highlighter.Proofs.Pattern.Meaning

/-!
# Where an escaped region closes

A region that one character closes looks for it and counts the escape characters in front of every
place that it finds. A reader from the left gets along without counting: it takes every escape
character together with the one behind it (`Text.readToClose`). Both end at the same place
(`RegionRule.findEnd_reads_to_close`): whether the number of escape characters up to a place is odd
is what the reader knows there.
-/

namespace Highlighter

namespace Text

/-- The number of characters that a reader takes which looks for the first `delimiter`, and takes
every `escape` together with the character behind it. It takes all if there is no such delimiter. -/
def readToClose (escape delimiter : Char) : Text → Nat
  | [] => 0
  | [_] => 1
  | c :: next :: rest =>
    if c = escape then readToClose escape delimiter rest + 2
    else if c = delimiter then 1
    else readToClose escape delimiter (next :: rest) + 1

/-- Whether a reader takes the character behind `c` together with `c`. -/
def escapes (escape : Char) (escaped : Bool) (c : Char) : Bool :=
  c == escape && !escaped

/-- The number of characters that the reader takes, when `escaped` tells whether the first one
belongs to an escape character in front of it. -/
def readFrom (escape delimiter : Char) : (escaped : Bool) → Text → Nat
  | _, [] => 0
  | escaped, c :: rest =>
    if c = delimiter ∧ escaped = false then 1
    else readFrom escape delimiter (escapes escape escaped c) rest + 1

variable {escape delimiter : Char}

theorem readFrom_le (escape delimiter : Char) (escaped : Bool) (text : Text) :
    readFrom escape delimiter escaped text ≤ text.length := by
  induction text generalizing escaped with
  | nil => exact Nat.le_refl 0
  | cons c rest inductionHypothesis =>
      have later := inductionHypothesis (escapes escape escaped c)
      rw [readFrom, List.length_cons]
      split <;> omega

/-- To take pairs and to remember the escape character are the same. -/
theorem readToClose_eq_readFrom (different : escape ≠ delimiter) (text : Text) :
    readToClose escape delimiter text = readFrom escape delimiter false text := by
  fun_induction readToClose escape delimiter text with
  | case1 => rfl
  | case2 c => simp [readFrom]
  | case3 next rest inductionHypothesis =>
      simp [readFrom, escapes, different, inductionHypothesis]
  | case4 next rest other => simp [readFrom]
  | case5 c next rest other stays inductionHypothesis =>
      have unescaped : escapes escape false c = false := by simp [escapes, other]
      rw [inductionHypothesis, readFrom.eq_2 _ _ _ c, unescaped, if_neg (stays ·.1)]

/-- Over a part without the delimiter the reader only follows what is escaped. -/
theorem readFrom_append (escaped : Bool) {front : Text} (absent : delimiter ∉ front) (rest : Text) :
    readFrom escape delimiter escaped (front ++ rest) =
      front.length + readFrom escape delimiter (front.foldl (escapes escape) escaped) rest := by
  induction front generalizing escaped with
  | nil => simp
  | cons c front inductionHypothesis =>
      obtain ⟨other, later⟩ := List.ne_and_not_mem_of_not_mem_cons absent
      rw [List.cons_append, readFrom, if_neg (by simp [other.symm]), inductionHypothesis _ later]
      rw [List.length_cons, List.foldl_cons]
      omega

/-- Behind a text the reader is escaped exactly if the text ends in an odd run of the escape
character. -/
theorem foldl_escapes (escape : Char) (text : Text) :
    text.foldl (escapes escape) false =
      ((text.reverse.takeWhile (· == escape)).length % 2 == 1) := by
  induction text using List.reverseRecOn with
  | nil => rfl
  | append_singleton front last inductionHypothesis =>
      rw [List.foldl_append, List.foldl_cons, List.foldl_nil, inductionHypothesis,
        List.reverse_append, List.reverse_singleton, List.singleton_append, List.takeWhile_cons]
      by_cases same : last = escape
      · simp only [escapes, same, beq_self_eq_true, Bool.true_and, if_true, List.length_cons]
        rcases Nat.mod_two_eq_zero_or_one
          (front.reverse.takeWhile (· == escape)).length with even | odd
        · simp [even, Nat.add_mod]
        · simp [odd, Nat.add_mod]
      · simp [escapes, same]

end Text

namespace RegionRule

open Text

variable {rule : RegionRule} {escape delimiter : Char} {body : Cursor} {passed ahead : Text}

/-- A place of the body is escaped exactly if the reader has taken an escape character whose partner
stands there. -/
theorem isEscaped_eq (escaping : rule.escape = some escape) (shape : body.rest = passed ++ ahead) :
    rule.isEscaped body (body.offset + passed.length) =
      passed.foldl (escapes escape) false := by
  rw [foldl_escapes, isEscaped, escaping, Nat.add_sub_cancel_left, shape, List.take_left]

theorem limit_of_passed (shape : body.rest = passed ++ ahead) :
    (body.advance passed.length).limit = body.offset + passed.length + ahead.length := by
  rw [Cursor.limit_advance, Cursor.limit, shape, List.length_append, Nat.add_assoc]

theorem member_single_of_absent (absent : delimiter ∉ ahead) :
    ∀ other ∈ ahead, (CharSet.single delimiter).member other = false := by
  intro other member
  rw [← Bool.not_eq_true, CharSet.member_single_iff]
  rintro rfl
  exact absent member

/-- The closing match is the first delimiter. -/
theorem find?_closing_of_delimiter (closes : rule.closing = .ofExpr (.char (.single delimiter)))
    {front rest : Text} (shape : body.rest = passed ++ (front ++ delimiter :: rest))
    (absent : delimiter ∉ front) :
    rule.closing.find? (body.advance passed.length) =
      some ⟨body.offset + passed.length + front.length,
        body.offset + passed.length + front.length + 1⟩ := by
  rw [Pattern.find?, Cursor.rest_advance_of_split shape, closes,
    Cursor.offset_advance_of_split shape]
  exact Pattern.findFrom_char _ (member_single_of_absent absent)
    (CharSet.member_single_iff.mpr rfl)

/-- Without a delimiter there is no closing match. -/
theorem find?_closing_eq_none (closes : rule.closing = .ofExpr (.char (.single delimiter)))
    (shape : body.rest = passed ++ ahead) (absent : delimiter ∉ ahead) :
    rule.closing.find? (body.advance passed.length) = none := by
  rw [Pattern.find?, Cursor.rest_advance_of_split shape, closes]
  exact Pattern.findFrom_char_eq_none _ (member_single_of_absent absent)

/-- From a place of the body where nothing is escaped the search ends where the reader ends. -/
theorem findEndFrom_eq (closes : rule.closing = .ofExpr (.char (.single delimiter)))
    (escaping : rule.escape = some escape) {rounds : Nat}
    (shape : body.rest = passed ++ ahead) (enough : ahead.length < rounds)
    (settled : passed.foldl (escapes escape) false = false) :
    rule.findEndFrom body rounds (body.advance passed.length) =
      body.offset + passed.length + readFrom escape delimiter false ahead := by
  induction rounds generalizing passed ahead with
  | zero => omega
  | succ rounds inductionHypothesis =>
      rw [findEndFrom, Cursor.offset_advance_of_split shape, limit_of_passed shape]
      by_cases member : delimiter ∈ ahead
      · -- The first delimiter either closes the region, or is taken with an escape character.
        obtain ⟨front, rest, rfl, absent⟩ := List.eq_append_cons_of_mem member
        have escaped : rule.isEscaped body (body.offset + passed.length + front.length) =
            front.foldl (escapes escape) false := by
          rw [Nat.add_assoc, ← List.length_append, isEscaped_eq escaping (by rw [shape,
            List.append_assoc]), List.foldl_append, settled]
        rw [find?_closing_of_delimiter closes shape absent, readFrom_append false absent, readFrom]
        dsimp only
        rw [escaped]
        cases odd : front.foldl (escapes escape) false with
        | false => simp [Nat.add_assoc]
        | true =>
            have later := @inductionHypothesis (passed ++ front ++ [delimiter]) rest
              (by simp [shape]) (by simp at enough; omega)
              (by simp [settled, odd, escapes])
            have resume : passed.length + (body.offset + passed.length + front.length + 1
                - (body.offset + passed.length)) = (passed ++ front ++ [delimiter]).length := by
              simp
              omega
            have inside : body.offset + passed.length + front.length + 1 ≤
                body.offset + passed.length + (front ++ delimiter :: rest).length := by
              rw [List.length_append, List.length_cons]
              omega
            rw [if_pos rfl, Nat.max_self, if_pos inside, Cursor.advance_add, resume, later]
            simp [escapes]
            omega
      · rw [find?_closing_eq_none closes shape member]
        have all := @readFrom_append escape delimiter false ahead member []
        rw [List.append_nil, readFrom] at all
        exact congrArg _ all.symm

/-- A region that the character `delimiter` closes, and in which an odd run of another character
`escape` disables the delimiter, ends where a reader from the left ends that starts at the body and
takes every escape character together with the one behind it. The reader goes up to the end of the
text, or of the line, and the region ends in between. -/
theorem findEnd_reads_to_close {closing : String}
    (closes : Pattern.compile? closing = some rule.closing)
    (single : Expr.ofText closing.toList = .ok (.char (.single delimiter)))
    (escaping : rule.escape = some escape) (different : escape ≠ delimiter) (text : Text)
    {place : Nat} (within : place ≤ text.length) :
    let inside := if rule.singleLine then (text.drop place).takeWhile (· != '\n')
      else text.drop place
    rule.findEnd (.atOffset text place) = place + readToClose escape delimiter inside ∧
      place ≤ rule.findEnd (.atOffset text place) ∧
      rule.findEnd (.atOffset text place) ≤ place + inside.length := by
  obtain ⟨expr, read, -, program⟩ := Pattern.compile?_eq_some_iff.mp closes
  obtain rfl : expr = .char (.single delimiter) := Except.ok.inj (read.symm.trans single)
  intro inside
  have ends : rule.findEnd (.atOffset text place) =
      place + readToClose escape delimiter inside := by
    have rest : ((Cursor.atOffset text place).upTo (rule.limit (.atOffset text place))).rest =
        inside := by
      rw [upTo_limit, Cursor.rest_atOffset]
    have offset : ((Cursor.atOffset text place).upTo (rule.limit (.atOffset text place))).offset =
        place := Cursor.offset_atOffset within
    rw [readToClose_eq_readFrom different, findEnd, rest]
    have reading := findEndFrom_eq program escaping
      (rest.trans (List.nil_append inside).symm) (Nat.lt_succ_self _) rfl
    rwa [List.length_nil, Cursor.advance_zero, offset, Nat.add_zero] at reading
  have bounded := readFrom_le escape delimiter false inside
  rw [← readToClose_eq_readFrom different] at bounded
  omega

/-- A string on one line without a closing quote: its first quote is escaped, and the escape
character at its end does not take the newline. -/
theorem findEnd_reads_to_close_of_open_string :
    ∃ rule, RegionRule.make? "string" "\"" "\"" ⟨"String"⟩ (some '\\') true = some rule ∧
      Pattern.compile? "\"" = some rule.closing ∧
      Expr.ofText "\"".toList = .ok (.char (.single '"')) ∧ rule.escape = some '\\' ∧
      rule.findEnd (.atOffset ['"', 'a', '\\', '"', '\\', '\n', '"'] 1) = 5 := by
  have single : Expr.ofText "\"".toList = .ok (.char (.single '"')) := by decide +kernel
  have program : Pattern.compile? "\"" = some (.ofExpr (.char (.single '"'))) :=
    Pattern.compile?_eq_some_iff.mpr ⟨_, single, by decide +kernel, rfl⟩
  refine ⟨⟨"string", .ofExpr (.char (.single '"')), .ofExpr (.char (.single '"')), ⟨"String"⟩,
    some '\\', true⟩, ?_, program, single, rfl, ?_⟩
  · rw [make?, program]
    rfl
  · rw [(findEnd_reads_to_close program single rfl (by decide) _ (by decide)).1]
    decide +kernel

end RegionRule

end Highlighter
