import Highlighter.Language.Systems
import Highlighter.Proofs.Grammar.Regions
import Highlighter.Proofs.Pattern.Delimiters

/-!
# Raw strings of Rust

A raw string begins with `r`, any number of hashes and a quote. If there are hashes, it is a region
that a quote closes with the hashes behind it, however many there are. So it ends at the first quote
in front of a hash, with all hashes that follow there (`Language.head?_lex_rawString`). This is its
own closing delimiter exactly if no quote of its body stands in front of a hash
(`Language.raw_string_closes_iff`), which is more than that none stands in front of as many hashes
as opened it.
-/

namespace Highlighter.Language

open Highlighter.Expr

/-! ### The region -/

/-- One or more hashes. -/
def hashes : Expr :=
  .repetition (.char (.single '#')) 1 none true

/-- What opens a raw string with hashes. -/
def rawOpening : Expr :=
  .seq (.edge .wordBoundary) (.seq (.char (.single 'r')) (.seq hashes (.char (.single '"'))))

/-- What closes a raw string with hashes. -/
def rawClosing : Expr :=
  .seq (.char (.single '"')) hashes

/-- The region of a raw string with hashes. -/
def rawRegion : RegionRule :=
  { name := "raw_string_hashed", opening := .ofExpr rawOpening, closing := .ofExpr rawClosing
    kind := ⟨"Literal.String"⟩ }

/-- Only block comments are tried before raw strings. -/
theorem exists_regions_rust : ∃ comment others, rust.regions = comment :: rawRegion :: others ∧
    comment.opening = .ofExpr (.spelled ['/', '*']) := by
  have comment : Pattern.compile? r"/\*" = some (.ofExpr (.spelled ['/', '*'])) :=
    Pattern.compile?_eq_some_iff.mpr ⟨_, by decide +kernel, by decide, rfl⟩
  have commentEnd : Pattern.compile? r"\*/" = some (.ofExpr (.spelled ['*', '/'])) :=
    Pattern.compile?_eq_some_iff.mpr ⟨_, by decide +kernel, by decide, rfl⟩
  have raw : Pattern.compile? "\\br#+\"" = some (.ofExpr rawOpening) :=
    Pattern.compile?_eq_some_iff.mpr ⟨_, by decide +kernel, by decide, rfl⟩
  have rawEnd : Pattern.compile? "\"#+" = some (.ofExpr rawClosing) :=
    Pattern.compile?_eq_some_iff.mpr ⟨_, by decide +kernel, by decide, rfl⟩
  simp only [rust, Grammar.regions_pattern, Grammar.regions_words, Grammar.regions_regionWith,
    Grammar.regions_region, Grammar.regions_named, RegionRule.make?, Option.bind_eq_bind, comment,
    commentEnd, raw, rawEnd]
  exact ⟨_, _, rfl, rfl⟩

/-! ### What opens and closes it -/

variable {start stop : Cursor} {before : Option Char} {count : Nat} {rest : Text}

theorem matches_hashes_iff :
    hashes.Matches start stop ↔ ∃ count rest, 0 < count ∧
      start.rest = List.replicate count '#' ++ rest ∧ stop = start.advance count := by
  simp only [hashes, matches_repetition_char_iff, CharSet.member_single_iff]
  constructor
  · rintro ⟨part, rest, split, ⟨some, -⟩, signs, rfl⟩
    rw [List.eq_replicate_of_mem signs] at split
    exact ⟨part.length, rest, some, split, rfl⟩
  · rintro ⟨count, rest, some, split, rfl⟩
    refine ⟨List.replicate count '#', rest, split, ⟨?_, nofun⟩,
      fun c => List.eq_of_mem_replicate, ?_⟩
    · rwa [List.length_replicate]
    · rw [List.length_replicate]

/-- Hashes in front of something else are all that a text starts with. -/
theorem length_takeWhile_hashes (stops : rest.head? ≠ some '#') (count : Nat) :
    ((List.replicate count '#' ++ rest).takeWhile (CharSet.single '#').member).length = count := by
  rw [Text.takeWhile_append_of_stop, List.length_replicate]
  · intro c member
    rw [List.eq_of_mem_replicate member]
    decide
  · intro c first
    rw [← Bool.not_eq_true, CharSet.member_single_iff]
    rintro rfl
    exact stops first

theorem matches_rawOpening_iff :
    rawOpening.Matches start stop ↔
      Edge.wordBoundary.holds start.before start.rest.head? = true ∧ ∃ count rest, 0 < count ∧
        start.rest = 'r' :: (List.replicate count '#' ++ '"' :: rest) ∧
        stop = start.advance (count + 2) := by
  constructor
  · rintro ⟨_, ⟨boundary, rfl⟩, _, ⟨c, tail, shape, letter, rfl⟩, middle, run, d, rest, behind,
      quote, rfl⟩
    obtain ⟨count, others, some, split, rfl⟩ := matches_hashes_iff.mp run
    obtain rfl := CharSet.member_single_iff.mp letter
    obtain rfl := CharSet.member_single_iff.mp quote
    dsimp only at split
    have follows := behind
    rw [Cursor.rest_advance, split, List.drop_left' List.length_replicate] at follows
    refine ⟨boundary, count, rest, some, by rw [shape, split, follows], ?_⟩
    rw [Cursor.advance_succ_of_rest_eq_cons shape, ← Cursor.advance_add,
      Cursor.advance_succ_of_rest_eq_cons behind, Cursor.advance_zero]
  · rintro ⟨boundary, count, rest, some, shape, rfl⟩
    have behind : (Cursor.advance ⟨start.offset + 1, .some 'r',
        List.replicate count '#' ++ '"' :: rest⟩ count).rest = '"' :: rest := by
      rw [Cursor.rest_advance, List.drop_left' List.length_replicate]
    refine ⟨start, ⟨boundary, rfl⟩, _,
      ⟨'r', _, shape, CharSet.member_single_iff.mpr rfl, rfl⟩, _,
      matches_hashes_iff.mpr ⟨count, _, some, rfl, rfl⟩,
      '"', rest, behind, CharSet.member_single_iff.mpr rfl, ?_⟩
    rw [Cursor.advance_succ_of_rest_eq_cons shape, ← Cursor.advance_add,
      Cursor.advance_succ_of_rest_eq_cons behind, Cursor.advance_zero]

/-- The opening delimiter of a raw string is found with all of its hashes. -/
theorem matchLength?_rawOpening (some : 0 < count) (body : Text) :
    (Pattern.ofExpr rawOpening).matchLength? none
      ('r' :: (List.replicate count '#' ++ '"' :: body)) = .some (count + 2) := by
  have quoteStops (rest : Text) : ('"' :: rest).head? ≠ .some '#' := by simp
  have same {other : Nat} {rest : Text}
      (shape : 'r' :: (List.replicate count '#' ++ '"' :: body) =
        'r' :: (List.replicate other '#' ++ '"' :: rest)) : other = count := by
    rw [← length_takeWhile_hashes (quoteStops rest) other, ← (List.cons.inj shape).2,
      length_takeWhile_hashes (quoteStops body)]
  have bounded (rest : Text) (count : Nat) : (Cursor.advance ⟨0, none,
      'r' :: (List.replicate count '#' ++ '"' :: rest)⟩ (count + 2)).offset = count + 2 := by
    rw [Cursor.offset_advance]
    simp
  have boundary : Edge.wordBoundary.holds none (.some 'r') = true := by decide
  have matched : rawOpening.Matches ⟨0, none, 'r' :: (List.replicate count '#' ++ '"' :: body)⟩ _ :=
    matches_rawOpening_iff.mpr ⟨boundary, count, body, some, rfl, rfl⟩
  rw [Pattern.matchLength?_of_unique matched, bounded]
  intro stop other
  obtain ⟨-, others, rest, -, shape, rfl⟩ := matches_rawOpening_iff.mp other
  rw [same shape]

/-- The closing delimiter is a quote with all hashes behind it. -/
theorem matchLength?_rawClosing (some : 0 < count) (stops : rest.head? ≠ .some '#') :
    (Pattern.ofExpr rawClosing).matchLength? before
      ('"' :: (List.replicate count '#' ++ rest)) = .some (count + 1) := by
  obtain ⟨count, rfl⟩ := Nat.exists_eq_add_one_of_ne_zero (Nat.ne_of_gt some)
  have start : (Pattern.ofExpr rawClosing).start = 3 := rfl
  have quote : (Pattern.ofExpr rawClosing).frontier before (.some '"') [3] =
      ⟨[(.single '"', 2)], false⟩ := rfl
  have hash : (Pattern.ofExpr rawClosing).frontier (.some '"') (.some '#') [2] =
      ⟨[(.single '#', 1)], false⟩ := rfl
  have cycle (before after : Option Char) :
      (Pattern.ofExpr rawClosing).frontier before after [1] = ⟨[(.single '#', 1)], true⟩ := rfl
  rw [Pattern.matchLength?, start, Pattern.run_of_read quote (CharSet.member_single_iff.mpr rfl),
    List.replicate_succ, List.cons_append,
    Pattern.run_of_read hash (CharSet.member_single_iff.mpr rfl), Pattern.run_of_cycle cycle,
    length_takeWhile_hashes stops]
  exact congrArg _ (Nat.add_comm _ _)

/-- Nothing closes a raw string but a quote in front of a hash. -/
theorem prefix_of_matches_rawClosing (matched : rawClosing.Matches start stop) :
    ['"', '#'] <+: start.rest := by
  obtain ⟨_, ⟨c, tail, shape, quote, rfl⟩, run⟩ := matched
  obtain ⟨count, rest, some, split, -⟩ := matches_hashes_iff.mp run
  obtain ⟨count, rfl⟩ := Nat.exists_eq_add_one_of_ne_zero (Nat.ne_of_gt some)
  obtain rfl := CharSet.member_single_iff.mp quote
  dsimp only at split
  exact ⟨List.replicate count '#' ++ rest, by rw [shape, split, List.replicate_succ]; rfl⟩

/-! ### Where it ends -/

/-- The first quote in front of a hash closes a raw string. -/
theorem find?_rawClosing {front : Text} {cursor : Cursor} (some : 0 < count)
    (shape : cursor.rest = front ++ '"' :: (List.replicate count '#' ++ rest))
    (free : ¬['"', '#'] <:+: front) (stops : rest.head? ≠ .some '#') :
    (Pattern.ofExpr rawClosing).find? cursor =
      .some ⟨cursor.offset + front.length, cursor.offset + front.length + (count + 1)⟩ := by
  refine (Pattern.find?_eq_some_iff rfl).mpr
    ⟨front.length, ?_, fun earlier below stop matched => ?_⟩
  · rw [Pattern.nonemptyMatch?, Cursor.rest_advance_of_split shape,
      matchLength?_rawClosing some stops]
    dsimp only
    rw [Cursor.offset_advance_of_split shape]
  · -- An earlier quote in front of a hash would be one of the front, since a quote is no hash.
    have starts := prefix_of_matches_rawClosing matched
    rw [Cursor.rest_advance, shape, List.drop_append_of_le_length (Nat.le_of_lt below)] at starts
    have some : front.drop earlier ≠ [] := fun ended => by
      rw [List.drop_eq_nil_iff] at ended
      omega
    obtain ⟨c, ahead, shown⟩ := List.exists_cons_of_ne_nil some
    cases ahead with
    | nil => simp [shown] at starts
    | cons d ahead =>
        have inside : ['"', '#'] <+: front.drop earlier := by
          rw [shown] at starts ⊢
          simpa using starts
        exact free (inside.isInfix.trans (List.drop_suffix _ _).isInfix)

/-- A raw string ends at the first quote in front of a hash, with all hashes there. -/
theorem findEnd_rawRegion {front : Text} {cursor : Cursor} (some : 0 < count)
    (shape : cursor.rest = front ++ '"' :: (List.replicate count '#' ++ rest))
    (free : ¬['"', '#'] <:+: front) (stops : rest.head? ≠ .some '#') :
    rawRegion.findEnd cursor = cursor.offset + front.length + (count + 1) := by
  have all : cursor.upTo (rawRegion.limit cursor) = cursor := by
    rw [RegionRule.upTo_limit, if_neg (by decide)]
  have closes := find?_rawClosing some shape free stops
  have unescaped (place : Nat) : rawRegion.isEscaped cursor place = false := rfl
  rw [RegionRule.findEnd, all]
  exact RegionRule.findEndFrom_of_find? closes (unescaped _) _

/-- The text of a raw string with hashes. -/
def rawString (opened : Nat) (body : Text) (closed : Nat) : Text :=
  'r' :: (List.replicate opened '#' ++ '"' :: (body ++ '"' :: List.replicate closed '#'))

theorem length_rawString (opened : Nat) (body : Text) (closed : Nat) :
    (rawString opened body closed).length = opened + 2 + body.length + (closed + 1) := by
  simp only [rawString, List.length_cons, List.length_append, List.length_replicate]
  omega

theorem drop_rawString (opened : Nat) (body : Text) (closed : Nat) (rest : Text) :
    (rawString opened body closed ++ rest).drop (opened + 2) =
      body ++ '"' :: (List.replicate closed '#' ++ rest) := by
  have split : rawString opened body closed ++ rest = ('r' :: List.replicate opened '#' ++ ['"']) ++
      (body ++ '"' :: (List.replicate closed '#' ++ rest)) := by
    simp [rawString]
  rw [split, List.drop_left' (by simp)]

/-- A raw string whose body holds no quote in front of a hash is one token, whether or not it is
closed by as many hashes as opened it. -/
theorem head?_lex_rawString {opened closed : Nat} {body : Text} (opens : 0 < opened)
    (closes : 0 < closed) (free : ¬['"', '#'] <:+: body) (stops : rest.head? ≠ some '#') :
    (rust.lex (rawString opened body closed ++ rest)).head? =
      some ⟨⟨"Literal.String"⟩, rawString opened body closed⟩ := by
  obtain ⟨comment, others, order, commentOpening⟩ := exists_regions_rust
  have begins : rawString opened body closed ++ rest = 'r' :: (List.replicate opened '#' ++
      '"' :: (body ++ '"' :: (List.replicate closed '#' ++ rest))) := by
    simp [rawString]
  have passed : ∀ other ∈ [comment],
      other.opening.matchLength? none (rawString opened body closed ++ rest) = none := by
    rw [List.forall_mem_singleton, commentOpening, begins]
    refine Pattern.matchLength?_eq_none_of_forall fun stop matched => ?_
    obtain ⟨rest, split, -⟩ := matches_spelled_iff.mp matched
    simp at split
  have starts : rawRegion.opening.matchLength? none (rawString opened body closed ++ rest) =
      some (opened + 1 + 1) := by
    rw [begins]
    exact matchLength?_rawOpening opens _
  have bounded : opened + 2 ≤ (rawString opened body closed ++ rest).length := by
    rw [List.length_append, length_rawString]
    omega
  have ends := findEnd_rawRegion closes
    ((Cursor.rest_atOffset _ _).trans (drop_rawString opened body closed rest)) free stops
  rw [Cursor.offset_atOffset bounded, ← length_rawString] at ends
  have split : rust.regions = [comment] ++ rawRegion :: others := order
  rw [Grammar.head?_lex_of_region split passed starts, ends, List.take_left]
  rfl

/-- A body with a quote in front of a hash has a first one, and the last hash of the run there. -/
theorem exists_first_closing {body : Text} (closed : ['"', '#'] <:+: body) :
    ∃ front count back, body = front ++ '"' :: (List.replicate count '#' ++ back) ∧ 0 < count ∧
      ¬['"', '#'] <:+: front ∧ back.head? ≠ some '#' := by
  induction body with
  | nil => simp at closed
  | cons c body inductionHypothesis =>
      by_cases here : ['"', '#'] <+: c :: body
      · obtain ⟨tail, shape⟩ := here
        obtain ⟨rfl, rfl⟩ := List.cons.inj shape
        have hashes : ∀ c ∈ ('#' :: tail).takeWhile (· == '#'), c = '#' := fun c member => by
          simpa using List.mem_takeWhile_imp member
        have stopped := List.head?_dropWhile_not (· == '#') ('#' :: tail)
        refine ⟨[], (('#' :: tail).takeWhile (· == '#')).length,
          ('#' :: tail).dropWhile (· == '#'), ?_, by simp, by simp, fun first => ?_⟩
        · rw [← List.eq_replicate_of_mem hashes, List.takeWhile_append_dropWhile]
          rfl
        · rw [first] at stopped
          simp at stopped
      · obtain ⟨front, count, back, rfl, some, free, stops⟩ :=
          inductionHypothesis ((List.infix_cons_iff.mp closed).resolve_left here)
        refine ⟨c :: front, count, back, rfl, some, fun inside => ?_, stops⟩
        rcases List.infix_cons_iff.mp inside with first | later
        · exact here (first.trans (List.prefix_append (c :: front) _))
        · exact free later

/-- A raw string with `opened` hashes, in front of something that is no hash, begins with a token
that ends at the first quote in front of a hash, with all hashes there. This token is the whole raw
string exactly if no quote of the body stands in front of a hash. -/
theorem raw_string_closes_iff {opened : Nat} (some : 0 < opened) (body : Text) {rest : Text}
    (stops : rest.head? ≠ .some '#') :
    ∃ front closed, 0 < closed ∧ ¬['"', '#'] <:+: front ∧
      rawString opened front closed <+: rawString opened body opened ∧
      (rust.lex (rawString opened body opened ++ rest)).head? =
        .some ⟨⟨"Literal.String"⟩, rawString opened front closed⟩ ∧
      (rawString opened front closed = rawString opened body opened ↔ ¬['"', '#'] <:+: body) := by
  by_cases early : ['"', '#'] <:+: body
  · obtain ⟨front, closed, back, rfl, closes, free, ends⟩ := exists_first_closing early
    -- Behind the hashes comes the rest of the body, or the quote that was meant to close it.
    have split : rawString opened (front ++ '"' :: (List.replicate closed '#' ++ back)) opened =
        rawString opened front closed ++ (back ++ '"' :: List.replicate opened '#') := by
      simp [rawString]
    have behind : (back ++ '"' :: List.replicate opened '#' ++ rest).head? ≠ .some '#' := by
      cases back with
      | nil => simp
      | cons c back => simpa using ends
    refine ⟨front, closed, closes, free, split ▸ List.prefix_append _ _, ?_, ?_⟩
    · rw [split, List.append_assoc]
      exact head?_lex_rawString some closes free behind
    · refine iff_of_false (fun same => ?_) (not_not.mpr early)
      simp [split] at same
  · exact ⟨body, opened, some, early, List.prefix_rfl,
      head?_lex_rawString some some early stops, iff_of_true rfl early⟩

/-- A body with a quote that no hash follows does not close its raw string. -/
theorem raw_string_closes_iff_of_quote : 0 < 2 ∧ [';'].head? ≠ some '#' ∧
    (rust.lex (rawString 2 ['"'] 2 ++ [';'])).head? =
      some ⟨⟨"Literal.String"⟩, rawString 2 ['"'] 2⟩ := by
  obtain ⟨front, closed, -, -, -, first, whole⟩ :=
    @raw_string_closes_iff 2 (by decide) ['"'] [';'] (by decide)
  rw [whole.mpr (by decide)] at first
  exact ⟨by decide, by decide, first⟩

/-- The body of this raw string holds a quote in front of one hash, and two hashes open the string:
its first token ends there. -/
theorem raw_string_closes_early :
    (rust.lex (rawString 2 ['"', '#'] 2)).head? =
      some ⟨⟨"Literal.String"⟩, ['r', '#', '#', '"', '"', '#']⟩ ∧
    ¬∀ (opened : Nat) (body rest : Text), 0 < opened →
      ¬('"' :: List.replicate opened '#') <:+: body → rest.head? ≠ some '#' →
        (rust.lex (rawString opened body opened ++ rest)).head? =
          some ⟨⟨"Literal.String"⟩, rawString opened body opened⟩ := by
  have first : (rust.lex (rawString 2 ['"', '#'] 2)).head? =
      some ⟨⟨"Literal.String"⟩, ['r', '#', '#', '"', '"', '#']⟩ :=
    @head?_lex_rawString ['"', '#', '#'] 2 1 [] (by decide) (by decide) (by decide) (by decide)
  refine ⟨first, fun closes => ?_⟩
  have whole := closes 2 ['"', '#'] [] (by decide) (by decide) (by decide)
  rw [List.append_nil, first] at whole
  revert whole
  decide

end Highlighter.Language
