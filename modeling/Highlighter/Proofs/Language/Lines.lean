import Highlighter.Language.Configuration
import Highlighter.Proofs.Grammar.Lines
import Highlighter.Proofs.Pattern.Words
import Highlighter.Proofs.Unicode.CaseFolding

/-!
# Lines of YAML and of container build files

The grammars of both languages are line-shaped. In YAML no rule but the one for white space begins
with white space, so every line lexes in a text as it does alone (`Language.lineLocal_yaml`). In a
container build file a comment and an instruction can begin with blanks, but the white space in
front of a line takes them. So a line lexes as it does alone if it is the first one or does not open
indented, and otherwise it does not (`Language.lines_lex_alike_iff`).
-/

namespace Highlighter.Language

open Grammar Text Highlighter.Expr

/-- The last rule of both grammars. -/
def whiteSpace : PatternRule :=
  { name := "whitespace", pattern := .spaces, kind := ⟨"Text.Whitespace"⟩, priority := 5 }

/-- The last rule of the grammar takes white space, and all others keep to their line and have
another kind. -/
def staysOnLine (grammar : Grammar) : Bool :=
  grammar.rules == grammar.rules.dropLast ++ [.pattern whiteSpace] &&
    grammar.rules.dropLast.all fun rule => rule.confined && rule.kind != whiteSpace.kind

theorem lineShaped_of_staysOnLine {grammar : Grammar} (stays : staysOnLine grammar = true) :
    LineShaped grammar grammar.rules.dropLast whiteSpace := by
  rw [staysOnLine, Bool.and_eq_true, List.all_eq_true] at stays
  obtain ⟨rules, others⟩ := stays
  simp only [Bool.and_eq_true, bne_iff_ne] at others
  exact {
    rules := eq_of_beq rules
    confined := fun rule member => (others rule member).1
    kinds := fun rule member => (others rule member).2
    spaces := rfl }

theorem lineShaped_yaml : LineShaped yaml yaml.rules.dropLast whiteSpace :=
  lineShaped_of_staysOnLine (by decide +kernel)

theorem lineShaped_docker : LineShaped docker docker.rules.dropLast whiteSpace :=
  lineShaped_of_staysOnLine (by decide +kernel)

/-! ### Rules that begin with white space -/

/-- A pattern that shuns white space does not start in front of it. -/
theorem not_startsAt_of_shuns {pattern : Pattern}
    (shuns : pattern.shuns Unicode.whiteSpaceCodes = true) {text : Text} (white : indent text ≠ 0) :
    ¬pattern.StartsAt text 0 := by
  rw [Pattern.startsAt_iff (Nat.zero_le _)]
  rintro ⟨length, starts⟩
  obtain ⟨c, rest, rfl, space⟩ := exists_space_of_indent white
  have nothing : pattern.lengthAt? (c :: rest) 0 = none :=
    Pattern.matchLength?_eq_none_of_shuns shuns (Unicode.toNat_mem_whiteSpaceCodes space) rest
  rw [nothing] at starts
  cases starts

/-- In YAML no other rule applies in front of white space. -/
theorem not_appliesAt_yaml (line : Text) (white : indent line ≠ 0) :
    ¬AppliesAt yaml.rules.dropLast line 0 := by
  have shuns : yaml.rules.dropLast.all
      (fun rule => rule.opening.shuns Unicode.whiteSpaceCodes) = true := by decide +kernel
  rintro ⟨rule, member, starts⟩
  exact not_startsAt_of_shuns (List.all_eq_true.mp shuns rule member) white starts

/-- YAML can be lexed line by line. -/
theorem lineLocal_yaml : yaml.tokenizer.LineLocal :=
  lineShaped_yaml.lineLocal not_appliesAt_yaml

/-! ### Comments and instructions behind blanks -/

/-- Something at the start of a line, behind any number of blanks. -/
def behindBlanks (blank : CharSet) (expr : Expr) : Expr :=
  .seq (.edge .lineStart) (.seq (.repetition (.char blank) 0 none true) expr)

/-- A comment of a container build file. -/
def comment : Expr :=
  behindBlanks (.union (.single ' ') (.single '\t'))
    (.seq (.char (.single '#')) (.repetition (.char .notNewline) 0 none true))

/-- A word in any case. -/
def anyCase (word : String) : Expr :=
  .sequence ((word.toList.map fun letter => .caseFolded (.single letter)).map .char)

/-- An instruction of a container build file. -/
def instruction : Expr :=
  behindBlanks (.union (.caseFolded (.single ' ')) (.caseFolded (.single '\t')))
    (.seq (.alternatives (instructionWords.map anyCase)) (.edge .wordBoundary))

/-- The third rule is the one for comments. -/
theorem opening_comment :
    ((docker.rules.dropLast.map Rule.opening).drop 2).take 1 = [.ofExpr comment] := by
  decide +kernel

/-- The fourth rule is the one for instructions. -/
theorem opening_instruction :
    ((docker.rules.dropLast.map Rule.opening).drop 3).take 1 = [.ofExpr instruction] := by
  have read : Expr.ofText
      ("(?mi)^[ \\t]*(?:" ++ "|".intercalate instructionWords ++ ")\\b").toList =
        .ok instruction := by
    decide +kernel
  have fits : instruction.fits = true := by decide +kernel
  have compiled : ((docker.rules.dropLast.map Rule.opening).drop 3).take 1 ==
      (Pattern.compile?
        ("(?mi)^[ \\t]*(?:" ++ "|".intercalate instructionWords ++ ")\\b")).toList := by
    decide +kernel
  rw [eq_of_beq compiled, Pattern.compile?_eq_some_iff.mpr ⟨_, read, fits, rfl⟩]
  rfl

/-- In a container build file the rules that can begin with white space are those for comments and
for instructions. -/
theorem exists_openings_docker :
    ∃ front back, docker.rules.dropLast.map Rule.opening =
        front ++ [.ofExpr comment, .ofExpr instruction] ++ back ∧
      ∀ opening ∈ front ++ back, opening.shuns Unicode.whiteSpaceCodes = true := by
  have front : ((docker.rules.dropLast.map Rule.opening).take 2).all
      (·.shuns Unicode.whiteSpaceCodes) = true := by decide +kernel
  have back : ((docker.rules.dropLast.map Rule.opening).drop 4).all
      (·.shuns Unicode.whiteSpaceCodes) = true := by decide +kernel
  have comments := opening_comment
  have instructions := opening_instruction
  generalize docker.rules.dropLast.map Rule.opening = openings at front back comments instructions
  refine ⟨openings.take 2, openings.drop 4, ?_, fun opening member => ?_⟩
  · have split := List.take_append_drop 1 (openings.drop 2)
    have further := List.take_append_drop 1 (openings.drop 3)
    rw [comments, List.drop_drop] at split
    rw [instructions, List.drop_drop] at further
    calc openings
        _ = openings.take 2 ++ openings.drop 2 := (List.take_append_drop 2 openings).symm
        _ = openings.take 2 ++
            ([.ofExpr comment] ++ ([.ofExpr instruction] ++ openings.drop 4)) := by
          rw [further, split]
        _ = openings.take 2 ++ [.ofExpr comment, .ofExpr instruction] ++ openings.drop 4 := by simp
  · rcases List.mem_append.mp member with first | later
    · exact List.all_eq_true.mp front opening first
    · exact List.all_eq_true.mp back opening later

/-- In front of white space a rule applies if it is the one for comments or for instructions. -/
theorem appliesAt_docker_iff {line : Text} (white : indent line ≠ 0) :
    AppliesAt docker.rules.dropLast line 0 ↔
      (Pattern.ofExpr comment).StartsAt line 0 ∨ (Pattern.ofExpr instruction).StartsAt line 0 := by
  obtain ⟨front, back, split, others⟩ := exists_openings_docker
  have applies : AppliesAt docker.rules.dropLast line 0 ↔
      ∃ opening ∈ docker.rules.dropLast.map Rule.opening, opening.StartsAt line 0 := by
    simp only [AppliesAt, List.mem_map, exists_exists_and_eq_and]
  rw [applies, split]
  constructor
  · rintro ⟨opening, member, starts⟩
    by_contra neither
    have shunned : opening ∈ front ++ back := by
      simp only [List.mem_append, List.mem_cons, List.not_mem_nil, or_false] at member ⊢
      rcases member with (first | rfl | rfl) | last
      · exact .inl first
      · exact absurd (.inl starts) neither
      · exact absurd (.inr starts) neither
      · exact .inr last
    exact not_startsAt_of_shuns (others opening shunned) white starts
  · rintro (starts | starts)
    · exact ⟨_, by simp, starts⟩
    · exact ⟨_, by simp, starts⟩

/-! ### When a line opens indented -/

/-- The text is the word, each letter of it in any of its cases. -/
def Spells (word : String) (text : Text) : Prop :=
  List.Forall₂ (fun letter c => letter ∈ Unicode.caseVariants c) word.toList text

/-- The text begins with the word in any case, and the word ends there. -/
def BeginsWith (word : String) (text : Text) : Prop :=
  ∃ spelled rest, text = spelled ++ rest ∧ Spells word spelled ∧
    Edge.wordBoundary.holds spelled.getLast? rest.head? = true

/-- The text begins with a comment or an instruction. -/
def BeginsEntry (text : Text) : Prop :=
  text.head? = some '#' ∨ ∃ word ∈ instructionWords, BeginsWith word text

/-- The line begins with a comment or an instruction behind one or more blanks. -/
def OpensIndented (line : Text) : Prop :=
  ∃ blanks body, line = blanks ++ body ∧ blanks ≠ [] ∧ (∀ c ∈ blanks, c = ' ' ∨ c = '\t') ∧
    BeginsEntry body

/-- A pattern for something behind blanks starts a line in which that begins behind blanks. -/
theorem startsAt_behindBlanks_iff {blank : CharSet} {expr : Expr} (begins : Text → Prop)
    (some : expr.nullable = false)
    (means : ∀ start : Cursor, (∃ stop, expr.Matches start stop) ↔ begins start.rest)
    {line : Text} :
    (Pattern.ofExpr (behindBlanks blank expr)).StartsAt line 0 ↔
      ∃ blanks body, line = blanks ++ body ∧ (∀ c ∈ blanks, blank.member c = true) ∧
        begins body := by
  have bodied : (behindBlanks blank expr).nullable = false := by simp [behindBlanks, nullable, some]
  rw [Pattern.startsAt_iff (Nat.zero_le _)]
  simp only [Pattern.lengthAt?, List.take_zero, List.drop_zero, List.getLast?_nil,
    Pattern.exists_matchLength?_succ_iff bodied]
  have rest {blanks body : Text} (split : line = blanks ++ body) :
      (Cursor.advance ⟨0, none, line⟩ blanks.length).rest = body := by
    rw [Cursor.rest_advance, split, List.drop_left]
  constructor
  · rintro ⟨stop, _, ⟨-, rfl⟩, _, repeated, behind⟩
    obtain ⟨blanks, body, split, members, rfl⟩ := matches_repeated_char_iff.mp repeated
    have begun := (means _).mp ⟨stop, behind⟩
    rw [rest split] at begun
    exact ⟨blanks, body, split, members, begun⟩
  · rintro ⟨blanks, body, split, members, begun⟩
    rw [← rest split] at begun
    obtain ⟨stop, behind⟩ := (means _).mpr begun
    exact ⟨stop, _, ⟨rfl, rfl⟩, _,
      matches_repeated_char_iff.mpr ⟨blanks, body, split, members, rfl⟩, behind⟩

/-- A sign and whatever follows it match where the sign stands. -/
theorem exists_matches_sign_iff {sign : Char} {set : CharSet} {greedy : Bool} (start : Cursor) :
    (∃ stop, (Expr.seq (.char (.single sign)) (.repetition (.char set) 0 none greedy)).Matches
      start stop) ↔ start.rest.head? = some sign := by
  constructor
  · rintro ⟨stop, _, ⟨c, behind, shape, member, -⟩, -⟩
    rw [shape, CharSet.member_single_iff.mp member]
    rfl
  · intro here
    obtain ⟨behind, shape⟩ := List.head?_eq_some_iff.mp here
    exact ⟨_, _, ⟨sign, behind, shape, CharSet.member_single_iff.mpr rfl, rfl⟩,
      matches_repeated_char_iff.mpr ⟨[], behind, rfl, nofun, rfl⟩⟩

/-- A word in any case matches how it is spelled. -/
theorem matches_anyCase_iff {word : String} {start stop : Cursor} :
    (anyCase word).Matches start stop ↔
      ∃ spelled rest, start.rest = spelled ++ rest ∧ Spells word spelled ∧
        stop = start.advance spelled.length := by
  simp only [anyCase, Spells, matches_sequence_chars_iff, List.forall₂_map_left_iff, CharSet.member,
    List.any_eq_true, CharSet.member_single_iff, exists_eq_right]

/-- Words in any case match where the text begins with one of them. -/
theorem exists_matches_words_iff {words : List String} (some : words ≠ [])
    (letters : ∀ word ∈ words, word.toList ≠ []) (start : Cursor) :
    (∃ stop, (Expr.seq (.alternatives (words.map anyCase)) (.edge .wordBoundary)).Matches
      start stop) ↔ ∃ word ∈ words, BeginsWith word start.rest := by
  have before {word : String} (member : word ∈ words) {spelled rest : Text}
      (shape : start.rest = spelled ++ rest) (spells : Spells word spelled) :
      (start.advance spelled.length).before = spelled.getLast? := by
    have spelledSome : spelled ≠ [] := by
      rintro rfl
      exact letters word member (List.forall₂_nil_right_iff.mp spells)
    rw [Cursor.before_advance shape, List.getLast?_eq_getLast_of_ne_nil spelledSome, Option.some_or]
  have behind {spelled rest : Text} (shape : start.rest = spelled ++ rest) :
      (start.advance spelled.length).rest = rest := by
    rw [Cursor.rest_advance, shape, List.drop_left]
  have mapped : words.map anyCase ≠ [] := by simpa using some
  constructor
  · rintro ⟨_, _, alternative, boundary, rfl⟩
    obtain ⟨_, listed, matched⟩ := (matches_alternatives_iff mapped).mp alternative
    obtain ⟨word, member, rfl⟩ := List.mem_map.mp listed
    obtain ⟨spelled, rest, shape, spells, rfl⟩ := matches_anyCase_iff.mp matched
    rw [before member shape spells, behind shape] at boundary
    exact ⟨word, member, spelled, rest, shape, spells, boundary⟩
  · rintro ⟨word, member, spelled, rest, shape, spells, boundary⟩
    have matched := matches_anyCase_iff.mpr ⟨spelled, rest, shape, spells, rfl⟩
    rw [← before member shape spells, ← behind shape] at boundary
    exact ⟨_, _, (matches_alternatives_iff mapped).mpr ⟨_, List.mem_map_of_mem member, matched⟩,
      boundary, rfl⟩

/-- A comment starts a line in which a number sign stands behind blanks. -/
theorem startsAt_comment_iff {line : Text} :
    (Pattern.ofExpr comment).StartsAt line 0 ↔
      ∃ blanks body, line = blanks ++ body ∧ (∀ c ∈ blanks, c = ' ' ∨ c = '\t') ∧
        body.head? = some '#' := by
  rw [comment, startsAt_behindBlanks_iff (·.head? = some '#') rfl exists_matches_sign_iff]
  simp only [CharSet.member, Bool.or_eq_true, CharSet.member_single_iff]

theorem instructionWord_ne_nil {word : String} (member : word ∈ instructionWords) :
    word.toList ≠ [] := by
  have words : ∀ word ∈ instructionWords, word.toList ≠ [] := by decide
  exact words word member

/-- An instruction starts a line in which one of its words stands behind blanks. -/
theorem startsAt_instruction_iff {line : Text} :
    (Pattern.ofExpr instruction).StartsAt line 0 ↔
      ∃ blanks body, line = blanks ++ body ∧ (∀ c ∈ blanks, c = ' ' ∨ c = '\t') ∧
        ∃ word ∈ instructionWords, BeginsWith word body := by
  have words := exists_matches_words_iff (by decide) fun _ => instructionWord_ne_nil
  rw [instruction, startsAt_behindBlanks_iff (∃ word ∈ instructionWords, BeginsWith word ·)
    (by decide) words]
  -- A blank has no other case, so the sets of blanks are those of a comment.
  simp only [CharSet.member, Bool.or_eq_true, List.any_eq_true, CharSet.member_single_iff,
    exists_eq_right]
  simp only [@Unicode.mem_caseVariants_iff _ ' ' (by decide) (by decide),
    @Unicode.mem_caseVariants_iff _ '\t' (by decide) (by decide)]

/-- Neither a comment nor an instruction begins with white space. -/
theorem not_beginsEntry_of_indent {line : Text} (white : indent line ≠ 0) : ¬BeginsEntry line := by
  have caseless : ∀ code ∈ Unicode.whiteSpaceCodes, Char.ofNat code ≠ '#' ∧
      ∀ word ∈ instructionWords,
        word.toList.head?.all fun letter => letter ∉ Unicode.caseVariants (Char.ofNat code) := by
    decide +kernel
  obtain ⟨c, rest, rfl, space⟩ := exists_space_of_indent white
  obtain ⟨notSign, notLetter⟩ := caseless c.toNat (Unicode.toNat_mem_whiteSpaceCodes space)
  rw [Char.ofNat_toNat] at notSign notLetter
  rintro (sign | ⟨word, member, spelled, tail, shape, spells, boundary⟩)
  · exact notSign (Option.some.inj sign)
  · obtain ⟨letter, others, first⟩ := List.exists_cons_of_ne_nil (instructionWord_ne_nil member)
    rw [Spells, first] at spells
    cases spells with
    | cons variant =>
        obtain ⟨rfl, -⟩ := List.cons.inj shape
        have apart := notLetter word member
        rw [first, List.head?_cons, Option.all_some, decide_eq_true_eq] at apart
        exact apart variant

/-- A line that begins with white space to which another rule applies is one that opens indented. -/
theorem opensIndented_iff {line : Text} :
    indent line ≠ 0 ∧ AppliesAt docker.rules.dropLast line 0 ↔ OpensIndented line := by
  have behind : ((Pattern.ofExpr comment).StartsAt line 0 ∨
      (Pattern.ofExpr instruction).StartsAt line 0) ↔
        ∃ blanks body, line = blanks ++ body ∧ (∀ c ∈ blanks, c = ' ' ∨ c = '\t') ∧
          BeginsEntry body := by
    rw [startsAt_comment_iff, startsAt_instruction_iff]
    simp only [← exists_or, ← and_or_left, BeginsEntry]
  constructor
  · rintro ⟨white, applies⟩
    obtain ⟨blanks, body, rfl, members, begins⟩ :=
      behind.mp ((appliesAt_docker_iff white).mp applies)
    refine ⟨blanks, body, rfl, ?_, members, begins⟩
    rintro rfl
    exact not_beginsEntry_of_indent white begins
  · rintro ⟨blanks, body, split, some, members, begins⟩
    have white : indent line ≠ 0 := by
      obtain ⟨c, others, rfl⟩ := List.exists_cons_of_ne_nil some
      have space : Unicode.isWhiteSpace c = true := by
        rcases members c List.mem_cons_self with rfl | rfl <;> decide
      rw [split, List.cons_append, indent_cons_of_space space]
      exact Nat.succ_ne_zero _
    exact ⟨white, (appliesAt_docker_iff white).mpr
      (behind.mpr ⟨blanks, body, split, members, begins⟩)⟩

/-! ### Lines of a text -/

/-- In YAML the characters of every line get the kinds that they get when the line is lexed alone.
In a container build file they do exactly if the line is the first one or does not open indented. -/
theorem lines_lex_alike_iff {text line : Text} {front back : List Text}
    (split : text.lines = front ++ line :: back) :
    LexesAlike yaml text (opening front).length line ∧
      (LexesAlike docker text (opening front).length line ↔ front = [] ∨ ¬OpensIndented line) := by
  have newlineFree : '\n' ∉ line := by
    refine @newline_not_mem_of_mem_lines text line ?_
    rw [split]
    exact List.mem_append_right front List.mem_cons_self
  have first : opening front = [] ↔ front = [] := by
    cases front with
    | nil => simp [opening]
    | cons line others => simp [opening]
  obtain rfl := eq_of_lines_eq split
  have opens := opens_opening front
  have closes := closes_closing back
  constructor
  · rw [lineShaped_yaml.lexesAlike_iff opens closes newlineFree]
    exact .inr (Classical.or_iff_not_imp_left.mpr (not_appliesAt_yaml line))
  · rw [lineShaped_docker.lexesAlike_iff opens closes newlineFree, first, ← opensIndented_iff,
      not_and_or, not_not]

/-- The second line is an instruction behind a tab, which is all the same to YAML. -/
theorem lines_lex_alike_iff_of_indented_instruction :
    Text.lines ['a', '\n', '\t', 'R', 'u', 'n'] = [['a']] ++ ['\t', 'R', 'u', 'n'] :: [] ∧
      LexesAlike yaml ['a', '\n', '\t', 'R', 'u', 'n'] 2 ['\t', 'R', 'u', 'n'] ∧
      ¬LexesAlike docker ['a', '\n', '\t', 'R', 'u', 'n'] 2 ['\t', 'R', 'u', 'n'] := by
  have split : Text.lines ['a', '\n', '\t', 'R', 'u', 'n'] =
      [['a']] ++ ['\t', 'R', 'u', 'n'] :: [] := by decide
  obtain ⟨inYaml, inDocker⟩ := lines_lex_alike_iff split
  refine ⟨split, inYaml, fun alike => ?_⟩
  rcases inDocker.mp alike with first | outside
  · cases first
  · have spells : Spells "RUN" ['R', 'u', 'n'] := by
      rw [Spells]
      decide +kernel
    exact outside ⟨['\t'], ['R', 'u', 'n'], rfl, List.cons_ne_nil _ _, by simp,
      .inr ⟨"RUN", by decide, ['R', 'u', 'n'], [], rfl, spells, by decide⟩⟩

/-- An indented comment behind an empty line is plain text, and alone it is a comment. -/
theorem indented_comment_lexes_apart :
    Text.lines ['\n', ' ', '#'] = [[], [' ', '#']] ∧
      Token.kindAt? (docker.lex ['\n', ' ', '#']) 2 = some .text ∧
      Token.kindAt? (docker.lex [' ', '#']) 1 = some ⟨"Comment.Single"⟩ ∧
      ¬LexesAlike docker ['\n', ' ', '#'] 1 [' ', '#'] := by
  have inText : Token.kindAt? (docker.lex ['\n', ' ', '#']) 2 = some .text := by decide +kernel
  have alone : Token.kindAt? (docker.lex [' ', '#']) 1 = some ⟨"Comment.Single"⟩ := by
    decide +kernel
  refine ⟨by decide, inText, alone, fun alike => ?_⟩
  obtain ⟨kind, there, here⟩ := alike 1 (by decide)
  rw [inText] at there
  rw [alone, ← there] at here
  revert here
  decide

end Highlighter.Language
