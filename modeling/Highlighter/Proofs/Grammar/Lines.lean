import Highlighter.Proofs.Grammar.Boundaries
import Highlighter.Proofs.Pattern.Linewise
import Highlighter.Proofs.Pattern.Spaces
import Highlighter.Proofs.Token.LineLocal

/-!
# Grammars whose tokens stay on a line

In a line-shaped grammar (`Grammar.LineShaped`) every rule keeps to its line, except the last one,
which takes white space and with it newlines. So a line lexes in a text as it does alone, unless it
begins with white space that another rule wants (`Grammar.LineShaped.lexesAlike_iff`). Where no rule
does, the grammar works line by line (`Grammar.LineShaped.lineLocal`).
-/

namespace Highlighter

open Text

variable {before line behind text : Text} {place stop : Nat} {kind : TokenKind}

/-! ### Places of a line -/

theorem Text.drop_line (before behind : Text) (within : place ≤ line.length) :
    (before ++ line ++ behind).drop (before.length + place) = line.drop place ++ behind := by
  rw [List.append_assoc, List.drop_length_add_append, List.drop_append_of_le_length within]

theorem Text.take_line (before behind : Text) (within : place ≤ line.length) :
    (before ++ line ++ behind).take (before.length + place) = before ++ line.take place := by
  rw [List.append_assoc, List.take_length_add_append, List.take_append_of_le_length within]

/-- In front of a line stands a newline or nothing. -/
theorem Text.getLast?_of_opens (opens : Opens before) : before.getLast?.getD '\n' = '\n' := by
  rcases opens with rfl | ⟨front, rfl⟩
  · rfl
  · simp

/-- A linewise pattern matches at a place of a line what it matches there on the line alone. -/
theorem Pattern.lengthAt?_line {pattern : Pattern} (linewise : pattern.linewise = true)
    (opens : Opens before) (closes : Closes behind) (newlineFree : '\n' ∉ line)
    (within : place ≤ line.length) :
    pattern.lengthAt? (before ++ line ++ behind) (before.length + place) =
      pattern.lengthAt? line place := by
  rw [lengthAt?, lengthAt?, drop_line before behind within, take_line before behind within]
  have part : '\n' ∉ line.drop place := fun member => newlineFree (List.mem_of_mem_drop member)
  refine matchLength?_append linewise closes part ?_
  rw [List.getLast?_append]
  cases (line.take place).getLast? with
  | none => exact getLast?_of_opens opens
  | some c => rfl

/-! ### Rules that keep to their line -/

namespace Rule

/-- The tokens of the rule do not go beyond a newline, and do not depend on what stands there. -/
def confined : Rule → Bool
  | .region rule => rule.opening.linewise && rule.singleLine
  | .pattern rule => rule.pattern.linewise

variable {rule : Rule}

theorem linewise_of_confined (confined : rule.confined = true) : rule.opening.linewise = true := by
  cases rule with
  | region rule => exact (Bool.and_eq_true_iff.mp confined).1
  | pattern rule => exact confined

/-- The end of a token of the rule whose opening match ends at the offset `body`. -/
def stopBehind : Rule → Text → (body : Nat) → Nat
  | .region rule, text, body => rule.findEnd (.atOffset text body)
  | .pattern _, _, body => body

end Rule

namespace Grammar

/-- What a rule yields at a place hangs on its preferred match there. -/
theorem tokenHere?_eq_some_iff_lengthAt? {rule : Rule} (bounded : place ≤ text.length) :
    tokenHere? (.atOffset text place) rule = some (kind, stop) ↔
      ∃ length, rule.opening.lengthAt? text place = some (length + 1) ∧ kind = rule.kind ∧
        stop = rule.stopBehind text (place + (length + 1)) := by
  have ends (body : Nat) (later : place ≤ body) :
      rule.tokenEnd (.atOffset text place) ⟨place, body⟩ = rule.stopBehind text body := by
    cases rule with
    | region rule =>
        rw [Rule.tokenEnd, Cursor.advance_atOffset_sub bounded later]
        rfl
    | pattern rule => rfl
  simp only [tokenHere?_eq_some_iff bounded, Pattern.findNonempty?_here_iff bounded]
  constructor
  · rintro ⟨_, ⟨length, here, rfl⟩, same, rfl⟩
    exact ⟨length, here, same, ends _ (Nat.le_add_right _ _)⟩
  · rintro ⟨length, here, same, rfl⟩
    exact ⟨_, ⟨length, here, rfl⟩, same, (ends _ (Nat.le_add_right _ _)).symm⟩

/-- The first newline behind a place of a text comes before the first newline behind a later one. -/
theorem length_takeWhile_drop {α : Type} (p : α → Bool) (list : List α) {count : Nat}
    (within : count ≤ (list.takeWhile p).length) :
    ((list.drop count).takeWhile p).length = (list.takeWhile p).length - count := by
  induction list generalizing count with
  | nil => simp
  | cons head tail inductionHypothesis =>
      cases count with
      | zero => rfl
      | succ count =>
          by_cases holds : p head = true
          · rw [List.takeWhile_cons_of_pos holds, List.length_cons] at within ⊢
            rw [List.drop_succ_cons, inductionHypothesis (by omega)]
            omega
          · simp [holds] at within

/-- A front of a list in which a property holds ends at the latest where it does not. -/
theorem length_takeWhile_le {α : Type} {p : α → Bool} {list : List α} {index : Nat} {item : α}
    (atIndex : list[index]? = some item) (fails : p item = false) :
    (list.takeWhile p).length ≤ index := by
  induction list generalizing index with
  | nil => simp
  | cons head tail inductionHypothesis =>
      by_cases holds : p head = true
      · cases index with
        | zero =>
            obtain rfl := Option.some.inj atIndex
            rw [fails] at holds
            cases holds
        | succ index =>
            rw [List.takeWhile_cons_of_pos holds, List.length_cons]
            exact Nat.succ_le_succ (inductionHypothesis atIndex)
      · simp [holds]

/-- The token of a confined rule ends at the first newline, or before it. -/
theorem tokenHere?_le_of_confined {rule : Rule} (confined : rule.confined = true)
    (bounded : place ≤ text.length)
    (here : tokenHere? (.atOffset text place) rule = some (kind, stop)) :
    stop ≤ place + ((text.drop place).takeWhile (· != '\n')).length := by
  obtain ⟨length, opens, -, rfl⟩ := (tokenHere?_eq_some_iff_lengthAt? bounded).mp here
  have opening := Pattern.matchLength?_le_of_linewise (Rule.linewise_of_confined confined) opens
  cases rule with
  | region rule =>
      have singleLine : rule.singleLine = true := (Bool.and_eq_true_iff.mp confined).2
      have further := length_takeWhile_drop (· != '\n') (text.drop place) opening
      have inside : place + (length + 1) ≤ text.length := by
        have part : ((text.drop place).takeWhile (· != '\n')).length ≤ (text.drop place).length :=
          (List.takeWhile_prefix _).length_le
        rw [List.length_drop] at part
        omega
      have ends := (rule.findEnd_le_limit (.atOffset text (place + (length + 1)))).2
      rw [RegionRule.limit, if_pos singleLine, Cursor.offset_atOffset inside, Cursor.rest_atOffset,
        ← List.drop_drop, further] at ends
      rw [Rule.stopBehind]
      omega
  | pattern rule => exact Nat.add_le_add_left opening place

/-- A token of a confined rule that opens on a line ends there as on the line alone. -/
theorem stopBehind_line {rule : Rule} (confined : rule.confined = true) (closes : Closes behind)
    (newlineFree : '\n' ∉ line) {body : Nat} (opened : 0 < body) (within : body ≤ line.length) :
    rule.stopBehind (before ++ line ++ behind) (before.length + body) =
      before.length + rule.stopBehind line body := by
  have inside : before.length + body ≤ (before ++ line ++ behind).length := by
    simp only [List.length_append]
    omega
  cases rule with
  | region rule =>
      refine RegionRule.findEnd_of_same_line (Bool.and_eq_true_iff.mp confined).2 ?_ ?_ ?_
      · rw [Cursor.offset_atOffset inside, Cursor.offset_atOffset within]
      · rw [Cursor.before_atOffset, Cursor.before_atOffset, take_line before behind within]
        refine List.getLast?_append_of_ne_nil _ (List.ne_nil_of_length_pos ?_)
        rw [List.length_take]
        omega
      · have part : '\n' ∉ line.drop body := fun member =>
          newlineFree (List.mem_of_mem_drop member)
        have alone := takeWhile_append_of_closes (.inl rfl) part
        rw [List.append_nil] at alone
        rw [Cursor.rest_atOffset, Cursor.rest_atOffset, drop_line before behind within,
          takeWhile_append_of_closes closes part, alone]
  | pattern rule => rfl

/-- A confined rule yields the same token at a place of a line as on the line alone. -/
theorem tokenHere?_line {rule : Rule} (confined : rule.confined = true)
    (opens : Opens before) (closes : Closes behind) (newlineFree : '\n' ∉ line)
    (within : place ≤ line.length) :
    tokenHere? (.atOffset (before ++ line ++ behind) (before.length + place)) rule =
      (tokenHere? (.atOffset line place) rule).map fun token =>
        (token.1, before.length + token.2) := by
  have inside : before.length + place ≤ (before ++ line ++ behind).length := by
    simp only [List.length_append]
    omega
  have linewise := Rule.linewise_of_confined confined
  have same := Pattern.lengthAt?_line linewise opens closes newlineFree within
  have stops {length : Nat} (here : rule.opening.lengthAt? line place = some (length + 1)) :
      rule.stopBehind (before ++ line ++ behind) (before.length + place + (length + 1)) =
        before.length + rule.stopBehind line (place + (length + 1)) := by
    have there := Pattern.matchLength?_le here
    rw [List.length_drop] at there
    rw [Nat.add_assoc]
    exact stopBehind_line confined closes newlineFree (by omega) (by omega)
  refine Option.ext fun ⟨kind, stop⟩ => ?_
  simp only [Option.map_eq_some_iff, Prod.mk.injEq, Prod.exists,
    tokenHere?_eq_some_iff_lengthAt? inside, tokenHere?_eq_some_iff_lengthAt? within, same]
  constructor
  · rintro ⟨length, here, rfl, rfl⟩
    exact ⟨_, _, ⟨length, here, rfl, rfl⟩, rfl, (stops here).symm⟩
  · rintro ⟨_, _, ⟨length, here, rfl, rfl⟩, rfl, rfl⟩
    exact ⟨length, here, rfl, (stops here).symm⟩

/-! ### Line-shaped grammars -/

variable {grammar : Grammar} {inner : List Rule} {space : PatternRule}

/-- All rules of the grammar keep to their line, except the last one, which takes white space and
has a kind of its own. -/
structure LineShaped (grammar : Grammar) (inner : List Rule) (space : PatternRule) : Prop where
  rules : grammar.rules = inner ++ [.pattern space]
  confined : ∀ rule ∈ inner, rule.confined = true
  kinds : ∀ rule ∈ inner, rule.kind ≠ space.kind
  spaces : space.pattern = .spaces

/-- The token that the first of the rules yields that applies at a place. -/
def firstToken? (rules : List Rule) (text : Text) (place : Nat) : Option (TokenKind × Nat) :=
  rules.findSome? (tokenHere? (.atOffset text place))

/-- There is no such token where none of the rules applies. -/
theorem firstToken?_eq_none_iff {rules : List Rule} (bounded : place ≤ text.length) :
    firstToken? rules text place = none ↔ ¬AppliesAt rules text place := by
  rw [firstToken?, List.findSome?_eq_none_iff, AppliesAt]
  simp only [tokenHere?_eq_none_iff bounded, not_exists, not_and]

namespace LineShaped

/-- The rule for white space takes all that there is of it. -/
theorem tokenHere?_space (shaped : LineShaped grammar inner space) (bounded : place ≤ text.length) :
    tokenHere? (.atOffset text place) (.pattern space) =
      if indent (text.drop place) = 0 then none
      else some (space.kind, place + indent (text.drop place)) := by
  refine Option.ext fun ⟨kind, stop⟩ => ?_
  rw [tokenHere?_eq_some_iff_lengthAt? bounded, Rule.opening, shaped.spaces, Pattern.lengthAt?,
    Pattern.matchLength?_spaces]
  rcases indent (text.drop place) with _ | length <;> simp [Rule.kind, Rule.stopBehind, eq_comm]

/-- A rule of the grammar applies at a place where an inner rule does or white space stands. -/
theorem appliesAt_iff (shaped : LineShaped grammar inner space) (bounded : place ≤ text.length) :
    AppliesAt grammar.rules text place ↔
      firstToken? inner text place ≠ none ∨ indent (text.drop place) ≠ 0 := by
  rw [← not_iff_not, ← firstToken?_eq_none_iff bounded, firstToken?, shaped.rules,
    List.findSome?_append, ← firstToken?, Option.or_eq_none_iff, List.findSome?_singleton,
    shaped.tokenHere?_space bounded]
  simp

/-- The three tokens that are possible at a place: that of an inner rule, else all white space that
stands there, else what is left up to the next place where a rule applies. -/
theorem tokenAt_iff (shaped : LineShaped grammar inner space) (within : place < text.length) :
    TokenAt grammar text place kind stop ↔
      firstToken? inner text place = some (kind, stop) ∨
        firstToken? inner text place = none ∧ indent (text.drop place) ≠ 0 ∧ kind = space.kind ∧
          stop = place + indent (text.drop place) ∨
        kind = .text ∧ Gap grammar text place stop := by
  have bounded := Nat.le_of_lt within
  have first : grammar.rules.findSome? (tokenHere? (.atOffset text place)) =
      (firstToken? inner text place).or (if indent (text.drop place) = 0 then none
        else some (space.kind, place + indent (text.drop place))) := by
    rw [shaped.rules, List.findSome?_append, List.findSome?_singleton,
      shaped.tokenHere?_space bounded, firstToken?]
  have applies := shaped.appliesAt_iff bounded
  rw [Grammar.tokenAt_iff bounded, first]
  cases found : firstToken? inner text place with
  | some token =>
      have noGap : ¬Gap grammar text place stop := fun gap =>
        gap.not_appliesAt (applies.mpr (.inl (by simp [found])))
      simp [noGap]
  | none =>
      by_cases blank : indent (text.drop place) = 0
      · have nowhere : ¬AppliesAt grammar.rules text place := by
          rw [applies, found]
          simp [blank]
        rw [if_pos blank, Option.or_none, Option.getD_none, gap_iff within nowhere, Prod.mk.injEq]
        simp [blank, eq_comm]
      · have noGap : ¬Gap grammar text place stop := fun gap =>
          gap.not_appliesAt (applies.mpr (.inr blank))
        simp [noGap, blank, eq_comm]

/-! ### Tokens of a line -/

section Lines

variable (shaped : LineShaped grammar inner space) (opens : Opens before) (closes : Closes behind)
  (newlineFree : '\n' ∉ line)

include shaped opens closes newlineFree

/-- What the inner rules yield at a place of a line does not hang on what is around the line. -/
theorem firstToken?_line (bounded : place ≤ line.length) :
    firstToken? inner (before ++ line ++ behind) (before.length + place) =
      (firstToken? inner line place).map fun token => (token.1, before.length + token.2) := by
  have confined := shaped.confined
  clear shaped
  rw [firstToken?, firstToken?, List.map_findSome?]
  induction inner with
  | nil => rfl
  | cons rule others inductionHypothesis =>
      obtain ⟨here, later⟩ := List.forall_mem_cons.mp confined
      rw [List.findSome?_cons, List.findSome?_cons, inductionHypothesis later,
        tokenHere?_line here opens closes newlineFree bounded]
      rfl

/-- The rules apply at the places of a line where they apply on the line alone. -/
theorem appliesAt_line (within : place < line.length) :
    AppliesAt grammar.rules (before ++ line ++ behind) (before.length + place) ↔
      AppliesAt grammar.rules line place := by
  have bounded := Nat.le_of_lt within
  have inside : before.length + place ≤ (before ++ line ++ behind).length := by
    simp only [List.length_append]
    omega
  have white : indent (line.drop place ++ behind) = 0 ↔ indent (line.drop place) = 0 := by
    rw [indent_eq_zero_iff, indent_eq_zero_iff,
      List.head?_append_of_ne_nil _ (List.ne_nil_of_length_pos (by rw [List.length_drop]; omega))]
  rw [shaped.appliesAt_iff inside, shaped.appliesAt_iff bounded,
    shaped.firstToken?_line opens closes newlineFree bounded, drop_line before behind bounded, Ne,
    Ne, Ne, Ne, white, Option.map_eq_none_iff]

/-- Where a gap of the line alone is, there is one in the text. At the end of the line it ends in
front of a newline. -/
theorem gap_line (gap : Gap grammar line place stop) :
    Gap grammar (before ++ line ++ behind) (before.length + place) (before.length + stop) := by
  obtain ⟨progress, inside, ends, free⟩ := gap
  refine ⟨by omega, by simp only [List.length_append]; omega, ?_, ?_⟩
  · by_cases atEnd : stop = line.length
    · subst atEnd
      rcases closes with rfl | ⟨rest, rfl⟩
      · exact .inl (by simp)
      · refine .inr ((shaped.appliesAt_iff (by simp)).mpr (.inr ?_))
        rw [drop_line before _ inside, List.drop_length, List.nil_append,
          indent_cons_of_space (by decide)]
        exact Nat.succ_ne_zero _
    · exact .inr ((shaped.appliesAt_line opens closes newlineFree (by omega)).mpr
        (ends.resolve_left atEnd))
  · rintro earlier lower upper applies
    obtain ⟨inLine, rfl⟩ := Nat.exists_eq_add_of_le (Nat.le_trans (Nat.le_add_right _ _) lower)
    refine free inLine (by omega) (by omega) ?_
    exact (shaped.appliesAt_line opens closes newlineFree (by omega)).mp applies

/-- The token at a place of a line begins like the one on the line alone: it has the same kind and
the same end, but white space can go on behind the line. -/
theorem tokenAt_line (within : place < line.length)
    (token : TokenAt grammar line place kind stop) :
    ∃ further, TokenAt grammar (before ++ line ++ behind) (before.length + place) kind further ∧
      before.length + stop ≤ further ∧
      (stop < line.length → further = before.length + stop) := by
  have bounded := Nat.le_of_lt within
  have inside : before.length + place < (before ++ line ++ behind).length := by
    simp only [List.length_append]
    omega
  have inner := shaped.firstToken?_line opens closes newlineFree bounded
  rcases (shaped.tokenAt_iff within).mp token with found | ⟨nothing, white, rfl, rfl⟩ | ⟨rfl, gap⟩
  · refine ⟨before.length + stop, (shaped.tokenAt_iff inside).mpr (.inl ?_), Nat.le_refl _,
      fun _ => rfl⟩
    rw [inner, found]
    rfl
  · refine ⟨before.length + place + indent (line.drop place ++ behind),
      (shaped.tokenAt_iff inside).mpr (.inr (.inl ?_)), ?_⟩
    · rw [inner, nothing, drop_line before behind bounded]
      refine ⟨rfl, ?_, rfl, rfl⟩
      rw [indent_append]
      split <;> omega
    · have part := indent_le_length (line.drop place)
      rw [List.length_drop] at part
      rw [indent_append, List.length_drop]
      split <;> omega
  · exact ⟨before.length + stop, (shaped.tokenAt_iff inside).mpr
      (.inr (.inr ⟨rfl, shaped.gap_line opens closes newlineFree gap⟩)), Nat.le_refl _,
      fun _ => rfl⟩

omit shaped opens closes newlineFree in
/-- A token that holds a newline is white space, and takes all that there is behind the newline. -/
theorem token_over_newline (shaped : LineShaped grammar inner space) {index : Nat}
    (newline : text[index]? = some '\n') (token : TokenAt grammar text place kind stop)
    (lower : place ≤ index) (upper : index < stop) :
    kind = space.kind ∧ stop = index + 1 + indent (text.drop (index + 1)) := by
  have inside : index < text.length := (List.getElem?_eq_some_iff.mp newline).1
  have within : place < text.length := by omega
  rcases (shaped.tokenAt_iff within).mp token with found | ⟨-, -, rfl, rfl⟩ | ⟨-, gap⟩
  · exfalso
    obtain ⟨rule, member, here⟩ := List.exists_of_findSome?_eq_some found
    have ends := tokenHere?_le_of_confined (shaped.confined rule member) (Nat.le_of_lt within) here
    have line : ((text.drop place).takeWhile (· != '\n')).length ≤ index - place := by
      have there : (text.drop place)[index - place]? = some '\n' := by
        rw [List.getElem?_drop, Nat.add_sub_cancel' lower, newline]
      exact length_takeWhile_le there rfl
    omega
  · have passed : index + 1 - place ≤ indent (text.drop place) := by omega
    have further : indent ((text.drop place).drop (index + 1 - place)) =
        indent (text.drop place) - (index + 1 - place) := length_takeWhile_drop _ _ passed
    rw [List.drop_drop, Nat.add_sub_cancel' (Nat.le_add_right_of_le lower)] at further
    exact ⟨rfl, by omega⟩
  · refine absurd ((shaped.appliesAt_iff (Nat.le_of_lt inside)).mpr (.inr ?_))
      (gap.free index lower upper)
    rw [List.drop_eq_getElem?_toList_append, newline, Option.toList_some, List.singleton_append,
      indent_cons_of_space (by decide)]
    exact Nat.succ_ne_zero _

/-- From a boundary on that a line has in the text and alone, all of its characters get the same
kinds. -/
theorem alike_from_boundary (alone : Boundary grammar line place)
    (inText : Boundary grammar (before ++ line ++ behind) (before.length + place)) {index : Nat}
    (lower : place ≤ index) (upper : index < line.length) :
    ∃ kind, Token.kindAt? (grammar.lex (before ++ line ++ behind)) (before.length + index) =
        some kind ∧ Token.kindAt? (grammar.lex line) index = some kind := by
  induction distance : line.length - place using Nat.strongRecOn generalizing place with
  | _ distance inductionHypothesis =>
      subst distance
      have within : place < line.length := by omega
      obtain ⟨kind, stop, token⟩ := exists_tokenAt grammar (Nat.le_of_lt within)
      obtain ⟨further, tokenInText, reaches, same⟩ :=
        shaped.tokenAt_line opens closes newlineFree within token
      have progress := (token.bounds within).1
      have inside : before.length + place < (before ++ line ++ behind).length := by
        simp only [List.length_append]
        omega
      by_cases held : index < stop
      · exact ⟨kind, kindAt?_lex inText inside tokenInText (by omega) (by omega),
          kindAt?_lex alone within token lower held⟩
      · obtain rfl := same (by omega)
        exact inductionHypothesis _ (by omega) (alone.step within token)
          (inText.step inside tokenInText) (by omega) rfl

end Lines

end LineShaped

/-- The characters of a line of a text, which starts at the offset `start`, get the kinds that they
get when the line is lexed alone. -/
def LexesAlike (grammar : Grammar) (text : Text) (start : Nat) (line : Text) : Prop :=
  ∀ index < line.length, ∃ kind, Token.kindAt? (grammar.lex text) (start + index) = some kind ∧
    Token.kindAt? (grammar.lex line) index = some kind

namespace LineShaped

/-- The white space in front of a line reaches into it: the characters at its start get the kind of
white space, and behind them is a boundary. -/
theorem boundary_behind_newline (shaped : LineShaped grammar inner space) (opens : Opens before)
    (notFirst : before ≠ []) (rest : Text) :
    Boundary grammar (before ++ rest) (before.length + indent rest) ∧
      ∀ index < indent rest,
        Token.kindAt? (grammar.lex (before ++ rest)) (before.length + index) = some space.kind := by
  obtain ⟨front, rfl⟩ := opens.resolve_left notFirst
  have newline : (front ++ ['\n'] ++ rest)[front.length]? = some '\n' := by simp
  have behind : (front ++ ['\n'] ++ rest).drop (front.length + 1) = rest := by simp
  have inside : front.length < (front ++ ['\n'] ++ rest).length := by simp
  obtain ⟨place, kind, stop, boundary, token, lower, upper⟩ := exists_boundary grammar inside
  obtain ⟨rfl, rfl⟩ := shaped.token_over_newline newline token lower upper
  rw [behind] at token upper
  rw [List.length_append, List.length_singleton]
  exact ⟨boundary.step (by omega) token, fun index below =>
    kindAt?_lex boundary (by omega) token (by omega) (by omega)⟩

/-- A line that begins at a boundary of the text lexes as it does alone. -/
theorem lexesAlike_of_boundary (shaped : LineShaped grammar inner space) (opens : Opens before)
    (closes : Closes behind) (newlineFree : '\n' ∉ line)
    (boundary : Boundary grammar (before ++ line ++ behind) before.length) :
    LexesAlike grammar (before ++ line ++ behind) before.length line := fun index within =>
  shaped.alike_from_boundary opens closes newlineFree (boundary_zero grammar line) boundary
    (Nat.zero_le index) within

/-- A line behind a newline lexes apart if it begins with white space that another rule wants: alone
it begins with a token of that rule, in the text with white space. -/
theorem not_lexesAlike_of_appliesAt (shaped : LineShaped grammar inner space)
    (opens : Opens before) (notFirst : before ≠ []) (white : indent line ≠ 0)
    (applies : AppliesAt inner line 0) :
    ¬LexesAlike grammar (before ++ line ++ behind) before.length line := by
  intro alike
  have within : 0 < line.length := Nat.lt_of_lt_of_le (Nat.pos_of_ne_zero white)
    (indent_le_length line)
  have wanted : firstToken? inner line 0 ≠ none := fun nothing =>
    (firstToken?_eq_none_iff (Nat.zero_le _)).mp nothing applies
  obtain ⟨⟨kind, stop⟩, found⟩ := Option.ne_none_iff_exists'.mp wanted
  have token := (shaped.tokenAt_iff within).mpr (.inl found)
  obtain ⟨rule, member, here⟩ := List.exists_of_findSome?_eq_some found
  obtain ⟨-, -, rfl, -⟩ := (tokenHere?_eq_some_iff (Nat.zero_le _)).mp here
  obtain ⟨same, inText, alone⟩ := alike 0 within
  rw [kindAt?_lex (boundary_zero grammar line) within token (Nat.le_refl 0)
    (token.bounds within).1] at alone
  have taken := (shaped.boundary_behind_newline opens notFirst (line ++ behind)).2 0
  rw [← List.append_assoc, Nat.add_zero] at taken
  have reaches := indent_append line behind
  rw [Nat.add_zero, taken (by split at reaches <;> omega)] at inText
  exact shaped.kinds rule member (Option.some.inj (alone.trans inText.symm))

/-- A line behind a newline lexes as it does alone if no other rule applies to the white space that
it begins with: both times it begins with white space, and goes on alike behind it. -/
theorem lexesAlike_behind_newline (shaped : LineShaped grammar inner space) (opens : Opens before)
    (closes : Closes behind) (newlineFree : '\n' ∉ line) (notFirst : before ≠ [])
    (unwanted : indent line = 0 ∨ ¬AppliesAt inner line 0) :
    LexesAlike grammar (before ++ line ++ behind) before.length line := by
  obtain ⟨boundary, white⟩ := shaped.boundary_behind_newline opens notFirst (line ++ behind)
  rw [← List.append_assoc] at boundary white
  have reaches := indent_append line behind
  have part := indent_le_length line
  intro index within
  by_cases unindented : indent line = 0
  · rw [if_neg (by omega)] at reaches
    rw [reaches, unindented] at boundary
    exact shaped.lexesAlike_of_boundary opens closes newlineFree boundary index within
  have notEmpty : 0 < line.length := by omega
  have nothing := (firstToken?_eq_none_iff (Nat.zero_le _)).mpr (unwanted.resolve_left unindented)
  have token : TokenAt grammar line 0 space.kind (indent line) :=
    (shaped.tokenAt_iff notEmpty).mpr (.inr (.inl ⟨nothing, unindented, rfl, by simp⟩))
  have start := boundary_zero grammar line
  by_cases inside : index < indent line
  · exact ⟨space.kind, white index (by split at reaches <;> omega),
      kindAt?_lex start notEmpty token (Nat.zero_le _) inside⟩
  · rw [if_neg (by omega)] at reaches
    rw [reaches] at boundary
    exact shaped.alike_from_boundary opens closes newlineFree (start.step notEmpty token) boundary
      (by omega) within

/-- A line lexes in a text as it does alone, unless it is not the first one and begins with white
space that alone belongs to the token of another rule. -/
theorem lexesAlike_iff (shaped : LineShaped grammar inner space) (opens : Opens before)
    (closes : Closes behind) (newlineFree : '\n' ∉ line) :
    LexesAlike grammar (before ++ line ++ behind) before.length line ↔
      before = [] ∨ indent line = 0 ∨ ¬AppliesAt inner line 0 := by
  constructor
  · intro alike
    by_contra differs
    simp only [not_or, not_not] at differs
    obtain ⟨notFirst, white, applies⟩ := differs
    exact shaped.not_lexesAlike_of_appliesAt opens notFirst white applies alike
  · intro same
    by_cases first : before = []
    · subst first
      exact shaped.lexesAlike_of_boundary opens closes newlineFree (boundary_zero grammar _)
    · exact shaped.lexesAlike_behind_newline opens closes newlineFree first
        (same.resolve_left first)

/-- If no inner rule applies in front of white space, the grammar works line by line. -/
theorem lineLocal (shaped : LineShaped grammar inner space)
    (shuns : ∀ line, indent line ≠ 0 → ¬AppliesAt inner line 0) : grammar.tokenizer.LineLocal where
  covers text := (Tokenizer.OfLibrary.partitions (.grammar grammar) text).covers
  blockKinds {before behind} block opens closes index c atIndex visible := by
    have alike {before behind line : Text} (opens : Opens before) (closes : Closes behind)
        (newlineFree : '\n' ∉ line) :
        LexesAlike grammar (before ++ line ++ behind) before.length line := by
      refine (shaped.lexesAlike_iff opens closes newlineFree).mpr (.inr ?_)
      exact Classical.or_iff_not_imp_left.mpr (shuns line)
    obtain ⟨front, line, back, split, place, within, rfl⟩ :=
      exists_line_of_getElem? atIndex visible
    have newlineFree : '\n' ∉ line := by
      refine @newline_not_mem_of_mem_lines block line ?_
      rw [split]
      exact List.mem_append_right front List.mem_cons_self
    obtain rfl := eq_of_lines_eq split
    have opensLine := opens_opening front
    have closesLine := closes_closing back
    obtain ⟨kind, inBlock, alone⟩ := alike opensLine closesLine newlineFree place within
    obtain ⟨other, inText, aloneToo⟩ := alike (opens.append opensLine) (closesLine.append closes)
      newlineFree place within
    have whole : before ++ opening front ++ line ++ (closing back ++ behind) =
        before ++ (opening front ++ line ++ closing back) ++ behind := by
      simp only [List.append_assoc]
    rw [whole, List.length_append, Nat.add_assoc] at inText
    exact inText.trans ((aloneToo.symm.trans alone).trans inBlock.symm)

end LineShaped

end Grammar

end Highlighter
