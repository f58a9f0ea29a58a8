import Highlighter.Grammar.Lexer
import Highlighter.Proofs.Grammar.Rule
import Mathlib.Order.Bounds.Basic

/-!
# The remembering lexer against a scan that remembers nothing

`Grammar.lex` keeps for every rule what the last search for it found, and `Grammar.scan` searches
for every rule afresh at every token. What is kept stays right while the cursor goes forward
(`Hit.Sound`), also for rules that are left out for a while, so both yield the same tokens.

`Grammar.Scanned` says what these tokens are, without a cursor that is carried along and without a
bound on the number of steps: one token stands behind the other, and `Grammar.TokenAt` decides each
from the text and its place alone.
-/

namespace Highlighter

/-! ### What is remembered about a rule -/

namespace Hit

/-- What is remembered about a rule agrees with a search from the cursor: a place that the cursor
has not passed is the one that the search finds, and an exhausted rule is not found. -/
def Sound (rule : Rule) (cursor : Cursor) : Hit → Prop
  | .unknown => True
  | .at extent => cursor.offset ≤ extent.start → rule.find? cursor = some extent
  | .exhausted => rule.find? cursor = none

variable {hit : Hit} {rule : Rule} {cursor : Cursor}

/-- What is remembered stays right while the cursor goes forward. -/
theorem Sound.advance (sound : hit.Sound rule cursor) (count : Nat) :
    hit.Sound rule (cursor.advance count) := by
  cases hit with
  | unknown => trivial
  | «at» extent =>
      intro reached
      have further := Cursor.offset_advance cursor count
      have found := sound (by omega)
      rw [Rule.find?_eq] at found ⊢
      exact Pattern.findNonempty?_advance_of_le found reached
  | exhausted =>
      have nothing : rule.find? cursor = none := sound
      rw [Rule.find?_eq] at nothing
      change rule.find? (cursor.advance count) = none
      rw [Rule.find?_eq]
      exact Pattern.findNonempty?_advance_of_eq_none nothing count

/-- The outcome of a search agrees with it. -/
theorem sound_ofSearch (rule : Rule) (cursor : Cursor) :
    (ofSearch (rule.find? cursor)).Sound rule cursor := by
  cases found : rule.find? cursor with
  | none => exact found
  | some extent => exact fun _ => found

theorem extent?_ofSearch (found : Option Extent) : (ofSearch found).extent? = found := by
  cases found <;> rfl

/-- After a refresh, what is remembered agrees with a search from the cursor. -/
theorem Sound.refresh (sound : hit.Sound rule cursor) :
    (hit.refresh rule cursor).Sound rule cursor := by
  cases hit with
  | unknown => exact sound_ofSearch rule cursor
  | «at» extent =>
      rw [Hit.refresh]
      split
      next => exact sound
      next => exact sound_ofSearch rule cursor
  | exhausted => exact sound

/-- A refresh gives what a search from the cursor finds, whether or not it searches. -/
theorem Sound.extent?_refresh (sound : hit.Sound rule cursor) :
    (hit.refresh rule cursor).extent? = rule.find? cursor := by
  cases hit with
  | unknown => exact extent?_ofSearch _
  | «at» extent =>
      rw [Hit.refresh]
      split
      next reached => exact (sound reached).symm
      next => exact extent?_ofSearch _
  | exhausted =>
      have nothing : rule.find? cursor = none := sound
      rw [nothing]
      rfl

end Hit

namespace Grammar

/-! ### One token -/

/-- The outcome of trying rules agrees with searches from the cursor. -/
structure Attempt.Fresh (attempt : Attempt) (rules : List Rule) (cursor : Cursor)
    (nearest : Nat) : Prop where
  found : attempt.found = rules.findSome? (tokenHere? cursor)
  nearest : attempt.found = none → attempt.nearest =
    (rules.filterMap fun rule => (rule.find? cursor).map (·.start)).foldl min nearest
  sameRules : attempt.rules.map (·.1) = rules
  sound : ∀ entry ∈ attempt.rules, entry.2.Sound entry.1 cursor

/-- Trying rules with what is remembered about them is like searching for all of them. -/
theorem fresh_attempt {cursor : Cursor} {rules : List (Rule × Hit)}
    (sound : ∀ entry ∈ rules, entry.2.Sound entry.1 cursor) (nearest : Nat) :
    (attempt cursor nearest rules).Fresh (rules.map (·.1)) cursor nearest := by
  induction rules generalizing nearest with
  | nil => exact ⟨rfl, fun _ => rfl, rfl, sound⟩
  | cons entry others inductionHypothesis =>
      obtain ⟨rule, hit⟩ := entry
      have here : hit.Sound rule cursor := sound _ List.mem_cons_self
      have later := inductionHypothesis fun entry member =>
        sound entry (List.mem_cons_of_mem _ member)
      have refreshed := here.extent?_refresh
      rw [attempt]
      dsimp only
      rw [refreshed]
      cases found : rule.find? cursor with
      | none =>
          have fresh := later nearest
          refine {
            found := by simp [tokenHere?, found, fresh.found]
            nearest := fun nothing => by simp [found, fresh.nearest nothing]
            sameRules := by simp [fresh.sameRules]
            sound := ?_ }
          exact List.forall_mem_cons.mpr ⟨here.refresh, fresh.sound⟩
      | some extent =>
          dsimp only
          split
          next starts =>
            refine {
              found := by simp [tokenHere?, found, starts]
              nearest := nofun
              sameRules := rfl
              sound := ?_ }
            exact List.forall_mem_cons.mpr
              ⟨here.refresh, fun entry member => sound entry (List.mem_cons_of_mem _ member)⟩
          next away =>
            have fresh := later (min nearest extent.start)
            refine {
              found := by simp [tokenHere?, found, away, fresh.found]
              nearest := fun nothing => by simp [found, fresh.nearest nothing]
              sameRules := by simp [fresh.sameRules]
              sound := ?_ }
            exact List.forall_mem_cons.mpr ⟨here.refresh, fresh.sound⟩

/-! ### All tokens -/

/-- With what is remembered about the rules, the tokens are those of searching for every rule
afresh. -/
theorem lexFrom_eq_scanFrom {rules : List (Rule × Hit)} {cursor : Cursor}
    (sound : ∀ entry ∈ rules, entry.2.Sound entry.1 cursor) (steps : Nat) :
    lexFrom steps rules cursor = scanFrom (rules.map (·.1)) steps cursor := by
  induction steps generalizing rules cursor with
  | zero => rfl
  | succ steps inductionHypothesis =>
      rw [lexFrom, scanFrom]
      split
      next => rfl
      next =>
        have fresh := fresh_attempt sound cursor.limit
        have same : (attempt cursor cursor.limit rules).found.getD
              (.text, (attempt cursor cursor.limit rules).nearest) =
            ((rules.map (·.1)).findSome? (tokenHere? cursor)).getD
              (.text, nearestStart (rules.map (·.1)) cursor) := by
          rw [← fresh.found]
          cases nothing : (attempt cursor cursor.limit rules).found with
          | none => rw [Option.getD_none, Option.getD_none, fresh.nearest nothing, nearestStart]
          | some token => rfl
        dsimp only
        rw [same]
        generalize ((rules.map (·.1)).findSome? (tokenHere? cursor)).getD _ = token
        rw [inductionHypothesis fun entry member =>
          (fresh.sound entry member).advance (token.2 - cursor.offset), fresh.sameRules]

/-- A lexer that remembers nothing yet yields the tokens of the plain scan. -/
theorem lexFrom_unknown_eq_scanFrom (rules : List Rule) (steps : Nat) (cursor : Cursor) :
    lexFrom steps (rules.map (·, .unknown)) cursor = scanFrom rules steps cursor := by
  rw [lexFrom_eq_scanFrom]
  · rw [List.map_map]
    exact congrArg (scanFrom · steps cursor) (List.map_id _)
  · intro entry member
    obtain ⟨rule, -, rfl⟩ := List.mem_map.mp member
    trivial

/-- The tokens of a text are those of the plain scan. -/
theorem lex_eq_scan (grammar : Grammar) (text : Text) : grammar.lex text = grammar.scan text :=
  lexFrom_unknown_eq_scanFrom _ _ _

end Grammar

/-! ### The tokens of a text -/

/-- A search from a place of a text finds its first nonempty match right there. -/
def Pattern.StartsAt (pattern : Pattern) (text : Text) (place : Nat) : Prop :=
  ∃ stop, pattern.findNonempty? (.atOffset text place) = some ⟨place, stop⟩

namespace Grammar

/-- The kind and the end of the token at a place of a text, as searches from that place decide
them. -/
inductive TokenAt (grammar : Grammar) (text : Text) (place : Nat) : TokenKind → Nat → Prop where
  /-- The first region that opens here reaches up to its end. -/
  | region {rule : RegionRule} {front back : List RegionRule} {body : Nat}
      (order : grammar.regions = front ++ rule :: back)
      (passed : ∀ other ∈ front, ¬other.opening.StartsAt text place)
      (opens : rule.opening.findNonempty? (.atOffset text place) = some ⟨place, body⟩) :
      TokenAt grammar text place rule.kind (rule.findEnd (.atOffset text body))
  /-- Where no region opens, it is the match of the first pattern that matches here. -/
  | pattern {rule : PatternRule} {front back : List PatternRule} {stop : Nat}
      (noRegion : ∀ other ∈ grammar.regions, ¬other.opening.StartsAt text place)
      (order : grammar.patterns = front ++ rule :: back)
      (passed : ∀ other ∈ front, ¬other.pattern.StartsAt text place)
      (matched : rule.pattern.findNonempty? (.atOffset text place) = some ⟨place, stop⟩) :
      TokenAt grammar text place rule.kind stop
  /-- Where no rule applies, it is plain text up to the least place where one does, or up to the
  end of the text. -/
  | gap {next : Nat}
      (noRegion : ∀ other ∈ grammar.regions, ¬other.opening.StartsAt text place)
      (noPattern : ∀ other ∈ grammar.patterns, ¬other.pattern.StartsAt text place)
      (nearest : IsLeast
        {start | start = text.length ∨ ∃ rule ∈ grammar.rules, ∃ extent,
          rule.find? (.atOffset text place) = some extent ∧ extent.start = start} next) :
      TokenAt grammar text place .text next

/-- The tokens of a text from a place on, one behind the other up to the end. -/
inductive Scanned (grammar : Grammar) (text : Text) : (place : Nat) → List Token → Prop where
  | finish : Scanned grammar text text.length []
  | token {place stop : Nat} {kind : TokenKind} {tokens : List Token}
      (within : place < text.length) (next : TokenAt grammar text place kind stop)
      (later : Scanned grammar text stop tokens) :
      Scanned grammar text place (⟨kind, (text.drop place).take (stop - place)⟩ :: tokens)

variable {grammar : Grammar} {text : Text} {place stop : Nat} {kind : TokenKind}

/-- A token takes at least one character and ends inside of the text. -/
theorem TokenAt.bounds (token : TokenAt grammar text place kind stop)
    (within : place < text.length) : place < stop ∧ stop ≤ text.length := by
  cases token with
  | @region rule _ _ body order passed opens =>
      have bounds := Pattern.bounds_of_findNonempty? opens
      rw [Cursor.limit_atOffset] at bounds
      dsimp only at bounds
      have ends := rule.findEnd_bounds (.atOffset text body)
      rw [Cursor.offset_atOffset bounds.2.2, Cursor.limit_atOffset] at ends
      omega
  | pattern noRegion order passed matched =>
      have bounds := Pattern.bounds_of_findNonempty? matched
      rw [Cursor.limit_atOffset] at bounds
      exact bounds.2
  | gap noRegion noPattern nearest =>
      refine ⟨?_, nearest.2 (.inl rfl)⟩
      rcases nearest.1 with atEnd | ⟨rule, member, extent, found, rfl⟩
      · omega
      · rw [Rule.find?_eq] at found
        have lower := (Pattern.bounds_of_findNonempty? found).1
        rw [Cursor.offset_atOffset (Nat.le_of_lt within)] at lower
        -- A rule that starts right here would have been taken.
        refine Nat.lt_of_le_of_ne lower fun same => ?_
        have starts : rule.opening.StartsAt text place :=
          ⟨extent.stop, by rw [found, same]⟩
        rcases List.mem_append.mp member with isRegion | isPattern
        · obtain ⟨region, held, rfl⟩ := List.mem_map.mp isRegion
          exact noRegion region held starts
        · obtain ⟨pattern, held, rfl⟩ := List.mem_map.mp isPattern
          exact noPattern pattern held starts

/-- A rule yields a token at a place when its opening pattern starts there. -/
theorem tokenHere?_eq_some_iff {rule : Rule} (bounded : place ≤ text.length) :
    tokenHere? (.atOffset text place) rule = some (kind, stop) ↔
      ∃ body, rule.opening.findNonempty? (.atOffset text place) = some ⟨place, body⟩ ∧
        kind = rule.kind ∧ stop = rule.tokenEnd (.atOffset text place) ⟨place, body⟩ := by
  rw [tokenHere?, Rule.find?_eq, Cursor.offset_atOffset bounded]
  cases rule.opening.findNonempty? (.atOffset text place) with
  | none => simp
  | some extent =>
      obtain ⟨start, body⟩ := extent
      dsimp only
      split
      next here =>
        subst here
        simp [eq_comm]
      next away => simp [away]

/-- A rule yields no token at a place when its opening pattern does not start there. -/
theorem tokenHere?_eq_none_iff {rule : Rule} (bounded : place ≤ text.length) :
    tokenHere? (.atOffset text place) rule = none ↔ ¬rule.opening.StartsAt text place := by
  rw [Option.eq_none_iff_forall_ne_some, Pattern.StartsAt]
  constructor
  · rintro nothing ⟨body, starts⟩
    exact nothing _ ((tokenHere?_eq_some_iff bounded).mpr ⟨body, starts, rfl, rfl⟩)
  · rintro nowhere ⟨kind, stop⟩ found
    obtain ⟨body, starts, -⟩ := (tokenHere?_eq_some_iff bounded).mp found
    exact nowhere ⟨body, starts⟩

/-- The nearest place is the least of those where a rule applies and the end of the text. -/
theorem isLeast_nearestStart (rules : List Rule) (text : Text) (place : Nat) :
    IsLeast {start | start = text.length ∨ ∃ rule ∈ rules, ∃ extent,
        rule.find? (.atOffset text place) = some extent ∧ extent.start = start}
      (nearestStart rules (.atOffset text place)) := by
  have shape : nearestStart rules (.atOffset text place) = (rules.filterMap fun rule =>
      (rule.find? (.atOffset text place)).map (·.start)).foldl min text.length := by
    rw [nearestStart, Cursor.limit_atOffset]
  obtain ⟨member, least⟩ :=
    List.min?_eq_some_iff.mp (List.min?_cons'.trans (congrArg some shape.symm))
  simp only [List.mem_cons, List.mem_filterMap, Option.map_eq_some_iff] at member least
  exact ⟨member, least⟩

/-- The token of a region ends where the region ends. -/
theorem tokenHere?_region (bounded : place ≤ text.length) {rule : RegionRule} {body : Nat}
    (opens : rule.opening.findNonempty? (.atOffset text place) = some ⟨place, body⟩) :
    tokenHere? (.atOffset text place) (.region rule) =
      some (rule.kind, rule.findEnd (.atOffset text body)) := by
  have bounds := Pattern.bounds_of_findNonempty? opens
  refine (tokenHere?_eq_some_iff bounded).mpr ⟨body, opens, rfl, ?_⟩
  rw [Rule.tokenEnd, Cursor.advance_atOffset_sub bounded (Nat.le_of_lt bounds.2.1)]

/-- The token of a pattern is its match. -/
theorem tokenHere?_pattern (bounded : place ≤ text.length) {rule : PatternRule}
    (matched : rule.pattern.findNonempty? (.atOffset text place) = some ⟨place, stop⟩) :
    tokenHere? (.atOffset text place) (.pattern rule) = some (rule.kind, stop) :=
  (tokenHere?_eq_some_iff bounded).mpr ⟨stop, matched, rfl, rfl⟩

/-- The first rule of a list that applies at a place, when the rules before it do not. -/
theorem findSome?_tokenHere? {α : Type} (toRule : α → Rule) {rules front back : List α}
    {rule : α} {token : TokenKind × Nat} (bounded : place ≤ text.length)
    (order : rules = front ++ rule :: back)
    (passed : ∀ other ∈ front, ¬(toRule other).opening.StartsAt text place)
    (here : tokenHere? (.atOffset text place) (toRule rule) = some token) :
    rules.findSome? (tokenHere? (.atOffset text place) ∘ toRule) = some token :=
  List.findSome?_eq_some_iff.mpr ⟨front, rule, back, order, here, fun other member =>
    (tokenHere?_eq_none_iff bounded).mpr (passed other member)⟩

/-- No rule of a list applies at a place. -/
theorem findSome?_tokenHere?_eq_none_iff {α : Type} (toRule : α → Rule) {rules : List α}
    (bounded : place ≤ text.length) :
    rules.findSome? (tokenHere? (.atOffset text place) ∘ toRule) = none ↔
      ∀ rule ∈ rules, ¬(toRule rule).opening.StartsAt text place := by
  rw [List.findSome?_eq_none_iff]
  exact forall₂_congr fun rule _ => tokenHere?_eq_none_iff bounded

/-- The token at a place is what the scan finds there. -/
theorem tokenAt_iff (bounded : place ≤ text.length) :
    TokenAt grammar text place kind stop ↔
      (grammar.rules.findSome? (tokenHere? (.atOffset text place))).getD
        (.text, nearestStart grammar.rules (.atOffset text place)) = (kind, stop) := by
  have least := isLeast_nearestStart grammar.rules text place
  rw [rules, List.findSome?_append, List.findSome?_map, List.findSome?_map, ← rules]
  constructor
  · intro token
    cases token with
    | region order passed opens =>
        rw [findSome?_tokenHere? .region bounded order passed (tokenHere?_region bounded opens)]
        rfl
    | pattern noRegion order passed matched =>
        rw [(findSome?_tokenHere?_eq_none_iff .region bounded).mpr noRegion,
          findSome?_tokenHere? .pattern bounded order passed (tokenHere?_pattern bounded matched)]
        rfl
    | gap noRegion noPattern nearest =>
        rw [(findSome?_tokenHere?_eq_none_iff .region bounded).mpr noRegion,
          (findSome?_tokenHere?_eq_none_iff .pattern bounded).mpr noPattern, nearest.unique least]
        rfl
  · intro same
    cases region : grammar.regions.findSome? (tokenHere? (.atOffset text place) ∘ .region) with
    | some token =>
        rw [region] at same
        obtain rfl : token = (kind, stop) := same
        obtain ⟨front, rule, back, order, here, passed⟩ := List.findSome?_eq_some_iff.mp region
        obtain ⟨body, opens, -⟩ := (tokenHere?_eq_some_iff bounded).mp here
        cases (tokenHere?_region bounded opens).symm.trans here
        exact .region order (fun other member => (tokenHere?_eq_none_iff bounded).mp
          (passed other member)) opens
    | none =>
        have noRegion := (findSome?_tokenHere?_eq_none_iff .region bounded).mp region
        rw [region, Option.none_or] at same
        cases pattern : grammar.patterns.findSome?
            (tokenHere? (.atOffset text place) ∘ .pattern) with
        | some token =>
            rw [pattern] at same
            obtain rfl : token = (kind, stop) := same
            obtain ⟨front, rule, back, order, here, passed⟩ := List.findSome?_eq_some_iff.mp pattern
            obtain ⟨body, matched, -⟩ := (tokenHere?_eq_some_iff bounded).mp here
            cases (tokenHere?_pattern bounded matched).symm.trans here
            exact .pattern noRegion order (fun other member => (tokenHere?_eq_none_iff bounded).mp
              (passed other member)) matched
        | none =>
            have noPattern := (findSome?_tokenHere?_eq_none_iff .pattern bounded).mp pattern
            rw [pattern] at same
            cases same
            exact .gap noRegion noPattern least

/-- At the end of the text there is no token. -/
theorem scanned_at_end_iff {tokens : List Token} :
    Scanned grammar text text.length tokens ↔ tokens = [] := by
  constructor
  · intro scanned
    cases scanned with
    | finish => rfl
    | token within => exact absurd within (Nat.lt_irrefl _)
  · rintro rfl
    exact .finish

/-- Before the end the tokens are the one at the place and those behind it. -/
theorem scanned_iff_of_tokenAt {tokens : List Token} (within : place < text.length)
    (next : TokenAt grammar text place kind stop) :
    Scanned grammar text place tokens ↔
      ∃ others, Scanned grammar text stop others ∧
        ⟨kind, (text.drop place).take (stop - place)⟩ :: others = tokens := by
  constructor
  · intro scanned
    cases scanned with
    | finish => exact absurd within (Nat.lt_irrefl _)
    | token _ other later =>
        have bounded := Nat.le_of_lt within
        cases ((tokenAt_iff bounded).mp next).symm.trans ((tokenAt_iff bounded).mp other)
        exact ⟨_, later, rfl⟩
  · rintro ⟨others, later, rfl⟩
    exact .token within next later

/-- With enough steps the scan yields the tokens of the rest of the text. -/
theorem scanFrom_eq_iff {steps : Nat} {tokens : List Token} (bounded : place ≤ text.length)
    (enough : text.length - place ≤ steps) :
    scanFrom grammar.rules steps (.atOffset text place) = tokens ↔
      Scanned grammar text place tokens := by
  induction steps generalizing place tokens with
  | zero =>
      obtain rfl : place = text.length := by omega
      rw [scanFrom, scanned_at_end_iff, eq_comm]
  | succ steps inductionHypothesis =>
      rw [scanFrom, Cursor.rest_atOffset]
      by_cases atEnd : place = text.length
      · subst atEnd
        rw [if_pos (by simp), scanned_at_end_iff, eq_comm]
      · have within : place < text.length := by omega
        rw [if_neg (by simpa using by omega)]
        obtain ⟨⟨kind, stop⟩, next⟩ : ∃ token,
            (grammar.rules.findSome? (tokenHere? (.atOffset text place))).getD
              (.text, nearestStart grammar.rules (.atOffset text place)) = token := ⟨_, rfl⟩
        have token := (tokenAt_iff bounded).mpr next
        have bounds := token.bounds within
        have later (others : List Token) :
            scanFrom grammar.rules steps (.atOffset text stop) = others ↔
              Scanned grammar text stop others := inductionHypothesis bounds.2 (by omega)
        rw [next]
        dsimp only
        rw [Cursor.advance_atOffset_sub bounded (Nat.le_of_lt bounds.1), tokenTo,
          Cursor.rest_atOffset, Cursor.offset_atOffset bounded, scanned_iff_of_tokenAt within token]
        simp only [← later, exists_eq_left']

/-- The lexer yields the tokens of the scan that remembers nothing, and these are the tokens that
searches from every place anew decide, one behind the other up to the end of the text. -/
theorem lex_agrees_with_plain_scan (grammar : Grammar) (text : Text) :
    grammar.lex text = grammar.scan text ∧
      ∀ tokens, grammar.lex text = tokens ↔ Scanned grammar text 0 tokens := by
  refine ⟨lex_eq_scan grammar text, fun tokens => ?_⟩
  rw [lex_eq_scan, scan]
  exact scanFrom_eq_iff (Nat.zero_le _) (Nat.le_refl _)

end Grammar

end Highlighter
