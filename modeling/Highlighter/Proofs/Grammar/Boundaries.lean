import Highlighter.Proofs.Grammar.Covering
import Mathlib.Data.Nat.Find
import Mathlib.Logic.Relation

/-!
# Where tokens begin

The tokens of a text begin at its boundaries: at the start, and where a token ends that begins at a
boundary (`Grammar.Boundary`). Every character is held by the token of one boundary, which gives it
its kind (`Grammar.exists_boundary`, `Grammar.kindAt?_lex`).

Whether a rule applies at a place is what its pattern matches right there, between the character
before the place and those that follow it (`Pattern.lengthAt?`).
-/

namespace Highlighter

namespace Pattern

variable {pattern : Pattern} {text : Text} {place stop : Nat}

/-- The length of the preferred match at a place of a text. -/
def lengthAt? (pattern : Pattern) (text : Text) (place : Nat) : Option Nat :=
  pattern.matchLength? (text.take place).getLast? (text.drop place)

/-- The nonempty match at a place of a text is its preferred match there. -/
theorem nonemptyMatch?_atOffset_iff (bounded : place ≤ text.length) :
    pattern.nonemptyMatch? (.atOffset text place) = some ⟨place, stop⟩ ↔
      ∃ length, pattern.lengthAt? text place = some (length + 1) ∧ stop = place + (length + 1) := by
  rw [nonemptyMatch?, Cursor.before_atOffset, Cursor.rest_atOffset,
    Cursor.offset_atOffset bounded, ← lengthAt?]
  rcases pattern.lengthAt? text place with _ | _ | length <;> simp [eq_comm]

/-- A search finds a match right where it begins if the preferred match there is not empty. -/
theorem findNonempty?_here_iff (bounded : place ≤ text.length) :
    pattern.findNonempty? (.atOffset text place) = some ⟨place, stop⟩ ↔
      ∃ length, pattern.lengthAt? text place = some (length + 1) ∧ stop = place + (length + 1) := by
  rw [← nonemptyMatch?_atOffset_iff bounded, findNonempty?_eq_some_iff]
  constructor
  · rintro ⟨skipped, there, -⟩
    have bounds := bounds_of_nonemptyMatch? there
    rw [Cursor.advance_atOffset, Cursor.limit_atOffset] at bounds
    dsimp only at bounds
    have offset := Cursor.offset_advance (.start text) (place + skipped)
    rw [← Cursor.atOffset, ← bounds.1, Cursor.start] at offset
    dsimp only at offset
    obtain rfl : skipped = 0 := by omega
    rwa [Cursor.advance_zero] at there
  · intro there
    exact ⟨0, by rwa [Cursor.advance_zero], fun _ before => absurd before (Nat.not_lt_zero _)⟩

/-- A search from a later place that is not behind the match finds the same match. -/
theorem findNonempty?_atOffset_of_le {extent : Extent} {later : Nat}
    (found : pattern.findNonempty? (.atOffset text place) = some extent)
    (ordered : place ≤ later) (reached : later ≤ extent.start) :
    pattern.findNonempty? (.atOffset text later) = some extent := by
  have bounds := bounds_of_findNonempty? found
  rw [Cursor.limit_atOffset] at bounds
  have moved := @findNonempty?_advance_of_le _ _ _ (later - place) found
  rw [Cursor.advance_atOffset, Nat.add_sub_cancel' ordered,
    Cursor.offset_atOffset (by omega)] at moved
  exact moved reached

/-- Where nothing was found, nothing is found from a later place. -/
theorem findNonempty?_atOffset_of_eq_none {later : Nat}
    (nothing : pattern.findNonempty? (.atOffset text place) = none) (ordered : place ≤ later) :
    pattern.findNonempty? (.atOffset text later) = none := by
  have nowhere := findNonempty?_advance_of_eq_none nothing (later - place)
  rwa [Cursor.advance_atOffset, Nat.add_sub_cancel' ordered] at nowhere

/-- A pattern starts at a place where its preferred match is not empty. -/
theorem startsAt_iff (bounded : place ≤ text.length) :
    pattern.StartsAt text place ↔ ∃ length, pattern.lengthAt? text place = some (length + 1) := by
  simp only [StartsAt, findNonempty?_here_iff bounded]
  constructor
  · rintro ⟨_, length, here, -⟩
    exact ⟨length, here⟩
  · rintro ⟨length, here⟩
    exact ⟨_, length, here, rfl⟩

/-- A search from a place finds the pattern where it starts next. -/
theorem startsAt_of_findNonempty? (bounded : place ≤ text.length) {extent : Extent}
    (found : pattern.findNonempty? (.atOffset text place) = some extent) :
    place ≤ extent.start ∧ extent.start < text.length ∧ pattern.StartsAt text extent.start ∧
      ∀ earlier, place ≤ earlier → earlier < extent.start → ¬pattern.StartsAt text earlier := by
  have bounds := bounds_of_findNonempty? found
  rw [Cursor.offset_atOffset bounded, Cursor.limit_atOffset] at bounds
  refine ⟨bounds.1, by omega,
    ⟨extent.stop, findNonempty?_atOffset_of_le found bounds.1 (Nat.le_refl _)⟩, ?_⟩
  rintro earlier ordered before ⟨stop, there⟩
  have same := findNonempty?_atOffset_of_le found ordered (Nat.le_of_lt before)
  rw [there] at same
  cases same
  exact Nat.lt_irrefl _ before

/-- A search from a place finds the nearest place behind it at which the pattern starts. -/
theorem exists_findNonempty?_iff (bounded : place ≤ text.length) {start : Nat} :
    (∃ extent, pattern.findNonempty? (.atOffset text place) = some extent ∧
        extent.start = start) ↔
      place ≤ start ∧ pattern.StartsAt text start ∧
        ∀ earlier, place ≤ earlier → earlier < start → ¬pattern.StartsAt text earlier := by
  constructor
  · rintro ⟨extent, found, rfl⟩
    obtain ⟨ordered, -, starts, first⟩ := startsAt_of_findNonempty? bounded found
    exact ⟨ordered, starts, first⟩
  · rintro ⟨ordered, ⟨stop, starts⟩, first⟩
    cases found : pattern.findNonempty? (.atOffset text place) with
    | none =>
        have nowhere := findNonempty?_atOffset_of_eq_none found ordered
        rw [starts] at nowhere
        cases nowhere
    | some extent =>
        obtain ⟨_, -, there, firstFound⟩ := startsAt_of_findNonempty? bounded found
        refine ⟨extent, rfl, ?_⟩
        rcases Nat.lt_trichotomy extent.start start with before | same | behind
        · exact absurd there (first _ (by assumption) before)
        · exact same
        · exact absurd ⟨stop, starts⟩ (firstFound _ ordered behind)

end Pattern

namespace Grammar

variable {grammar : Grammar} {text : Text} {place next : Nat}

/-- One of the rules applies at a place. -/
def AppliesAt (rules : List Rule) (text : Text) (place : Nat) : Prop :=
  ∃ rule ∈ rules, rule.opening.StartsAt text place

/-- The nearest place where a rule applies is the first one where one does, or the end of the
text. -/
theorem isLeast_iff_appliesAt (bounded : place ≤ text.length) :
    IsLeast {start | start = text.length ∨ ∃ rule ∈ grammar.rules, ∃ extent,
        rule.find? (.atOffset text place) = some extent ∧ extent.start = start} next ↔
      place ≤ next ∧ next ≤ text.length ∧ (next = text.length ∨ AppliesAt grammar.rules text next) ∧
        ∀ earlier, place ≤ earlier → earlier < next → ¬AppliesAt grammar.rules text earlier := by
  simp only [Rule.find?_eq, Pattern.exists_findNonempty?_iff bounded]
  constructor
  · rintro ⟨member, least⟩
    refine ⟨?_, least (.inl rfl), ?_, ?_⟩
    · rcases member with rfl | ⟨-, -, ordered, -⟩
      · exact bounded
      · exact ordered
    · exact member.imp_right fun ⟨rule, listed, _, starts, _⟩ => ⟨rule, listed, starts⟩
    · rintro earlier ordered before ⟨rule, listed, starts⟩
      -- The place where this rule applies first is one of those that `next` is the least of.
      classical
      have some : ∃ start, place ≤ start ∧ rule.opening.StartsAt text start :=
        ⟨earlier, ordered, starts⟩
      have upper := least (.inr ⟨rule, listed, (Nat.find_spec some).1, (Nat.find_spec some).2,
        fun start lower below here => Nat.find_min some below ⟨lower, here⟩⟩)
      have lower := Nat.find_min' some ⟨ordered, starts⟩
      omega
  · rintro ⟨ordered, within, ends, free⟩
    constructor
    · refine ends.imp_right fun ⟨rule, listed, starts⟩ => ⟨rule, listed, ordered, starts, ?_⟩
      exact fun earlier lower before here => free earlier lower before ⟨rule, listed, here⟩
    · rintro start (rfl | ⟨rule, listed, lower, starts, -⟩)
      · exact within
      · exact Nat.le_of_not_lt fun before => free start lower before ⟨rule, listed, starts⟩

/-- No rule applies from a place up to the next one, where one does or the text ends. -/
structure Gap (grammar : Grammar) (text : Text) (place next : Nat) : Prop where
  progress : place < next
  inside : next ≤ text.length
  ends : next = text.length ∨ AppliesAt grammar.rules text next
  free : ∀ earlier, place ≤ earlier → earlier < next → ¬AppliesAt grammar.rules text earlier

theorem Gap.not_appliesAt (gap : Gap grammar text place next) :
    ¬AppliesAt grammar.rules text place :=
  gap.free place (Nat.le_refl _) gap.progress

/-- Where no rule applies there is a gap up to the nearest place where one does. -/
theorem gap_iff (within : place < text.length) (nowhere : ¬AppliesAt grammar.rules text place) :
    Gap grammar text place next ↔ nearestStart grammar.rules (.atOffset text place) = next := by
  have least := isLeast_nearestStart grammar.rules text place
  have nearest := (isLeast_iff_appliesAt (Nat.le_of_lt within)).mp least
  constructor
  · intro gap
    exact least.unique ((isLeast_iff_appliesAt (Nat.le_of_lt within)).mpr
      ⟨Nat.le_of_lt gap.progress, gap.inside, gap.ends, gap.free⟩)
  · rintro rfl
    obtain ⟨ordered, inside, ends, free⟩ := nearest
    refine ⟨Nat.lt_of_le_of_ne ordered fun here => ?_, inside, ends, free⟩
    rcases ends with atEnd | there
    · omega
    · exact nowhere (here ▸ there)

/-- There is a token at every place. -/
theorem exists_tokenAt (grammar : Grammar) (bounded : place ≤ text.length) :
    ∃ kind stop, TokenAt grammar text place kind stop :=
  ⟨_, _, (tokenAt_iff bounded).mpr rfl⟩

/-! ### Boundaries -/

/-- One place follows another one if the token at that place ends there. -/
def Follows (grammar : Grammar) (text : Text) (place next : Nat) : Prop :=
  place < text.length ∧ ∃ kind, TokenAt grammar text place kind next

/-- A place between two tokens of a text, or at one of its ends. -/
def Boundary (grammar : Grammar) (text : Text) : Nat → Prop :=
  Relation.ReflTransGen (Follows grammar text) 0

theorem boundary_zero (grammar : Grammar) (text : Text) : Boundary grammar text 0 := .refl

theorem Boundary.step {kind : TokenKind} {stop : Nat} (boundary : Boundary grammar text place)
    (within : place < text.length) (token : TokenAt grammar text place kind stop) :
    Boundary grammar text stop :=
  boundary.tail ⟨within, kind, token⟩

/-- Every character belongs to the token at some boundary. -/
theorem exists_boundary (grammar : Grammar) {index : Nat} (within : index < text.length) :
    ∃ place kind stop, Boundary grammar text place ∧ TokenAt grammar text place kind stop ∧
      place ≤ index ∧ index < stop := by
  have ahead (distance place : Nat) (boundary : Boundary grammar text place)
      (reached : place ≤ index) (near : index - place ≤ distance) :
      ∃ place kind stop, Boundary grammar text place ∧ TokenAt grammar text place kind stop ∧
        place ≤ index ∧ index < stop := by
    induction distance generalizing place with
    | zero =>
        obtain rfl : place = index := by omega
        obtain ⟨kind, stop, token⟩ := exists_tokenAt grammar (Nat.le_of_lt within)
        exact ⟨place, kind, stop, boundary, token, reached, (token.bounds within).1⟩
    | succ distance inductionHypothesis =>
        have inside : place < text.length := by omega
        obtain ⟨kind, stop, token⟩ := exists_tokenAt grammar (Nat.le_of_lt inside)
        have progress := (token.bounds inside).1
        by_cases held : index < stop
        · exact ⟨place, kind, stop, boundary, token, reached, held⟩
        · exact inductionHypothesis stop (boundary.step inside token) (by omega) (by omega)
  exact ahead index 0 (boundary_zero grammar text) (Nat.zero_le _) (Nat.sub_le _ _)

/-- At a boundary the tokens of a text can be taken apart. -/
theorem Boundary.exists_split (boundary : Boundary grammar text place) :
    ∃ front back, grammar.lex text = front ++ back ∧ (Token.concat front).length = place ∧
      Scanned grammar text place back := by
  induction boundary with
  | refl => exact ⟨[], grammar.lex text, rfl, rfl, scanned_lex grammar text⟩
  | @tail place stop _ follows inductionHypothesis =>
      obtain ⟨front, back, split, length, scanned⟩ := inductionHypothesis
      obtain ⟨within, kind, token⟩ := follows
      obtain ⟨others, later, rfl⟩ := (scanned_iff_of_tokenAt within token).mp scanned
      have bounds := token.bounds within
      refine ⟨front ++ [⟨kind, (text.drop place).take (stop - place)⟩], others, by simp [split], ?_,
        later⟩
      simp [length]
      omega

/-- The token at a boundary gives its kind to its characters. -/
theorem kindAt?_lex {kind : TokenKind} {stop index : Nat} (boundary : Boundary grammar text place)
    (within : place < text.length) (token : TokenAt grammar text place kind stop)
    (lower : place ≤ index) (upper : index < stop) :
    Token.kindAt? (grammar.lex text) index = some kind := by
  obtain ⟨front, back, split, length, scanned⟩ := boundary.exists_split
  obtain ⟨others, -, rfl⟩ := (scanned_iff_of_tokenAt within token).mp scanned
  have bounds := token.bounds within
  have held : Token.holding? (grammar.lex text) index =
      some (place, ⟨kind, (text.drop place).take (stop - place)⟩) := by
    refine Token.holding?_eq_some_iff.mpr ⟨front, others, split, length.symm, lower, ?_⟩
    simp
    omega
  rw [Token.kindAt?, held]
  rfl

end Grammar

end Highlighter
