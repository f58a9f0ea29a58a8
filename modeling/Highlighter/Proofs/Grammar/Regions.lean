import Highlighter.Proofs.Grammar.Boundaries
import Highlighter.Proofs.Pattern.Meaning

/-!
# Regions of a grammar

The regions of a grammar are those that were added to it, in this order; patterns do not change
them. They are tried first. So the region that opens at the start of a text, where none before it
opens, is the first token of the text (`Grammar.head?_lex_of_region`).
-/

namespace Highlighter

namespace Grammar

/-! ### Adding rules -/

@[simp] theorem regions_named (name : String) : (named name).regions = [] := rfl

@[simp] theorem regions_pattern (grammar : Grammar) (name pattern kind : String) (priority : Int) :
    (grammar.pattern name pattern kind priority).regions = grammar.regions := by
  rw [Grammar.pattern]
  split <;> rfl

@[simp] theorem regions_words (grammar : Grammar) (name : String) (words : List String)
    (kind : String) (priority : Int) :
    (grammar.words name words kind priority).regions = grammar.regions :=
  regions_pattern grammar name _ kind priority

@[simp] theorem regions_region (grammar : Grammar) (name opening closing kind : String) :
    (grammar.region name opening closing kind).regions =
      grammar.regions ++ (RegionRule.make? name opening closing ⟨kind⟩).toList := by
  rw [region]
  cases RegionRule.make? name opening closing ⟨kind⟩ with
  | none => exact (List.append_nil _).symm
  | some rule => rfl

@[simp] theorem regions_regionWith (grammar : Grammar) (name opening closing kind : String)
    (escape : Option Char) (singleLine : Bool) :
    (grammar.regionWith name opening closing kind escape singleLine).regions =
      grammar.regions ++
        (RegionRule.make? name opening closing ⟨kind⟩ escape singleLine).toList := by
  rw [regionWith]
  cases RegionRule.make? name opening closing ⟨kind⟩ escape singleLine with
  | none => exact (List.append_nil _).symm
  | some rule => rfl

@[simp] theorem regions_string (grammar : Grammar) (name delimiter kind : String) :
    (grammar.string name delimiter kind).regions = grammar.regions ++
      (RegionRule.make? name delimiter delimiter ⟨kind⟩ (some '\\') true).toList := by
  rw [string]
  cases RegionRule.make? name delimiter delimiter ⟨kind⟩ (some '\\') true with
  | none => exact (List.append_nil _).symm
  | some rule => rfl

/-! ### The first token -/

variable {grammar : Grammar} {text : Text}

/-- The token at the start of a text is the first one. -/
theorem head?_lex_of_tokenAt {kind : TokenKind} {stop : Nat} (some : text ≠ [])
    (token : TokenAt grammar text 0 kind stop) :
    (grammar.lex text).head? = .some ⟨kind, text.take stop⟩ := by
  obtain ⟨others, -, shape⟩ := (scanned_iff_of_tokenAt (List.length_pos_of_ne_nil some) token).mp
    (scanned_lex grammar text)
  rw [← shape]
  rfl

/-- The first region that opens at the start of a text is its first token. -/
theorem head?_lex_of_region {rule : RegionRule} {front back : List RegionRule} {length : Nat}
    (order : grammar.regions = front ++ rule :: back)
    (passed : ∀ other ∈ front, other.opening.matchLength? none text = none)
    (opens : rule.opening.matchLength? none text = some (length + 1)) :
    (grammar.lex text).head? =
      some ⟨rule.kind, text.take (rule.findEnd (.atOffset text (length + 1)))⟩ := by
  have bounded : 0 ≤ text.length := Nat.zero_le _
  have nonempty : text ≠ [] := by
    rintro rfl
    exact absurd (Pattern.matchLength?_le opens) (by simp)
  refine head?_lex_of_tokenAt nonempty (.region order (fun other member => ?_) ?_)
  · rw [Pattern.startsAt_iff bounded]
    rintro ⟨more, starts⟩
    have nothing : other.opening.lengthAt? text 0 = none := passed other member
    rw [nothing] at starts
    cases starts
  · exact (Pattern.findNonempty?_here_iff bounded).mpr ⟨length, opens, (Nat.zero_add _).symm⟩

end Grammar

end Highlighter
