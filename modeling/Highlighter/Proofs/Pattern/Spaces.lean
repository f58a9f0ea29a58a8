import Highlighter.Proofs.Pattern.Exploring

/-!
# Patterns and white space

The pattern for white space takes all of it (`Pattern.matchLength?_spaces`). That another pattern
never matches where white space stands is decided on its program, by leaving the edges out of
account (`Pattern.matchLength?_eq_none_of_shuns`).
-/

namespace Highlighter

open Nodes

namespace Unicode

/-- The code points of white space. -/
def whiteSpaceCodes : List Nat :=
  [0x09, 0x0A, 0x0B, 0x0C, 0x0D, 0x20, 0x85, 0xA0, 0x1680, 0x2000, 0x2001, 0x2002, 0x2003, 0x2004,
    0x2005, 0x2006, 0x2007, 0x2008, 0x2009, 0x200A, 0x2028, 0x2029, 0x202F, 0x205F, 0x3000]

theorem toNat_mem_whiteSpaceCodes {c : Char} (space : isWhiteSpace c = true) :
    c.toNat ∈ whiteSpaceCodes := by
  simp only [isWhiteSpace, Bool.or_eq_true, Bool.and_eq_true, decide_eq_true_eq] at space
  simp only [whiteSpaceCodes, List.mem_cons, List.not_mem_nil, or_false]
  omega

end Unicode

namespace Text

/-- How much white space a text starts with. -/
def indent (text : Text) : Nat :=
  (text.takeWhile Unicode.isWhiteSpace).length

theorem indent_cons_of_space {c : Char} (space : Unicode.isWhiteSpace c = true) (rest : Text) :
    indent (c :: rest) = rest.indent + 1 := by
  rw [indent, List.takeWhile_cons_of_pos space, List.length_cons, indent]

theorem indent_le_length (text : Text) : text.indent ≤ text.length :=
  (List.takeWhile_prefix _).length_le

/-- A text starts with white space exactly if its first character is white space. -/
theorem indent_eq_zero_iff {text : Text} :
    text.indent = 0 ↔ text.head?.any Unicode.isWhiteSpace = false := by
  cases text with
  | nil => simp [indent]
  | cons c rest => by_cases space : Unicode.isWhiteSpace c = true <;> simp [indent, space]

/-- A text that starts with white space has a first character. -/
theorem exists_space_of_indent {text : Text} (white : text.indent ≠ 0) :
    ∃ c rest, text = c :: rest ∧ Unicode.isWhiteSpace c = true := by
  cases text with
  | nil => exact absurd rfl white
  | cons c rest =>
      rw [Ne, indent_eq_zero_iff] at white
      exact ⟨c, rest, rfl, by simpa using white⟩

/-- White space goes on behind a text that consists of nothing else. -/
theorem indent_append (front back : Text) :
    (front ++ back).indent =
      if front.indent = front.length then front.length + back.indent else front.indent := by
  rw [indent, indent, indent, List.takeWhile_append]
  split <;> simp_all

end Text

/-- The node as it is where every edge holds. -/
def Node.relaxed : Node → Node
  | .check _ next => .fork next next
  | node => node

namespace Pattern

/-- The pattern as it is where every edge holds. -/
def relaxed (pattern : Pattern) : Pattern :=
  { pattern with nodes := pattern.nodes.map Node.relaxed }

variable {pattern : Pattern} {before after : Option Char} {pending : List Nat}

/-- Where edges hold or not, a program leads only to nodes that it leads to where all of them
hold. -/
theorem sees_relaxed {form : Node} (sees : Sees pattern.nodes before after pending form) :
    Sees pattern.relaxed.nodes none none pending form.relaxed := by
  have held {place : Nat} {node : Node} (here : pattern.nodes[place]? = some node) :
      pattern.relaxed.nodes[place]? = some node.relaxed := by
    rw [relaxed, Array.getElem?_map, here]
    rfl
  obtain ⟨node, member, last, way, here⟩ := sees
  refine ⟨node, member, last, way.lift id fun first next leads => ?_, held here⟩
  cases leads with
  | check here => exact .first (held here)
  | first here => exact .first (held here)
  | second here => exact .second (held here)

/-- The pattern neither matches the empty text nor anything that starts with one of the code points,
even if every edge holds. -/
def shuns (pattern : Pattern) (codes : List Nat) : Bool :=
  let found := pattern.relaxed.frontier none none [pattern.start]
  !found.accepted &&
    found.reads.all fun (set, _) => codes.all fun code => !set.member (Char.ofNat code)

/-- A pattern matches nowhere in front of what it shuns. -/
theorem matchLength?_eq_none_of_shuns {codes : List Nat} (shuns : pattern.shuns codes = true)
    {c : Char} (member : c.toNat ∈ codes) (rest : Text) :
    pattern.matchLength? before (c :: rest) = none := by
  rw [Pattern.shuns, Bool.and_eq_true, Bool.not_eq_true', List.all_eq_true] at shuns
  obtain ⟨waits, others⟩ := shuns
  cases found : pattern.matchLength? before (c :: rest) with
  | none => rfl
  | some length =>
      obtain ⟨node, pended, steps, way⟩ := (accepts_of_run found).resolve_left nofun
      obtain rfl := List.mem_singleton.mp pended
      rcases way.sees with ⟨sees, -⟩ | ⟨set, next, d, later, steps, sees, shape, reads, -⟩
      · rw [accepted_frontier_iff.mpr (sees_relaxed sees)] at waits
        cases waits
      · obtain ⟨rfl, rfl⟩ := List.cons.inj shape
        have listed := mem_frontier_of_sees waits (sees_relaxed sees)
        have excluded := List.all_eq_true.mp (others _ listed) _ member
        rw [Char.ofNat_toNat, reads] at excluded
        cases excluded

/-! ### White space -/

/-- The pattern for white space. -/
def spaces : Pattern :=
  .ofExpr (.repetition (.char .space) 1 none true)

/-- Behind white space a run of the pattern takes what there is of it. -/
theorem run_spaces (length : Nat) (best : Option Nat) (before : Option Char) (rest : Text) :
    spaces.run [1] length best before rest = some (length + rest.indent) := by
  have cycle (before after : Option Char) :
      spaces.frontier before after [1] = ⟨[(.space, 1)], true⟩ := rfl
  exact run_of_cycle cycle length best before rest

/-- The pattern for white space matches all white space that there is, if there is some. -/
theorem matchLength?_spaces (before : Option Char) (rest : Text) :
    spaces.matchLength? before rest =
      if rest.indent = 0 then none else some rest.indent := by
  cases rest with
  | nil => rfl
  | cons c rest =>
      have start : spaces.start = 2 := rfl
      have found : spaces.frontier before (some c) [2] = ⟨[(.space, 1)], false⟩ := rfl
      rw [matchLength?, start]
      cases white : Unicode.isWhiteSpace c with
      | false =>
          rw [run_cons, found]
          simp [behind, CharSet.member, Text.indent, white]
      | true =>
          rw [run_of_read found white, run_spaces, Text.indent_cons_of_space white,
            if_neg (Nat.succ_ne_zero _), Nat.add_right_comm, Nat.zero_add]

end Pattern

end Highlighter
