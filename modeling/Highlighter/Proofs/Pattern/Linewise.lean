import Highlighter.Proofs.Pattern.Exploring
import Highlighter.Proofs.Text.Lines
import Mathlib.Data.List.TakeWhile

/-!
# Patterns that stay on a line

A program that reads no newline, and does not ask for the ends of a text, finds the same matches on
a line of a text as on that line alone (`Pattern.matchLength?_append`). So no match of it holds a
newline.
-/

namespace Highlighter

open Text

namespace Text

/-- What follows the first line of a text closes that line. -/
theorem closes_dropWhile (text : Text) : Closes (text.dropWhile (· != '\n')) := by
  cases shape : text.dropWhile (· != '\n') with
  | nil => exact .inl rfl
  | cons c rest =>
      have stopped := List.head?_dropWhile_not (· != '\n') text
      rw [shape] at stopped
      exact .inr ⟨rest, by simpa using stopped⟩

theorem newline_not_mem_takeWhile (text : Text) : '\n' ∉ text.takeWhile (· != '\n') := by
  intro member
  simpa using List.mem_takeWhile_imp member

/-- What closes a line does not belong to it. -/
theorem takeWhile_append_of_closes {part behind : Text} (closes : Closes behind)
    (newlineFree : '\n' ∉ part) : (part ++ behind).takeWhile (· != '\n') = part := by
  have passed : ∀ c ∈ part, (c != '\n') = true := by
    intro c member
    rw [bne_iff_ne]
    rintro rfl
    exact newlineFree member
  rw [List.takeWhile_append_of_pos passed]
  rcases closes with rfl | ⟨rest, rfl⟩ <;> simp

end Text

namespace Edge

/-- An edge that takes an end of the text for a newline. -/
def linewise : Edge → Bool
  | .textStart | .textEnd => false
  | .lineStart | .lineEnd | .wordBoundary | .noWordBoundary => true

/-- A linewise edge does not tell an end of the text from a newline. -/
theorem holds_eq_of_linewise {edge : Edge} (linewise : edge.linewise = true)
    (before after : Option Char) :
    edge.holds before after = edge.holds (some (before.getD '\n')) (some (after.getD '\n')) := by
  have newline : Unicode.isWord '\n' = false := by decide
  cases edge with
  | textStart => cases linewise
  | textEnd => cases linewise
  | lineStart => cases before <;> rfl
  | lineEnd => cases after <;> rfl
  | wordBoundary => cases before <;> cases after <;> simp [holds, atWordBoundary, newline]
  | noWordBoundary => cases before <;> cases after <;> simp [holds, atWordBoundary, newline]

end Edge

/-- A node that reads no newline and asks for no end of the text. -/
def Node.linewise : Node → Bool
  | .read set _ => !set.member '\n'
  | .check edge _ => edge.linewise
  | .fork _ _ | .accept => true

namespace Pattern

/-- A pattern whose program is linewise. -/
def linewise (pattern : Pattern) : Bool :=
  pattern.nodes.toList.all Node.linewise

variable {pattern : Pattern} {pending : List Nat}
  {before after otherBefore otherAfter : Option Char}

theorem linewise_of_getElem? (linewise : pattern.linewise = true) {place : Nat} {node : Node}
    (here : pattern.nodes[place]? = some node) : node.linewise = true := by
  refine List.all_eq_true.mp linewise node (List.mem_of_getElem? (i := place) ?_)
  rwa [Array.getElem?_toList]

/-- An exploration sees the characters around it through the edges only. -/
theorem explore_congr {nodes : Nodes} (holds : ∀ {place next : Nat} {edge : Edge},
      nodes[place]? = some (.check edge next) →
        edge.holds before after = edge.holds otherBefore otherAfter)
    (steps : Nat) (pending visited : List Nat) (reads : List (CharSet × Nat)) :
    explore nodes before after steps pending visited reads =
      explore nodes otherBefore otherAfter steps pending visited reads := by
  fun_induction explore nodes before after steps pending visited reads with
  | case6 steps node pending visited reads fresh edge next here =>
      have same := holds here
      simp_all [explore]
  | case7 steps node pending visited reads fresh edge next here =>
      have same := holds here
      simp_all [explore]
  | _ => simp_all [explore]

/-- The frontier of a linewise program does not tell an end of the text from a newline. -/
theorem frontier_congr (linewise : pattern.linewise = true) (pending : List Nat)
    (sameBefore : before.getD '\n' = otherBefore.getD '\n')
    (sameAfter : after.getD '\n' = otherAfter.getD '\n') :
    pattern.frontier before after pending = pattern.frontier otherBefore otherAfter pending := by
  refine explore_congr (fun here => ?_) _ _ _ _
  have edgewise := linewise_of_getElem? linewise here
  rw [Edge.holds_eq_of_linewise edgewise, sameBefore, sameAfter,
    ← Edge.holds_eq_of_linewise edgewise]

/-- A linewise program goes on nowhere behind a newline. -/
theorem behind_newline (linewise : pattern.linewise = true) :
    behind (pattern.frontier before after pending) '\n' = [] := by
  refine List.eq_nil_iff_forall_not_mem.mpr fun next member => ?_
  obtain ⟨set, listed, reads⟩ := mem_behind_iff.mp member
  obtain ⟨_, _, _, _, here⟩ := sees_of_mem_frontier listed
  have blind := linewise_of_getElem? linewise here
  rw [Node.linewise, reads] at blind
  cases blind

/-- A run of a linewise program does not see what is behind the line. -/
theorem run_append (linewise : pattern.linewise = true) {part behind : Text}
    (closes : Closes behind) (newlineFree : '\n' ∉ part)
    (same : before.getD '\n' = otherBefore.getD '\n') (length : Nat) (best : Option Nat) :
    pattern.run pending length best before (part ++ behind) =
      pattern.run pending length best otherBefore part := by
  induction part generalizing pending before otherBefore length best with
  | nil =>
      rcases closes with rfl | ⟨rest, rfl⟩
      · rw [List.append_nil, run, run, frontier_congr linewise pending same rfl]
      · have ended : pattern.frontier before (some '\n') pending =
            pattern.frontier otherBefore none pending := frontier_congr linewise pending same rfl
        rw [List.nil_append, run_cons, if_pos (behind_newline linewise), run, ended]
  | cons c part inductionHypothesis =>
      rw [List.cons_append, run_cons, run_cons, frontier_congr linewise pending same rfl,
        inductionHypothesis (List.not_mem_of_not_mem_cons newlineFree) rfl]

/-- A linewise pattern matches on a line of a text what it matches on the line alone. -/
theorem matchLength?_append (linewise : pattern.linewise = true) {part behind : Text}
    (closes : Closes behind) (newlineFree : '\n' ∉ part)
    (same : before.getD '\n' = otherBefore.getD '\n') :
    pattern.matchLength? before (part ++ behind) = pattern.matchLength? otherBefore part :=
  run_append linewise closes newlineFree same 0 none

/-- A match of a linewise pattern ends before the first newline. -/
theorem matchLength?_le_of_linewise (linewise : pattern.linewise = true) {rest : Text}
    {length : Nat} (found : pattern.matchLength? before rest = some length) :
    length ≤ (rest.takeWhile (· != '\n')).length := by
  rw [← List.takeWhile_append_dropWhile (p := (· != '\n')) (l := rest),
    matchLength?_append linewise (closes_dropWhile rest) (newline_not_mem_takeWhile rest) rfl]
    at found
  exact matchLength?_le found

end Pattern

end Highlighter
