import Highlighter.Grammar.Rule
import Highlighter.Proofs.Pattern.Search
import Mathlib.Data.List.TakeWhile

/-!
# Where the tokens of a rule end

A rule applies where its opening pattern has a nonempty match. A region never ends before its body
and stays inside of the text, whatever its closing pattern matches (`RegionRule.findEnd_bounds`).
-/

namespace Highlighter

namespace RegionRule

/-- The limit of a region lies between the start of its body and the end of the text. -/
theorem limit_bounds (rule : RegionRule) (body : Cursor) :
    body.offset ≤ rule.limit body ∧ rule.limit body ≤ body.limit := by
  have line : (body.rest.takeWhile (· != '\n')).length ≤ body.rest.length :=
    (List.takeWhile_prefix _).length_le
  rw [limit, Cursor.limit]
  split <;> omega

/-- A search for the closing match ends between its cursor and the end of the text. -/
theorem findEndFrom_bounds (rule : RegionRule) (body : Cursor) (rounds : Nat) (cursor : Cursor) :
    cursor.offset ≤ rule.findEndFrom body rounds cursor ∧
      rule.findEndFrom body rounds cursor ≤ cursor.limit := by
  induction rounds generalizing cursor with
  | zero =>
      rw [findEndFrom, Cursor.limit]
      omega
  | succ rounds inductionHypothesis =>
      rw [findEndFrom]
      split
      next =>
        rw [Cursor.limit]
        omega
      next closing found =>
        have bounds := Pattern.bounds_of_find? found
        split
        next =>
          dsimp only
          split
          next =>
            have later := inductionHypothesis
              (cursor.advance (max closing.stop (closing.start + 1) - cursor.offset))
            rw [Cursor.limit_advance, Cursor.offset_advance] at later
            omega
          next =>
            rw [Cursor.limit]
            omega
        next => omega

/-- A region ends between the start of its body and its limit. -/
theorem findEnd_le_limit (rule : RegionRule) (body : Cursor) :
    body.offset ≤ rule.findEnd body ∧ rule.findEnd body ≤ rule.limit body := by
  have limit := rule.limit_bounds body
  have ends := rule.findEndFrom_bounds (body.upTo (rule.limit body))
    ((body.upTo (rule.limit body)).rest.length + 1) (body.upTo (rule.limit body))
  have shortened : (body.upTo (rule.limit body)).limit ≤ rule.limit body := by
    rw [Cursor.limit, Cursor.upTo]
    dsimp only
    rw [List.length_take]
    omega
  exact ⟨ends.1, Nat.le_trans ends.2 shortened⟩

/-- A region ends between the start of its body and the end of the text. -/
theorem findEnd_bounds (rule : RegionRule) (body : Cursor) :
    body.offset ≤ rule.findEnd body ∧ rule.findEnd body ≤ body.limit :=
  ⟨(rule.findEnd_le_limit body).1,
    Nat.le_trans (rule.findEnd_le_limit body).2 (rule.limit_bounds body).2⟩

/-- A place of the body is not escaped if no escape character stands in front of it. -/
theorem isEscaped_of_absent {rule : RegionRule} {body : Cursor} {start : Nat}
    (absent : ∀ escape ∈ rule.escape, escape ∉ body.rest.take (start - body.offset)) :
    rule.isEscaped body start = false := by
  rw [isEscaped]
  cases escaping : rule.escape with
  | none => rfl
  | some escape =>
      have run : (body.rest.take (start - body.offset)).reverse.takeWhile (· == escape) = [] := by
        refine List.eq_nil_iff_forall_not_mem.mpr fun c member => ?_
        obtain rfl : c = escape := by simpa using List.mem_takeWhile_imp member
        exact absent c escaping (List.mem_reverse.mp ((List.takeWhile_prefix _).subset member))
      simp only [run]
      rfl

/-- A closing match that is not escaped ends the region. -/
theorem findEndFrom_of_find? {rule : RegionRule} {body cursor : Cursor} {closing : Extent}
    (found : rule.closing.find? cursor = some closing)
    (free : rule.isEscaped body closing.start = false) (rounds : Nat) :
    rule.findEndFrom body (rounds + 1) cursor = closing.stop := by
  rw [findEndFrom, found]
  dsimp only
  rw [free, if_neg Bool.false_ne_true]

/-- A search for the closing match ends at the end of the text, or behind a match that a search from
the cursor or from a later place finds. -/
theorem findEndFrom_eq_limit_or (rule : RegionRule) (body : Cursor) (rounds : Nat)
    (cursor : Cursor) :
    rule.findEndFrom body rounds cursor = cursor.limit ∨
      ∃ passed closing, rule.closing.find? (cursor.advance passed) = some closing ∧
        rule.findEndFrom body rounds cursor = closing.stop := by
  induction rounds generalizing cursor with
  | zero => exact .inl rfl
  | succ rounds inductionHypothesis =>
      rw [findEndFrom]
      split
      next => exact .inl rfl
      next closing found =>
        split
        next =>
          dsimp only
          split
          next =>
            rcases inductionHypothesis
                (cursor.advance (max closing.stop (closing.start + 1) - cursor.offset)) with
              atEnd | ⟨passed, later, foundLater, ends⟩
            · exact .inl (by rw [atEnd, Cursor.limit_advance])
            · rw [Cursor.advance_add] at foundLater
              exact .inr ⟨_, later, foundLater, ends⟩
          next => exact .inl rfl
        next => exact .inr ⟨0, closing, by rwa [Cursor.advance_zero], rfl⟩

/-! ### Regions on a line -/

theorem isEscaped_moved (rule : RegionRule) (body : Cursor) (distance start : Nat) :
    rule.isEscaped (body.moved distance) (distance + start) = rule.isEscaped body start := by
  rw [isEscaped, isEscaped, Cursor.moved, Nat.add_sub_add_left]

theorem findEndFrom_moved (rule : RegionRule) (body : Cursor) (distance rounds : Nat)
    (cursor : Cursor) :
    rule.findEndFrom (body.moved distance) rounds (cursor.moved distance) =
      distance + rule.findEndFrom body rounds cursor := by
  induction rounds generalizing cursor with
  | zero => exact Cursor.limit_moved cursor distance
  | succ rounds inductionHypothesis =>
      rw [findEndFrom, findEndFrom, Pattern.find?_moved, Cursor.limit_moved]
      cases rule.closing.find? cursor with
      | none => rfl
      | some closing =>
          have resume : max (distance + closing.stop) (distance + closing.start + 1) =
              distance + max closing.stop (closing.start + 1) := by
            omega
          have offset : (cursor.moved distance).offset = distance + cursor.offset := rfl
          simp only [Option.map_some, isEscaped_moved, resume, Nat.add_le_add_iff_left, offset,
            Nat.add_sub_add_left, Cursor.advance_moved, inductionHypothesis]
          split
          next => split <;> rfl
          next => rfl

/-- A region sees all of the text behind its body, or the rest of the line. -/
theorem upTo_limit (rule : RegionRule) (body : Cursor) :
    body.upTo (rule.limit body) = { body with
      rest := if rule.singleLine then body.rest.takeWhile (· != '\n') else body.rest } := by
  rw [Cursor.upTo, limit]
  split
  next =>
    rw [Nat.add_sub_cancel_left]
    exact congrArg _ (List.prefix_iff_eq_take.mp (List.takeWhile_prefix _)).symm
  next =>
    rw [Cursor.limit, Nat.add_sub_cancel_left, List.take_length]

/-- A region that is confined to its line ends at the same place of the line, whatever stands in
front of the line and behind it. -/
theorem findEnd_of_same_line {rule : RegionRule} (singleLine : rule.singleLine = true)
    {body other : Cursor} {distance : Nat} (offset : other.offset = distance + body.offset)
    (before : other.before = body.before)
    (line : other.rest.takeWhile (· != '\n') = body.rest.takeWhile (· != '\n')) :
    rule.findEnd other = distance + rule.findEnd body := by
  have seen : other.upTo (rule.limit other) = (body.upTo (rule.limit body)).moved distance := by
    rw [upTo_limit, upTo_limit, if_pos singleLine, if_pos singleLine, Cursor.moved, offset, before,
      line]
  rw [findEnd, findEnd, seen]
  exact findEndFrom_moved rule _ distance _ _

end RegionRule

namespace Rule

/-- The pattern that a token of the rule starts with. -/
def opening : Rule → Pattern
  | .region rule => rule.opening
  | .pattern rule => rule.pattern

/-- A rule is found where its opening pattern has a nonempty match. -/
theorem find?_eq (rule : Rule) (cursor : Cursor) :
    rule.find? cursor = rule.opening.findNonempty? cursor := by
  cases rule <;> rfl

end Rule

end Highlighter
