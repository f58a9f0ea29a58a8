import Highlighter.Proofs.Surface.Validity

/-!
# Runs of operations on a surface

An `Operation` is one call that changes a surface. `Reachable` collects the surfaces that a run of
admitted operations leads to, from the empty surface or from one that holds a text. Positions and
texts are arbitrary in every operation. What is admitted is a parameter, because removing a tag
from a reversed range has laws of its own.
-/

namespace Highlighter.Surface

/-- A call that changes a surface. -/
inductive Operation where
  | insert (position : Position) (text : Text)
  | delete (start stop : Position)
  | setContent (text : Text)
  | setCursor (position : Position)
  | tagAdd (name : String) (start stop : Position)
  | tagRemove (name : String) (start stop : Position)
  | tagDelete (name : String)
  | tagConfigure (name : String) (directive : StyleDirective)
  deriving DecidableEq, Repr

/-- The surface after an operation. -/
def apply (surface : Surface) : Operation → Surface
  | .insert position text => surface.insert position text
  | .delete start stop => surface.delete start stop
  | .setContent text => surface.setContent text
  | .setCursor position => surface.setCursor position
  | .tagAdd name start stop => surface.tagAdd name start stop
  | .tagRemove name start stop => surface.tagRemove name start stop
  | .tagDelete name => surface.tagDelete name
  | .tagConfigure name directive => surface.tagConfigure name directive

/-- An operation removes no tag from a range that is reversed in the text. -/
def Ordered (surface : Surface) : Operation → Prop
  | .tagRemove _ start stop => surface.clamp start ≤ surface.clamp stop
  | _ => True

instance (surface : Surface) (operation : Operation) : Decidable (surface.Ordered operation) :=
  match operation with
  | .tagRemove _ start stop =>
    inferInstanceAs (Decidable (surface.clamp start ≤ surface.clamp stop))
  | .insert .. | .delete .. | .setContent _ | .setCursor _ | .tagAdd .. | .tagDelete _
  | .tagConfigure .. => .isTrue trivial

/-- The surface after a sequence of operations. -/
def run (surface : Surface) (operations : List Operation) : Surface :=
  operations.foldl apply surface

/-- Every operation of a sequence is ordered on the surface that it meets. -/
def OrderedRun (surface : Surface) : List Operation → Prop
  | [] => True
  | operation :: later => surface.Ordered operation ∧ (surface.apply operation).OrderedRun later

instance decidableOrderedRun (surface : Surface) :
    (operations : List Operation) → Decidable (surface.OrderedRun operations)
  | [] => .isTrue trivial
  | operation :: later =>
    have := (surface.apply operation).decidableOrderedRun later
    inferInstanceAs (Decidable (_ ∧ _))

/-- The surfaces that runs of admitted operations lead to. -/
inductive Reachable (admits : Surface → Operation → Prop) : Surface → Prop where
  | empty : Reachable admits .empty
  | ofText (text : Text) : Reachable admits (.ofText text)
  | step {surface : Surface} (operation : Operation) (prior : Reachable admits surface)
      (admitted : admits surface operation) : Reachable admits (surface.apply operation)

/-- Every operation leaves lines behind, also one that is not ordered. -/
theorem Lined.apply {surface : Surface} (lined : surface.Lined) (operation : Operation) :
    (surface.apply operation).Lined := by
  cases operation with
  | insert position text => exact lined_of_lines_eq rfl
  | delete start stop =>
      rw [Surface.apply]
      by_cases ordered : surface.offsetOf start < surface.offsetOf stop
      · rw [delete_of_lt ordered]
        exact lined_of_lines_eq rfl
      · rwa [delete_of_le (Nat.not_lt.mp ordered)]
  | setContent text => exact lined_of_lines_eq rfl
  | setCursor | tagAdd | tagRemove | tagDelete | tagConfigure =>
      exact ⟨lined.nonempty, lined.newlineFree⟩

/-- A surface that any run of operations leads to has lines. -/
theorem Lined.of_reachable {admits : Surface → Operation → Prop} {surface : Surface}
    (reachable : Reachable admits surface) : surface.Lined := by
  induction reachable with
  | empty => exact (Valid.ofText []).toLined
  | ofText text => exact lined_of_lines_eq rfl
  | step operation prior admitted lined => exact lined.apply operation

/-- No operation gives two tags one name, also one that is not ordered. -/
theorem nodup_names_apply {surface : Surface} (distinct : (surface.tags.map (·.name)).Nodup)
    (operation : Operation) : ((surface.apply operation).tags.map (·.name)).Nodup := by
  have edited (text : Text) (moveStart moveStop : Nat → Nat) (cursor : Nat) :
      ((surface.replaceText text moveStart moveStop cursor).tags.map (·.name)).Nodup := by
    simpa [replaceText, Function.comp_def] using distinct
  cases operation with
  | insert position text => exact edited ..
  | delete start stop =>
      rw [apply]
      by_cases ordered : surface.offsetOf start < surface.offsetOf stop
      · rw [delete_of_lt ordered]
        exact edited ..
      · rwa [delete_of_le (Nat.not_lt.mp ordered)]
  | setContent text => simpa [apply, setContent, Function.comp_def] using distinct
  | setCursor position => exact distinct
  | tagAdd name start stop =>
      refine nodup_updateTag (fun tag => ?_) distinct
      split <;> rfl
  | tagRemove name start stop =>
      rw [apply, map_name_tagRemove]
      exact distinct
  | tagDelete name => exact distinct.sublist (List.filter_sublist.map _)
  | tagConfigure name directive => exact nodup_updateTag (fun _ => rfl) distinct

/-- No two tags have one name after any run of operations. -/
theorem nodup_names_of_reachable {admits : Surface → Operation → Prop} {surface : Surface}
    (reachable : Reachable admits surface) : (surface.tags.map (·.name)).Nodup := by
  induction reachable with
  | empty | ofText text => exact List.nodup_nil
  | step operation prior admitted distinct => exact nodup_names_apply distinct operation

/-- One ordered operation keeps the invariant. -/
theorem Valid.apply {surface : Surface} (valid : surface.Valid) {operation : Operation}
    (ordered : surface.Ordered operation) : (surface.apply operation).Valid := by
  cases operation with
  | insert position text => exact valid.insert position text
  | delete start stop => exact valid.delete start stop
  | setContent text => exact valid.setContent text
  | setCursor position => exact valid.setCursor position
  | tagAdd name start stop => exact valid.tagAdd name start stop
  | tagRemove name start stop => exact valid.tagRemove name ordered
  | tagDelete name => exact valid.tagDelete name
  | tagConfigure name directive => exact valid.tagConfigure name directive

/-- A run of ordered operations keeps the invariant. -/
theorem Valid.of_reachable {surface : Surface} (reachable : Reachable Ordered surface) :
    surface.Valid := by
  induction reachable with
  | empty => exact .ofText []
  | ofText text => exact .ofText text
  | step operation prior ordered valid => exact valid.apply ordered

/-- A sequence that is ordered is ordered up to each of its steps. -/
theorem OrderedRun.take {surface : Surface} {operations : List Operation}
    (ordered : surface.OrderedRun operations) (count : Nat) :
    surface.OrderedRun (operations.take count) := by
  induction operations generalizing surface count with
  | nil => simpa using ordered
  | cons operation later inductionHypothesis =>
      cases count with
      | zero => trivial
      | succ count => exact ⟨ordered.1, inductionHypothesis ordered.2 count⟩

/-- An ordered sequence of operations leads from a reachable surface to a reachable surface. -/
theorem Reachable.run {surface : Surface} (reachable : Reachable Ordered surface)
    {operations : List Operation} (ordered : surface.OrderedRun operations) :
    Reachable Ordered (surface.run operations) := by
  induction operations generalizing surface with
  | nil => exact reachable
  | cons operation later inductionHypothesis =>
      exact inductionHypothesis (.step operation reachable ordered.1) ordered.2

/-- The invariant holds after every step of every ordered sequence of operations, from the empty
surface or from a surface that holds a text. -/
theorem valid_along_run {first : Surface}
    (begun : first = .empty ∨ ∃ text, first = .ofText text) {operations : List Operation}
    (ordered : first.OrderedRun operations) (count : Nat) :
    (first.run (operations.take count)).Valid := by
  have reachable : Reachable Ordered first := by
    rcases begun with rfl | ⟨text, rfl⟩
    · exact .empty
    · exact .ofText text
  exact .of_reachable (reachable.run (ordered.take count))

/-- A run on two lines, with ranges over the line end and positions before and behind the text. -/
theorem valid_along_run_of_two_lines :
    let operations : List Operation :=
      [.tagAdd "word" ⟨1, 1⟩ ⟨9, 0⟩, .insert ⟨1, 1⟩ ['x', '\n'], .tagRemove "word" ⟨0, 7⟩ ⟨2, 1⟩,
        .tagAdd "mark" ⟨0, 0⟩ ⟨3, 1⟩, .delete ⟨1, 1⟩ ⟨3, 0⟩, .setCursor ⟨7, 7⟩]
    (ofText ['a', 'b', '\n', 'c', 'd']).OrderedRun operations ∧
      ∀ count, ((ofText ['a', 'b', '\n', 'c', 'd']).run (operations.take count)).Valid :=
  have ordered : (ofText ['a', 'b', '\n', 'c', 'd']).OrderedRun
      [.tagAdd "word" ⟨1, 1⟩ ⟨9, 0⟩, .insert ⟨1, 1⟩ ['x', '\n'],
        .tagRemove "word" ⟨0, 7⟩ ⟨2, 1⟩, .tagAdd "mark" ⟨0, 0⟩ ⟨3, 1⟩, .delete ⟨1, 1⟩ ⟨3, 0⟩,
        .setCursor ⟨7, 7⟩] := by decide
  ⟨ordered, valid_along_run (.inr ⟨_, rfl⟩) ordered⟩

end Highlighter.Surface
