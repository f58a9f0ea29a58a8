import Highlighter.Token.Kind
import Mathlib.Data.List.TakeWhile
import Mathlib.Logic.Function.Iterate

/-!
# The hierarchy of token kinds

The enclosing kinds of a kind are what stands before one of its dots. Taking the parent again and
again leads through all of them, nearest first (`TokenKind.getElem?_ancestors`), and a kind lies
within exactly these and itself (`TokenKind.isWithin_iff`).
-/

namespace Highlighter.TokenKind

/-! ### What stands before a dot -/

/-- A name has what stands before one of its dots as a front, with a dot behind it. -/
theorem mem_dotPrefixes_iff {front name : List Char} :
    front ∈ dotPrefixes name ↔ front ++ ['.'] <+: name := by
  induction name generalizing front with
  | nil => simp [dotPrefixes]
  | cons c rest inductionHypothesis =>
      cases front with
      | nil =>
          simp only [dotPrefixes, List.nil_append, List.cons_prefix_cons, List.nil_prefix, and_true]
          split <;> simp_all [eq_comm]
      | cons first front =>
          simp only [dotPrefixes, List.cons_append, List.cons_prefix_cons, ← inductionHypothesis]
          split <;> grind

/-- Further to the right there stands more before a dot. -/
theorem pairwise_dotPrefixes (name : List Char) :
    (dotPrefixes name).Pairwise fun short long => short.length < long.length := by
  induction name with
  | nil => exact .nil
  | cons c rest inductionHypothesis =>
      have longer : ((dotPrefixes rest).map (c :: ·)).Pairwise
          fun short long => short.length < long.length :=
        inductionHypothesis.map _ fun _ _ shorter => Nat.succ_lt_succ shorter
      rw [dotPrefixes]
      split
      next => exact .cons (by simp) longer
      next => exact longer

theorem dotPrefixes_eq_nil {name : List Char} (dotless : '.' ∉ name) : dotPrefixes name = [] := by
  rw [List.eq_nil_iff_forall_not_mem]
  intro front member
  obtain ⟨rest, rfl⟩ := mem_dotPrefixes_iff.mp member
  simp at dotless

/-- The part before the last dot is the last one before a dot, behind those of that part itself. -/
theorem dotPrefixes_append {front back : List Char} (dotless : '.' ∉ back) :
    dotPrefixes (front ++ '.' :: back) = dotPrefixes front ++ [front] := by
  induction front with
  | nil => simp [dotPrefixes, dotPrefixes_eq_nil dotless]
  | cons c front inductionHypothesis =>
      rw [List.cons_append, dotPrefixes, dotPrefixes, inductionHypothesis]
      split <;> simp

/-- A search from the back passes every character of a text without dots. -/
theorem ne_dot_of_mem_reverse {text : List Char} (dotless : '.' ∉ text) :
    ∀ c ∈ text.reverse, (c != '.') = true := by
  intro c member
  rw [bne_iff_ne]
  rintro rfl
  exact dotless (List.mem_reverse.mp member)

/-- A name without a dot has nothing before a last one. -/
theorem beforeLastDot?_eq_none {name : List Char} (dotless : '.' ∉ name) :
    beforeLastDot? name = none := by
  rw [beforeLastDot?, List.dropWhile_eq_nil_iff.mpr (ne_dot_of_mem_reverse dotless)]

/-- A name is cut at the dot that no other one follows. -/
theorem beforeLastDot?_append {front back : List Char} (dotless : '.' ∉ back) :
    beforeLastDot? (front ++ '.' :: back) = some front := by
  rw [beforeLastDot?, List.reverse_append, List.reverse_cons, List.append_assoc,
    List.dropWhile_append_of_pos (ne_dot_of_mem_reverse dotless)]
  simp

/-- A name with a dot has a last one. -/
theorem exists_last_dot {name : List Char} (dotted : '.' ∈ name) :
    ∃ front back, name = front ++ '.' :: back ∧ '.' ∉ back := by
  obtain ⟨back, front, split, dotless⟩ :=
    List.eq_append_cons_of_mem (List.mem_reverse.mpr dotted)
  refine ⟨front.reverse, back.reverse, ?_, by simpa using dotless⟩
  rw [← List.reverse_reverse name, split]
  simp

/-! ### Parents and ancestors -/

variable {kind : TokenKind} {other : String}

/-- A kind without a parent has no ancestors. -/
theorem ancestors_of_parent?_eq_none (top : kind.parent? = none) : kind.ancestors = [] := by
  rw [parent?, Option.map_eq_none_iff] at top
  rw [ancestors, dotPrefixes_eq_nil, List.map_nil, List.reverse_nil]
  intro dotted
  obtain ⟨front, back, split, dotless⟩ := exists_last_dot dotted
  rw [split, beforeLastDot?_append dotless] at top
  cases top

/-- The ancestors of a kind are its parent and the ancestors of that. -/
theorem ancestors_of_parent?_eq_some {parent : TokenKind} (below : kind.parent? = some parent) :
    kind.ancestors = parent.name :: parent.ancestors := by
  obtain ⟨before, cut, rfl⟩ := Option.map_eq_some_iff.mp below
  by_cases dotted : '.' ∈ kind.name.toList
  · obtain ⟨front, back, split, dotless⟩ := exists_last_dot dotted
    rw [split, beforeLastDot?_append dotless] at cut
    obtain rfl := Option.some.inj cut
    simp [ancestors, split, dotPrefixes_append dotless]
  · rw [beforeLastDot?_eq_none dotted] at cut
    cases cut

/-- The ancestors are what taking the parent again and again leads to. -/
theorem getElem?_ancestors (kind : TokenKind) (index : Nat) :
    kind.ancestors[index]? =
      (((fun kind? : Option TokenKind => kind?.bind parent?)^[index + 1]) (some kind)).map
        (·.name) := by
  induction index generalizing kind with
  | zero =>
      cases above : kind.parent? with
      | none => simp [ancestors_of_parent?_eq_none above, above]
      | some parent => simp [ancestors_of_parent?_eq_some above, above]
  | succ index inductionHypothesis =>
      rw [Function.iterate_succ_apply, Option.bind_some]
      cases above : kind.parent? with
      | none =>
          rw [ancestors_of_parent?_eq_none above, List.getElem?_nil, Function.iterate_fixed rfl]
          rfl
      | some parent =>
          rw [ancestors_of_parent?_eq_some above, List.getElem?_cons_succ, inductionHypothesis]

/-- An ancestor is what stands before a dot of the name. -/
theorem mem_ancestors_iff :
    other ∈ kind.ancestors ↔ other.toList ++ ['.'] <+: kind.name.toList := by
  rw [ancestors, List.mem_reverse, List.mem_map, ← mem_dotPrefixes_iff]
  constructor
  · rintro ⟨front, member, rfl⟩
    rwa [String.toList_ofList]
  · intro member
    exact ⟨_, member, String.ofList_toList⟩

/-- An ancestor has a shorter name than the kind. -/
theorem length_lt_of_mem_ancestors (member : other ∈ kind.ancestors) :
    other.length < kind.name.length := by
  have bounded := (mem_ancestors_iff.mp member).length_le
  rw [List.length_append, List.length_singleton, String.length_toList, String.length_toList]
    at bounded
  exact bounded

/-- From the kind outwards names become shorter. -/
theorem pairwise_length_ancestors (kind : TokenKind) :
    (kind.name :: kind.ancestors).Pairwise fun near far => far.length < near.length := by
  refine .cons (fun other => length_lt_of_mem_ancestors) ?_
  rw [ancestors, List.pairwise_reverse, List.pairwise_map]
  simpa using pairwise_dotPrefixes kind.name.toList

/-- A kind lies within itself and its ancestors, and within no other kind. -/
theorem isWithin_iff (kind : TokenKind) (other : String) :
    kind.isWithin other = true ↔ other = kind.name ∨ other ∈ kind.ancestors := by
  rw [isWithin, Bool.or_eq_true, beq_iff_eq, List.isPrefixOf_iff_prefix, mem_ancestors_iff,
    eq_comm]

end Highlighter.TokenKind
