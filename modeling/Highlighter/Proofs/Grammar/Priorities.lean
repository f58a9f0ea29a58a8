import Highlighter.Grammar.Basic
import Mathlib.Data.List.Basic

/-!
# The order of rules

The pattern rules of a grammar are sorted anew with every rule that is added. What a sequence of
additions leaves behind is one stable sort of all rules that were accepted, in the order in which
they came (`Grammar.rules_of_additions`). A list that is sorted by descending priority, and keeps
the order of every group of equal priorities, is determined by that (`SortedByPriority.unique`), so
it is enough that every addition keeps both.
-/

namespace Highlighter.Grammar

/-! ### Stable sorting by priority -/

/-- One rule may stand before another one: its priority is not lower. -/
def higherFirst (left right : PatternRule) : Bool :=
  right.priority ≤ left.priority

/-- Append a rule and sort all of them anew. The sort is stable. -/
def sortAnew (rules : List PatternRule) (rule : PatternRule) : List PatternRule :=
  (rules ++ [rule]).mergeSort higherFirst

/-- No rule has a higher priority than one before it. -/
def Descending (rules : List PatternRule) : Prop :=
  rules.Pairwise fun left right => right.priority ≤ left.priority

/-- Rules are others in the order of descending priorities, and rules of one priority are in the
order that they had. -/
structure SortedByPriority (sorted rules : List PatternRule) : Prop where
  perm : sorted.Perm rules
  descending : Descending sorted
  ties : ∀ priority : Int,
    sorted.filter (·.priority = priority) = rules.filter (·.priority = priority)

variable {sorted rules : List PatternRule} {rule : PatternRule}

/-- Rules that descend already are sorted. -/
theorem SortedByPriority.refl (descending : Descending rules) : SortedByPriority rules rules :=
  ⟨.refl _, descending, fun _ => rfl⟩

/-- No rule has a higher priority than the first one. -/
theorem priority_le_first {first : PatternRule} (descending : Descending (first :: rules))
    (member : rule ∈ first :: rules) : rule.priority ≤ first.priority := by
  rcases List.mem_cons.mp member with rfl | later
  · exact Int.le_refl _
  · exact List.rel_of_pairwise_cons descending later

/-- The groups of equal priorities hold all rules. -/
theorem mem_of_ties {other : List PatternRule}
    (ties : ∀ priority : Int,
      rules.filter (·.priority = priority) = other.filter (·.priority = priority))
    (member : rule ∈ rules) : rule ∈ other := by
  have held : rule ∈ rules.filter (·.priority = rule.priority) := by simpa using member
  rw [ties] at held
  exact List.mem_of_mem_filter held

/-- Descending rules are determined by their groups of equal priorities. -/
theorem eq_of_ties {other : List PatternRule} (descending : Descending rules)
    (otherDescending : Descending other)
    (ties : ∀ priority : Int,
      rules.filter (·.priority = priority) = other.filter (·.priority = priority)) :
    rules = other := by
  induction rules generalizing other with
  | nil =>
      refine (List.eq_nil_iff_forall_not_mem.mpr fun rule member => ?_).symm
      exact List.not_mem_nil (mem_of_ties (fun priority => (ties priority).symm) member)
  | cons first rules inductionHypothesis =>
      cases other with
      | nil => exact absurd (mem_of_ties ties List.mem_cons_self) List.not_mem_nil
      | cons otherFirst other =>
          -- Both begin with the first rule of the highest priority.
          have same : first.priority = otherFirst.priority := Int.le_antisymm
            (priority_le_first otherDescending (mem_of_ties ties List.mem_cons_self))
            (priority_le_first descending
              (mem_of_ties (fun priority => (ties priority).symm) List.mem_cons_self))
          have top := ties first.priority
          rw [List.filter_cons_of_pos (by simp), List.filter_cons_of_pos (by simp [same]),
            List.cons.injEq] at top
          obtain ⟨rfl, topTies⟩ := top
          refine congrArg _ (inductionHypothesis descending.of_cons otherDescending.of_cons ?_)
          intro priority
          by_cases here : first.priority = priority
          · exact here ▸ topTies
          · have later := ties priority
            rwa [List.filter_cons_of_neg (by simpa using here),
              List.filter_cons_of_neg (by simpa using here)] at later

/-- Rules can be sorted in one way only. -/
theorem SortedByPriority.unique {other : List PatternRule} (left : SortedByPriority sorted rules)
    (right : SortedByPriority other rules) : sorted = other :=
  eq_of_ties left.descending right.descending fun priority =>
    (left.ties priority).trans (right.ties priority).symm

/-- A stable sort sorts. -/
theorem sortedByPriority_mergeSort (rules : List PatternRule) :
    SortedByPriority (rules.mergeSort higherFirst) rules := by
  have transitive (first second third : PatternRule) :
      higherFirst first second → higherFirst second third → higherFirst first third := by
    simp only [higherFirst, decide_eq_true_eq]
    omega
  have total (first second : PatternRule) :
      (higherFirst first second || higherFirst second first) = true := by
    simp only [higherFirst, Bool.or_eq_true, decide_eq_true_eq]
    omega
  have perm := List.mergeSort_perm rules higherFirst
  refine ⟨perm, ?descending, fun priority => ?ties⟩
  case descending =>
    simpa [Descending, higherFirst] using List.pairwise_mergeSort transitive total rules
  case ties =>
    have group : (rules.filter (·.priority = priority)).Pairwise (higherFirst · ·) := by
      refine List.pairwise_of_forall_mem_list fun left leftHeld right rightHeld => ?_
      simp only [List.mem_filter, decide_eq_true_eq] at leftHeld rightHeld
      simp [higherFirst, leftHeld, rightHeld]
    have kept := (List.sublist_mergeSort transitive total group List.filter_sublist).filter
      (·.priority = priority)
    rw [List.filter_filter] at kept
    simp only [Bool.and_self] at kept
    exact (kept.eq_of_length (perm.filter _).length_eq.symm).symm

/-- Rules that were sorted once can be sorted again together with further ones. -/
theorem SortedByPriority.append {resorted added : List PatternRule}
    (ordered : SortedByPriority sorted rules)
    (again : SortedByPriority resorted (sorted ++ added)) :
    SortedByPriority resorted (rules ++ added) where
  perm := again.perm.trans (ordered.perm.append_right added)
  descending := again.descending
  ties priority := by
    rw [again.ties, List.filter_append, ordered.ties, List.filter_append]

/-- A rule that no later one is above stays in front of them. -/
theorem SortedByPriority.cons {first : PatternRule} (ordered : SortedByPriority sorted rules)
    (above : ∀ other ∈ rules, other.priority ≤ first.priority) :
    SortedByPriority (first :: sorted) (first :: rules) where
  perm := ordered.perm.cons first
  descending :=
    ordered.descending.cons fun other member => above other (ordered.perm.mem_iff.mp member)
  ties priority := by
    rw [List.filter_cons, ordered.ties, List.filter_cons]

/-- A rule that is above all others goes before them. -/
theorem sortedByPriority_of_above (descending : Descending rules)
    (above : ∀ other ∈ rules, other.priority < rule.priority) :
    SortedByPriority (rule :: rules) (rules ++ [rule]) where
  perm := (List.perm_append_singleton _ _).symm
  descending := descending.cons fun other member => Int.le_of_lt (above other member)
  ties priority := by
    rw [List.filter_append]
    by_cases same : rule.priority = priority
    · have others : rules.filter (·.priority = priority) = [] := by
        refine List.filter_eq_nil_iff.mpr fun other member => ?_
        have lower := above other member
        simp only [decide_eq_true_eq]
        omega
      rw [List.filter_cons_of_pos (by simpa using same), others, List.nil_append,
        List.filter_cons_of_pos (by simpa using same), List.filter_nil]
    · rw [List.filter_cons_of_neg (by simpa using same),
        List.filter_cons_of_neg (by simpa using same), List.filter_nil, List.append_nil]

/-- To insert a rule behind all rules of its priority or a higher one is to sort it in as the last
one. -/
theorem sortedByPriority_insertByPriority (rule : PatternRule) (descending : Descending rules) :
    SortedByPriority (insertByPriority rule rules) (rules ++ [rule]) := by
  induction rules with
  | nil => exact .refl (List.pairwise_singleton _ _)
  | cons first rules inductionHypothesis =>
      have highest (other : PatternRule) (member : other ∈ first :: rules) :
          other.priority ≤ first.priority := priority_le_first descending member
      rw [insertByPriority]
      split
      next lower =>
        exact sortedByPriority_of_above descending fun other member =>
          Int.lt_of_le_of_lt (highest other member) lower
      next notLower =>
        refine (inductionHypothesis descending.of_cons).cons fun other member => ?_
        rcases List.mem_append.mp member with held | new
        · exact highest other (List.mem_cons_of_mem _ held)
        · rw [List.mem_singleton.mp new]
          omega

/-- Rules that are sorted anew with every one that comes are in the end sorted once. -/
theorem sortedByPriority_foldl (earlier : SortedByPriority sorted rules)
    (added : List PatternRule) :
    SortedByPriority (added.foldl sortAnew sorted) (rules ++ added) := by
  induction added generalizing sorted rules with
  | nil => rwa [List.append_nil]
  | cons rule added inductionHypothesis =>
      rw [List.append_cons]
      exact inductionHypothesis (earlier.append (sortedByPriority_mergeSort _))

/-! ### Additions -/

/-- A call that adds a rule. The first three write their patterns, which may be no patterns. -/
inductive Addition where
  | pattern (name pattern kind : String) (priority : Int)
  | region (name opening closing kind : String)
  | string (name delimiter kind : String)
  | patternRule (rule : PatternRule)
  | regionRule (rule : RegionRule)
  deriving DecidableEq, Repr

/-- The grammar after an addition. -/
def add (grammar : Grammar) : Addition → Grammar
  | .pattern name pattern kind priority => grammar.pattern name pattern kind priority
  | .region name opening closing kind => grammar.region name opening closing kind
  | .string name delimiter kind => grammar.string name delimiter kind
  | .patternRule rule => grammar.addPattern rule
  | .regionRule rule => grammar.addRegion rule

/-- The grammar after a sequence of additions. -/
def addAll (grammar : Grammar) (additions : List Addition) : Grammar :=
  additions.foldl add grammar

namespace Addition

/-- The pattern rule that an addition makes. -/
@[simp] def patternRule? : Addition → Option PatternRule
  | .pattern name written kind priority =>
    (Pattern.compile? written).map fun pattern => ⟨name, pattern, ⟨kind⟩, priority⟩
  | .patternRule rule => some rule
  | .region .. | .string .. | .regionRule _ => none

/-- The region rule that an addition makes. A string is a region on one line in which a backslash
escapes. -/
@[simp] def regionRule? : Addition → Option RegionRule
  | .region name opening closing kind =>
    match Pattern.compile? opening, Pattern.compile? closing with
    | some opening, some closing => some ⟨name, opening, closing, ⟨kind⟩, none, false⟩
    | _, _ => none
  | .string name delimiter kind =>
    (Pattern.compile? delimiter).map fun pattern =>
      ⟨name, pattern, pattern, ⟨kind⟩, some '\\', true⟩
  | .regionRule rule => some rule
  | .pattern .. | .patternRule _ => none

/-- An addition writes something that is no pattern. -/
@[simp] def isRejected : Addition → Bool
  | .pattern _ written _ _ => (Pattern.compile? written).isNone
  | .region _ opening closing _ =>
    (Pattern.compile? opening).isNone || (Pattern.compile? closing).isNone
  | .string _ delimiter _ => (Pattern.compile? delimiter).isNone
  | .patternRule _ | .regionRule _ => false

end Addition

/-- The rules of a grammar are those that additions have made, and the others were counted. -/
structure MadeBy (grammar : Grammar) (additions : List Addition) : Prop where
  patterns : SortedByPriority grammar.patterns (additions.filterMap (·.patternRule?))
  regions : grammar.regions = additions.filterMap (·.regionRule?)
  rejected : grammar.rejected = additions.countP (·.isRejected)

variable {grammar : Grammar} {additions : List Addition} {addition : Addition}

/-- What is made of one more element goes to the end. -/
theorem filterMap_concat {α β : Type} (make : α → Option β) (elements : List α) (element : α) :
    (elements ++ [element]).filterMap make = elements.filterMap make ++ (make element).toList := by
  simp only [List.filterMap_eq_flatMap_toList, List.flatMap_append, List.flatMap_singleton]

/-- One more addition has its pattern rule sorted in and its region rule appended, or is counted. -/
theorem MadeBy.step {after : Grammar} (made : grammar.MadeBy additions)
    (patterns : SortedByPriority after.patterns (grammar.patterns ++ addition.patternRule?.toList))
    (regions : after.regions = grammar.regions ++ addition.regionRule?.toList)
    (rejected : after.rejected = grammar.rejected + addition.isRejected.toNat) :
    after.MadeBy (additions ++ [addition]) where
  patterns := by
    rw [filterMap_concat]
    exact made.patterns.append patterns
  regions := by
    rw [filterMap_concat, regions, made.regions]
  rejected := by
    rw [List.countP_append, List.countP_singleton, rejected, made.rejected]
    cases addition.isRejected <;> rfl

/-- The pattern rules are sorted, and are so without a further rule. -/
theorem MadeBy.patterns_append_nil (made : grammar.MadeBy additions) :
    SortedByPriority grammar.patterns (grammar.patterns ++ []) := by
  rw [List.append_nil]
  exact .refl made.patterns.descending

/-- An addition that makes a pattern rule has it sorted in. -/
theorem MadeBy.addPattern (made : grammar.MadeBy additions)
    (makes : addition.patternRule? = some rule) (noRegion : addition.regionRule? = none)
    (accepted : addition.isRejected = false) :
    (grammar.addPattern rule).MadeBy (additions ++ [addition]) := by
  refine made.step ?_ ?_ ?_
  · rw [makes]
    exact sortedByPriority_insertByPriority rule made.patterns.descending
  · rw [noRegion]
    exact (List.append_nil _).symm
  · rw [accepted]
    rfl

/-- An addition that makes a region rule has it appended. -/
theorem MadeBy.addRegion {region : RegionRule} (made : grammar.MadeBy additions)
    (makes : addition.regionRule? = some region) (noPattern : addition.patternRule? = none)
    (accepted : addition.isRejected = false) :
    (grammar.addRegion region).MadeBy (additions ++ [addition]) := by
  refine made.step ?_ ?_ ?_
  · rw [noPattern]
    exact made.patterns_append_nil
  · rw [makes]
    rfl
  · rw [accepted]
    rfl

/-- An addition that makes no rule is counted. -/
theorem MadeBy.reject (made : grammar.MadeBy additions)
    (noPattern : addition.patternRule? = none) (noRegion : addition.regionRule? = none)
    (rejected : addition.isRejected = true) :
    grammar.reject.MadeBy (additions ++ [addition]) := by
  refine made.step ?_ ?_ ?_
  · rw [noPattern]
    exact made.patterns_append_nil
  · rw [noRegion]
    exact (List.append_nil _).symm
  · rw [rejected]
    rfl

/-- Every addition makes its rule or is counted. -/
theorem MadeBy.add (made : grammar.MadeBy additions) (addition : Addition) :
    (grammar.add addition).MadeBy (additions ++ [addition]) := by
  cases addition with
  | pattern name written kind priority =>
      rw [Grammar.add, Grammar.pattern, PatternRule.make?]
      cases compiled : Pattern.compile? written with
      | none => exact made.reject (by simp [compiled]) rfl (by simp [compiled])
      | some pattern => exact made.addPattern (by simp [compiled]) rfl (by simp [compiled])
  | region name opening closing kind =>
      rw [Grammar.add, Grammar.region, RegionRule.make?]
      cases opens : Pattern.compile? opening with
      | none => exact made.reject rfl (by simp [opens]) (by simp [opens])
      | some opening =>
          cases closes : Pattern.compile? closing with
          | none => exact made.reject rfl (by simp [opens, closes]) (by simp [closes])
          | some closing =>
              exact made.addRegion (by simp [opens, closes]) rfl (by simp [opens, closes])
  | string name delimiter kind =>
      rw [Grammar.add, Grammar.string, RegionRule.make?]
      cases compiled : Pattern.compile? delimiter with
      | none => exact made.reject rfl (by simp [compiled]) (by simp [compiled])
      | some pattern => exact made.addRegion (by simp [compiled]) rfl (by simp [compiled])
  | patternRule rule => exact made.addPattern rfl rfl rfl
  | regionRule rule => exact made.addRegion rfl rfl rfl

/-- The rules of a grammar without rules were made by no additions. -/
theorem madeBy_named (name : String) : (named name).MadeBy [] :=
  ⟨.refl .nil, rfl, rfl⟩

/-- Further additions make their rules behind those that were made already. -/
theorem MadeBy.addAll {earlier : List Addition} (made : grammar.MadeBy earlier)
    (additions : List Addition) : (grammar.addAll additions).MadeBy (earlier ++ additions) := by
  induction additions generalizing grammar earlier with
  | nil => rwa [List.append_nil]
  | cons addition additions inductionHypothesis =>
      rw [List.append_cons]
      exact inductionHypothesis (made.add addition)

/-- After any additions to a grammar without rules, its pattern rules are those that were accepted,
by descending priority and with those of equal priority in the order of their additions. They are
the outcome of one stable sort of the accepted rules, and of sorting anew with every one of them.
The region rules are those that were accepted, in the order of their additions, and all additions
that write no pattern where they should are counted. -/
theorem rules_of_additions (name : String) (additions : List Addition) :
    let grammar := (named name).addAll additions
    let accepted := additions.filterMap (·.patternRule?)
    SortedByPriority grammar.patterns accepted ∧
      grammar.patterns = accepted.mergeSort higherFirst ∧
      grammar.patterns = accepted.foldl sortAnew [] ∧
      grammar.regions = additions.filterMap (·.regionRule?) ∧
      grammar.rejected = additions.countP (·.isRejected) := by
  intro grammar accepted
  obtain ⟨patterns, regions, rejected⟩ := (madeBy_named name).addAll additions
  rw [List.nil_append] at patterns regions rejected
  exact ⟨patterns, patterns.unique (sortedByPriority_mergeSort _),
    patterns.unique (sortedByPriority_foldl (.refl .nil) accepted), regions, rejected⟩

/-- A rule goes behind the rules of its priority that were there before it. -/
example :
    (((named "c++").addAll
      [.pattern "word" "[a-z]+" "variable" (-1), .pattern "keyword" "for" "keyword" 3,
        .pattern "broken" "(" "operator" 9, .pattern "type" "auto" "type" 3]).patterns.map
          PatternRule.name) = ["keyword", "type", "word"] := by
  decide +kernel

end Highlighter.Grammar
