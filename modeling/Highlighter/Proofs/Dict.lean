import Highlighter.Dict

/-!
# Dictionaries in the order of their keys

A dictionary that is ascending stays so (`Dict.ascending_insert`), and a value that is put in is
found again, with all others as before (`Dict.find?_insert_self`, `Dict.find?_insert_of_ne`, and
`Dict.find?_foldl_insert` for one value under many keys). The later of two values under one key
stays, and the order of values under different keys does not matter (`Dict.insert_insert_self`,
`Dict.insert_comm`).
-/

namespace Highlighter.Dict

variable {α : Type u} {dict : Dict α} {key other : String} {value : α}

/-- The keys ascend, so no key stands twice. -/
def Ascending (dict : Dict α) : Prop :=
  dict.Pairwise fun left right => left.1 < right.1

instance (dict : Dict α) : Decidable dict.Ascending :=
  inferInstanceAs (Decidable (dict.Pairwise _))

theorem mem_insert {entry : String × α} (member : entry ∈ dict.insert key value) :
    entry = (key, value) ∨ entry ∈ dict := by
  induction dict with
  | nil => exact .inl (List.mem_singleton.mp member)
  | cons first others inductionHypothesis =>
      rw [insert] at member
      split at member
      next => exact List.mem_cons.mp member
      next =>
        split at member
        next => exact (List.mem_cons.mp member).imp_right (List.mem_cons_of_mem _)
        next =>
          rcases List.mem_cons.mp member with rfl | later
          · exact .inr List.mem_cons_self
          · exact (inductionHypothesis later).imp_right (List.mem_cons_of_mem _)

theorem ascending_insert (ascending : dict.Ascending) : (dict.insert key value).Ascending := by
  induction dict with
  | nil => exact List.pairwise_singleton _ _
  | cons first others inductionHypothesis =>
      obtain ⟨before, later⟩ := List.pairwise_cons.mp ascending
      rw [insert]
      split
      next less =>
        refine List.pairwise_cons.mpr ⟨fun entry member => ?_, ascending⟩
        rcases List.mem_cons.mp member with rfl | behind
        · exact less
        · exact String.lt_trans less (before entry behind)
      next notLess =>
        split
        next same =>
          subst same
          exact List.pairwise_cons.mpr ⟨before, later⟩
        next different =>
          refine List.pairwise_cons.mpr ⟨fun entry member => ?_, inductionHypothesis later⟩
          rcases mem_insert member with rfl | old
          · exact Std.lt_of_le_of_ne (Std.not_lt.mp notLess) (Ne.symm different)
          · exact before entry old

@[simp] theorem find?_insert_self : (dict.insert key value).find? key = some value := by
  induction dict with
  | nil => simp [insert, find?]
  | cons first others inductionHypothesis =>
      rw [insert]
      split
      next => simp [find?]
      next =>
        split
        next => simp [find?]
        next different =>
          rw [find?, List.lookup_cons, beq_false_of_ne different]
          exact inductionHypothesis

theorem find?_insert_of_ne (different : other ≠ key) :
    (dict.insert key value).find? other = dict.find? other := by
  induction dict with
  | nil => simp [insert, find?, List.lookup_cons, beq_false_of_ne different]
  | cons first others inductionHypothesis =>
      obtain ⟨held, old⟩ := first
      rw [insert]
      split
      next => rw [find?, List.lookup_cons, beq_false_of_ne different, find?]
      next =>
        split
        next same =>
          subst same
          simp [find?, List.lookup_cons, beq_false_of_ne different]
        next =>
          rw [find?, find?, List.lookup_cons, List.lookup_cons]
          cases other == held
          · exact inductionHypothesis
          · rfl

/-- A value that is put under a key takes the place of the one there before. -/
theorem insert_insert_self (dict : Dict α) (key : String) (value second : α) :
    (dict.insert key value).insert key second = dict.insert key second := by
  induction dict with
  | nil => simp [insert]
  | cons first others inductionHypothesis =>
      rw [insert, insert]
      split
      next => simp [insert]
      next notLess =>
        split
        next => simp [insert]
        next different => rw [insert, if_neg notLess, if_neg different, inductionHypothesis]

/-- Values under different keys can be put in either order. -/
theorem insert_comm (different : key ≠ other) (dict : Dict α) (value second : α) :
    (dict.insert key value).insert other second = (dict.insert other second).insert key value := by
  induction dict with
  | nil => grind [insert]
  | cons first others inductionHypothesis => grind [insert]

/-- One value put under many keys is found under each of them. -/
theorem find?_foldl_insert {ι : Type v} (items : List ι) (keyOf : ι → String) :
    (items.foldl (fun dict item => dict.insert (keyOf item) value) dict).find? key =
      if items.any (keyOf · == key) then some value else dict.find? key := by
  induction items generalizing dict with
  | nil => rfl
  | cons item items inductionHypothesis =>
      rw [List.foldl_cons, inductionHypothesis, List.any_cons]
      by_cases same : keyOf item = key
      · subst same
        simp
      · rw [beq_false_of_ne same, Bool.false_or, find?_insert_of_ne (Ne.symm same)]

theorem mem_keys_iff : key ∈ dict.keys ↔ ∃ value, dict.find? key = some value := by
  rw [keys, List.mem_map, ← Option.isSome_iff_exists, find?, List.lookup_isSome_iff]
  simp only [beq_iff_eq, eq_comm (a := key)]

/-- A key behind all others is not there yet, and its value is put at the end. -/
theorem insert_eq_append (behind : ∀ entry ∈ dict, entry.1 < key) :
    dict.insert key value = dict ++ [(key, value)] := by
  induction dict with
  | nil => rfl
  | cons first others inductionHypothesis =>
      obtain ⟨less, later⟩ := List.forall_mem_cons.mp behind
      have different : key ≠ first.1 := by
        rintro rfl
        exact String.lt_irrefl _ less
      rw [insert, if_neg (String.lt_asymm less), if_neg different, inductionHypothesis later,
        List.cons_append]

theorem contains_eq_false (behind : ∀ entry ∈ dict, entry.1 < key) : dict.contains key = false := by
  rw [contains, find?, Option.isSome_eq_false_iff, Option.isNone_iff_eq_none,
    List.lookup_eq_none_iff]
  intro entry member
  have less := behind entry member
  rw [bne_iff_ne]
  rintro rfl
  exact String.lt_irrefl _ less

end Highlighter.Dict
