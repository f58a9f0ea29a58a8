import Highlighter.Proofs.Surface.Ascending
import Highlighter.Surface.Tagging
import Mathlib.Data.List.Basic

/-!
# What covers a character

`Surface.marksAt` lists the tags that cover the character at a position, each with the stamp of
the range that does, and `Surface.holdersAt` lists them with the ranges themselves. Both look at
every range of every tag. On separated ranges the query `Surface.tagsAt`, which looks at one range
of each tag, lists the same tags (`tagsAt_eq_map_marksAt`).
-/

namespace Highlighter

open TagRange

namespace Tag

/-- The ranges of the tag that pass a test, under the name of the tag. -/
def holders (tag : Tag) (test : TagRange → Bool) : List (String × TagRange) :=
  (tag.ranges.filter test).map fun range => (tag.name, range)

/-- The stamps of the ranges of the tag that pass a test, under the name of the tag. -/
def marks (tag : Tag) (test : TagRange → Bool) : List (String × Nat) :=
  (tag.ranges.filter test).map fun range => (tag.name, range.stamp)

/-- Cutting takes the marks of a tag off the part that is cut out, and off nothing else. -/
theorem marks_cut {tag : Tag} {start stop : Position} (separated : Separated tag.ranges)
    (ordered : start ≤ stop) (position : Position) :
    (tag.cut start stop).marks (·.holds position) =
      if start ≤ position ∧ position < stop then [] else tag.marks (·.holds position) := by
  have stamps := congrArg (List.map fun stamp => (tag.name, stamp))
    (stamps_cutRanges separated ordered position)
  rw [List.map_map, apply_ite (List.map _), List.map_nil, List.map_map] at stamps
  exact stamps

end Tag

namespace Surface

/-- The stamps of all ranges that pass a test, under the names of their tags, the oldest tag
first. -/
def marksWhere (surface : Surface) (test : TagRange → Bool) : List (String × Nat) :=
  surface.tags.flatMap (·.marks test)

/-- The tags that cover the character at a position, the oldest first, each with the stamp of
its range. -/
def marksAt (surface : Surface) (position : Position) : List (String × Nat) :=
  surface.marksWhere (·.holds position)

/-- The tags that cover the character at a position, the oldest first, each with its range. -/
def holdersAt (surface : Surface) (position : Position) : List (String × TagRange) :=
  surface.tags.flatMap (·.holders (·.holds position))

theorem marksAt_eq_map_holdersAt (surface : Surface) (position : Position) :
    surface.marksAt position =
      (surface.holdersAt position).map fun holder => (holder.1, holder.2.stamp) := by
  simp [marksAt, marksWhere, holdersAt, Tag.marks, Tag.holders, List.map_flatMap,
    Function.comp_def]

/-- Tests that agree on the ranges of a surface find the same marks. -/
theorem marksWhere_congr {surface : Surface} {test other : TagRange → Bool}
    (agree : ∀ tag ∈ surface.tags, ∀ range ∈ tag.ranges, test range = other range) :
    surface.marksWhere test = surface.marksWhere other := by
  apply List.flatMap_congr
  intro tag member
  rw [Tag.marks, Tag.marks, List.filter_congr (agree tag member)]

/-- The query for the tags at a position finds exactly the tags whose ranges hold it. -/
theorem tagsAt_eq_map_marksAt {surface : Surface}
    (separated : ∀ tag ∈ surface.tags, Separated tag.ranges) (position : Position) :
    surface.tagsAt position = (surface.marksAt position).map (·.1) := by
  rw [tagsAt, marksAt, marksWhere]
  generalize surface.tags = tags at separated
  induction tags with
  | nil => rfl
  | cons tag others inductionHypothesis =>
      have tagSeparated := separated tag List.mem_cons_self
      have once := Tag.filter_holds_length_le_one tagSeparated position
      have found : tag.covers position = true ↔
          0 < (tag.ranges.filter (·.holds position)).length := by
        rw [Tag.covers_eq_any_of_ascending tagSeparated.ascending, List.any_eq_true,
          List.length_pos_iff_exists_mem]
        simp only [List.mem_filter]
      rw [List.flatMap_cons, List.map_append, List.filter_cons,
        ← inductionHypothesis fun other member => separated other (List.mem_cons_of_mem _ member)]
      by_cases covered : tag.covers position = true
      · have exactlyOne := Nat.le_antisymm once (found.mp covered)
        obtain ⟨range, single⟩ := List.length_eq_one_iff.mp exactlyOne
        simp [covered, Tag.marks, single]
      · have nothing : tag.ranges.filter (·.holds position) = [] :=
          List.eq_nil_of_length_eq_zero (Nat.eq_zero_of_not_pos (covered ∘ found.mpr))
        simp [covered, Tag.marks, nothing]

/-! ### Changing one tag of a list -/

variable {name : String} {change : Tag → Tag} {tags : List Tag}

/-- A tag of a list in which one was changed is an old one or the changed one. -/
theorem mem_updateTag {tag : Tag} (member : tag ∈ updateTag name change tags) :
    tag ∈ tags ∨
      ∃ old, (old ∈ tags ∨ old = { name }) ∧ old.name = name ∧ tag = change old := by
  induction tags with
  | nil =>
      rw [updateTag, List.mem_singleton] at member
      exact .inr ⟨{ name }, .inr rfl, rfl, member⟩
  | cons first others inductionHypothesis =>
      rw [updateTag] at member
      split at member
      next named =>
        rcases List.mem_cons.mp member with rfl | later
        · exact .inr ⟨first, .inl List.mem_cons_self, named, rfl⟩
        · exact .inl (List.mem_cons_of_mem _ later)
      next =>
        rcases List.mem_cons.mp member with rfl | later
        · exact .inl List.mem_cons_self
        · rcases inductionHypothesis later with old | ⟨old, origin, named, same⟩
          · exact .inl (List.mem_cons_of_mem _ old)
          · exact .inr ⟨old, origin.imp_left (List.mem_cons_of_mem _), named, same⟩

/-- What a change keeps of every tag, it keeps of all of them, and a tag that is missing adds to it
at the end. -/
theorem map_updateTag {α : Type} {list : Tag → α} (keeps : ∀ tag, list (change tag) = list tag) :
    (updateTag name change tags).map list =
      if name ∈ tags.map (·.name) then tags.map list else tags.map list ++ [list { name }] := by
  induction tags with
  | nil => simp [updateTag, keeps]
  | cons first others inductionHypothesis =>
      rw [updateTag]
      split
      next named => simp [keeps, named]
      next other =>
        simp only [List.map_cons, inductionHypothesis, List.mem_cons, Ne.symm other, false_or]
        split <;> rfl

/-- A change of a tag that keeps its name adds the name at the end if it is new. -/
theorem map_name_updateTag (keeps : ∀ tag : Tag, (change tag).name = tag.name) :
    (updateTag name change tags).map (·.name) =
      if name ∈ tags.map (·.name) then tags.map (·.name) else tags.map (·.name) ++ [name] :=
  map_updateTag keeps

/-- Tags in front that do not have the name stay as they are. -/
theorem updateTag_append {front : List Tag} (absent : name ∉ front.map (·.name))
    (back : List Tag) :
    updateTag name change (front ++ back) = front ++ updateTag name change back := by
  induction front with
  | nil => rfl
  | cons first others inductionHypothesis =>
      rw [List.map_cons, List.mem_cons, not_or] at absent
      rw [List.cons_append, updateTag, if_neg (Ne.symm absent.1), inductionHypothesis absent.2,
        List.cons_append]

/-- A tag that is missing is made at the end. -/
theorem updateTag_of_absent (absent : name ∉ tags.map (·.name)) :
    updateTag name change tags = tags ++ [change { name }] := by
  simpa [updateTag] using @updateTag_append name change tags absent []

/-- Among tags with distinct names, the one with the name is changed. -/
theorem updateTag_map {names : List String} {list : String → Tag}
    (named : ∀ name, (list name).name = name) (distinct : names.Nodup) (present : name ∈ names) :
    updateTag name change (names.map list) =
      names.map fun other => if other = name then change (list other) else list other := by
  induction names with
  | nil => exact absurd present List.not_mem_nil
  | cons first others inductionHypothesis =>
      obtain ⟨new, later⟩ := List.nodup_cons.mp distinct
      rw [List.map_cons, List.map_cons, updateTag, named]
      split
      next here =>
        congr 1
        apply List.map_congr_left
        intro other member
        rw [if_neg (here ▸ ne_of_mem_of_not_mem member new)]
      next elsewhere =>
        rw [inductionHypothesis later ((List.mem_cons.mp present).resolve_left (Ne.symm elsewhere))]

/-- The look-up finds a tag that was changed, made first if it was missing, and the other tags as
they were. -/
theorem find?_updateTag (keeps : ∀ tag : Tag, (change tag).name = tag.name) (other : String) :
    (updateTag name change tags).find? (·.name == other) =
      if other = name then some (change ((tags.find? (·.name == name)).getD { name }))
      else tags.find? (·.name == other) := by
  induction tags with
  | nil => grind [updateTag]
  | cons first others inductionHypothesis =>
      rw [updateTag]
      split
      next named => grind
      next elsewhere => grind

/-- A cut that one name is meant for leaves every tag its name. -/
theorem name_ite_cut (name : String) (start stop : Position) (tag : Tag) :
    (if tag.name = name then tag.cut start stop else tag).name = tag.name := by
  split <;> rfl

/-- A removal leaves the tags their names. -/
theorem map_name_tagRemove (surface : Surface) (name : String) (start stop : Position) :
    (surface.tagRemove name start stop).tags.map (·.name) = surface.tags.map (·.name) := by
  rw [tagRemove, List.map_map]
  exact List.map_congr_left fun tag _ => name_ite_cut name _ _ tag

/-- A change that does not show in a listing leaves the listing as it is. -/
theorem flatMap_updateTag {α : Type} {list : Tag → List α}
    (same : ∀ tag ∈ tags, tag.name = name → list (change tag) = list tag)
    (fresh : list (change { name }) = []) :
    (updateTag name change tags).flatMap list = tags.flatMap list := by
  induction tags with
  | nil => simp [updateTag, fresh]
  | cons first others inductionHypothesis =>
      rw [updateTag]
      split
      next named =>
        rw [List.flatMap_cons, List.flatMap_cons, same first List.mem_cons_self named]
      next =>
        rw [List.flatMap_cons, List.flatMap_cons, inductionHypothesis fun tag member =>
          same tag (List.mem_cons_of_mem _ member)]

/-- Where a listing is empty, it shows after a change what the changed tag lists. -/
theorem flatMap_updateTag_of_eq_nil {α : Type} {list : Tag → List α} {listed : List α}
    (empty : tags.flatMap list = [])
    (made : ∀ tag, tag ∈ tags ∨ tag = { name } → tag.name = name → list (change tag) = listed) :
    (updateTag name change tags).flatMap list = listed := by
  induction tags with
  | nil => simp [updateTag, made]
  | cons first others inductionHypothesis =>
      rw [List.flatMap_cons, List.append_eq_nil_iff] at empty
      rw [updateTag]
      split
      next named =>
        rw [List.flatMap_cons, empty.2, made first (.inl List.mem_cons_self) named,
          List.append_nil]
      next =>
        rw [List.flatMap_cons, empty.1, List.nil_append]
        exact inductionHypothesis empty.2 fun tag origin =>
          made tag (origin.imp_left (List.mem_cons_of_mem _))

end Surface

end Highlighter
