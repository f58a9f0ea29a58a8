import Highlighter.Proofs.Surface.Free
import Highlighter.Session.Basic

/-!
# Clearing a surface

A pass takes the part that it tags anew out of every tag first, or drops all tags. Taking a part
out of the tags one by one is cutting it out of all of them, so the part is free afterwards and
nothing changes outside of it.
-/

namespace Highlighter.Session

open TagRange Surface

variable {surface : Surface} {start stop : Position}

/-- Tags that are removed one after the other from a part are cut, and nothing else happens. -/
theorem foldl_tagRemove (surface : Surface) {names : List String} (distinct : names.Nodup)
    (start stop : Position) :
    ∃ mutations, names.foldl (fun surface name => surface.tagRemove name start stop) surface =
      { surface with
        mutations
        tags := surface.tags.map fun tag =>
          if tag.name ∈ names then tag.cut (surface.clamp start) (surface.clamp stop)
          else tag } := by
  induction names generalizing surface with
  | nil => exact ⟨surface.mutations, by simp⟩
  | cons name others inductionHypothesis =>
      obtain ⟨new, later⟩ := List.nodup_cons.mp distinct
      obtain ⟨mutations, same⟩ := inductionHypothesis (surface.tagRemove name start stop) later
      have samePlace (place : Position) :
          (surface.tagRemove name start stop).clamp place = surface.clamp place := rfl
      have removed : (surface.tagRemove name start stop).tags = surface.tags.map fun tag =>
          if tag.name = name then tag.cut (surface.clamp start) (surface.clamp stop)
          else tag := rfl
      refine ⟨mutations, ?_⟩
      rw [List.foldl_cons, same, samePlace, samePlace, removed, List.map_map]
      congr 1
      apply List.map_congr_left
      intro tag member
      -- The names are distinct, so a tag is cut by one of the removals at most.
      by_cases named : tag.name = name
      · simp [named, Tag.cut, new]
      · simp [named]

/-- Clearing a part cuts it out of every tag, and nothing else happens. -/
theorem clearRange_eq (valid : surface.Valid) (startInside : surface.Inside start)
    (stopInside : surface.Inside stop) :
    ∃ mutations, clearRange surface start stop =
      { surface with mutations, tags := surface.tags.map (·.cut start stop) } := by
  obtain ⟨mutations, same⟩ := foldl_tagRemove surface valid.namesDistinct start stop
  refine ⟨mutations, same.trans ?_⟩
  rw [clamp_of_inside startInside, clamp_of_inside stopInside]
  congr 1
  apply List.map_congr_left
  intro tag member
  rw [if_pos (List.mem_map_of_mem member)]

/-- Clearing a part changes no line. -/
theorem lines_clearRange (surface : Surface) (start stop : Position) :
    (clearRange surface start stop).lines = surface.lines := by
  rw [clearRange]
  generalize surface.tagNames = names
  induction names generalizing surface with
  | nil => rfl
  | cons name others inductionHypothesis =>
      exact inductionHypothesis (surface.tagRemove name start stop)

/-- A part has been taken out of all tags, and nothing else has happened. -/
structure Cleared (before after : Surface) (start stop : Position) : Prop where
  valid : after.Valid
  lines : after.lines = before.lines
  cursor : after.cursor = before.cursor
  nextStamp : after.nextStamp = before.nextStamp
  free : after.Free start stop
  marks : ∀ position, after.marksAt position =
    if start ≤ position ∧ position < stop then [] else before.marksAt position

/-- Clearing takes a part out of all tags. -/
theorem cleared_clearRange (valid : surface.Valid) (startInside : surface.Inside start)
    (stopInside : surface.Inside stop) (ordered : start ≤ stop) :
    Cleared surface (clearRange surface start stop) start stop := by
  obtain ⟨mutations, same⟩ := clearRange_eq valid startInside stopInside
  rw [same]
  refine {
    valid := ?_
    lines := rfl
    cursor := rfl
    nextStamp := rfl
    free := ?_
    marks := ?_ }
  · refine valid.retag rfl rfl ?_ (Nat.le_refl _) "" ?_
    · simpa [Function.comp_def, Tag.cut] using valid.namesDistinct
    · intro cut member
      obtain ⟨tag, old, rfl⟩ := List.mem_map.mp member
      exact (valid.soundRanges old).cutRanges startInside stopInside ordered
  · intro cut member piece held
    obtain ⟨tag, old, rfl⟩ := List.mem_map.mp member
    rw [Tag.cut, Tag.cutRanges_eq_flatMap (valid.separated tag old) ordered] at held
    obtain ⟨range, whole, left⟩ := List.mem_flatMap.mp held
    exact (of_mem_without ((valid.separated tag old).nonempty range whole) left).2.2.2.2.2.2
  · intro position
    rw [marksAt, marksWhere, List.flatMap_map]
    split
    next inside =>
      rw [List.flatMap_eq_nil_iff]
      intro tag member
      rw [Tag.marks_cut (valid.separated tag member) ordered, if_pos inside]
    next outside =>
      apply List.flatMap_congr
      intro tag member
      rw [Tag.marks_cut (valid.separated tag member) ordered, if_neg outside]

/-- Dropping every tag leaves none, and nothing else happens. -/
theorem dropTags_eq (surface : Surface) :
    ∃ mutations, dropTags surface = { surface with mutations, tags := [] } := by
  have dropped : ∀ (names : List String) (surface : Surface),
      ∃ mutations, names.foldl Surface.tagDelete surface =
        { surface with
          mutations, tags := surface.tags.filter fun tag => !names.contains tag.name } := by
    intro names
    induction names with
    | nil => exact fun surface => ⟨surface.mutations, by simp⟩
    | cons name others inductionHypothesis =>
        intro surface
        obtain ⟨mutations, same⟩ := inductionHypothesis (surface.tagDelete name)
        have kept : (surface.tagDelete name).tags = surface.tags.filter (·.name != name) := rfl
        refine ⟨mutations, ?_⟩
        rw [List.foldl_cons, same, kept, List.filter_filter]
        congr 1
        apply List.filter_congr
        intro tag _
        by_cases named : tag.name = name <;> simp [named]
  obtain ⟨mutations, same⟩ := dropped surface.tagNames surface
  refine ⟨mutations, same.trans ?_⟩
  congr 1
  rw [List.filter_eq_nil_iff]
  intro tag member
  simpa [tagNames] using ⟨tag, member, rfl⟩

/-- A text on whose surface nothing is tagged. -/
structure Untagged (before after : Surface) : Prop where
  valid : after.Valid
  lines : after.lines = before.lines
  cursor : after.cursor = before.cursor
  free : ∀ start stop, after.Free start stop
  holders : ∀ position, after.holdersAt position = []

/-- Dropping every tag leaves nothing tagged. -/
theorem untagged_dropTags (valid : surface.Valid) : Untagged surface (dropTags surface) := by
  obtain ⟨mutations, same⟩ := dropTags_eq surface
  rw [same]
  exact {
    valid := .of_no_ranges ⟨valid.nonempty, valid.newlineFree⟩ valid.cursorInside List.nodup_nil
      (fun _ member => absurd member List.not_mem_nil)
    lines := rfl
    cursor := rfl
    free := fun _ _ _ member => absurd member List.not_mem_nil
    holders := fun _ => rfl }

/-- Directives do not tag anything. -/
theorem Untagged.restyled {middle after : Surface} (untagged : Untagged surface middle)
    (styled : Restyled middle after) : Untagged surface after where
  valid := styled.valid
  lines := styled.lines.trans untagged.lines
  cursor := styled.cursor.trans untagged.cursor
  free start stop := styled.free (untagged.free start stop)
  holders position := (styled.holders position).trans (untagged.holders position)

/-- Giving tags their directives changes no line. -/
theorem lines_foldl_tagConfigure (surface : Surface)
    (directives : List (String × StyleDirective)) :
    (directives.foldl (fun surface (kind, directive) => surface.tagConfigure kind directive)
      surface).lines = surface.lines := by
  induction directives generalizing surface with
  | nil => rfl
  | cons entry others inductionHypothesis =>
      exact inductionHypothesis (surface.tagConfigure entry.1 entry.2)

/-- Giving tags their directives, one after the other, does nothing else. -/
theorem restyled_foldl_tagConfigure (valid : surface.Valid)
    (directives : List (String × StyleDirective)) :
    Restyled surface
      (directives.foldl (fun surface (kind, directive) => surface.tagConfigure kind directive)
        surface) := by
  induction directives generalizing surface with
  | nil => exact .refl valid
  | cons entry others inductionHypothesis =>
      have first := valid.restyled_tagConfigure entry.1 entry.2
      exact first.trans (inductionHypothesis first.valid)

end Highlighter.Session
