import Highlighter.Proofs.Surface.Validity

/-!
# Tagging a part that no range reaches into

A part of the text is free when no range reaches into it. A tag that is added to a free part
covers its characters alone (`Valid.holdersAt_tagAdd`), and what lies behind the new range stays
free (`Valid.free_tagAdd`). So parts that follow each other can be tagged one by one without
touching what is there already.
-/

namespace Highlighter

open TagRange

/-- The characters of a range that is added to a free place are held by it alone. Elsewhere the
tag holds what it held. -/
theorem Tag.holders_add {tag : Tag} {range : TagRange} (separated : Separated tag.ranges)
    (free : ∀ other ∈ tag.ranges, other.stop ≤ range.start ∨ range.stop ≤ other.start)
    (position : Position) :
    (tag.add range).holders (·.holds position) =
      if range.holds position then [(tag.name, range)] else tag.holders (·.holds position) := by
  rw [holders, holders, add, filter_holds_addRange separated.ascending,
    cutRanges_of_untouched separated.ascending free]
  split <;> rfl

namespace Surface

/-- No range reaches into the part between two positions. -/
def Free (surface : Surface) (start stop : Position) : Prop :=
  ∀ tag ∈ surface.tags, ∀ range ∈ tag.ranges, range.stop ≤ start ∨ stop ≤ range.start

variable {surface : Surface} {start stop : Position}

/-- No tag covers a character of a free part. -/
theorem Free.holdersAt_eq_nil (free : surface.Free start stop) {position : Position}
    (lower : start ≤ position) (upper : position < stop) : surface.holdersAt position = [] := by
  rw [holdersAt, List.flatMap_eq_nil_iff]
  intro tag member
  rw [Tag.holders, List.map_eq_nil_iff, List.filter_eq_nil_iff]
  intro range held
  have outside := free tag member range held
  grind [holds]

/-- A part of a free part is free. -/
theorem Free.mono (free : surface.Free start stop) {first last : Position}
    (lower : start ≤ first) (upper : last ≤ stop) : surface.Free first last := by
  intro tag member range held
  have outside := free tag member range held
  grind

/-! ### Giving directives -/

/-- Tags have been given directives, and nothing else has happened. -/
structure Restyled (before after : Surface) : Prop where
  valid : after.Valid
  lines : after.lines = before.lines
  cursor : after.cursor = before.cursor
  nextStamp : after.nextStamp = before.nextStamp
  holders : ∀ position, after.holdersAt position = before.holdersAt position
  free : ∀ {start stop}, before.Free start stop → after.Free start stop

theorem Restyled.refl (valid : surface.Valid) : Restyled surface surface :=
  ⟨valid, rfl, rfl, rfl, fun _ => rfl, id⟩

theorem Restyled.trans {middle last : Surface} (first : Restyled surface middle)
    (second : Restyled middle last) : Restyled surface last where
  valid := second.valid
  lines := second.lines.trans first.lines
  cursor := second.cursor.trans first.cursor
  nextStamp := second.nextStamp.trans first.nextStamp
  holders position := (second.holders position).trans (first.holders position)
  free := second.free ∘ first.free

/-- Giving a tag its directive covers and uncovers nothing. -/
theorem Valid.restyled_tagConfigure (valid : surface.Valid) (name : String)
    (directive : StyleDirective) : Restyled surface (surface.tagConfigure name directive) where
  valid := valid.tagConfigure name directive
  lines := rfl
  cursor := rfl
  nextStamp := rfl
  holders _ := flatMap_updateTag (fun _ _ _ => rfl) rfl
  free := by
    intro start stop free tag member range held
    rcases mem_updateTag member with old | ⟨old, origin | rfl, -, rfl⟩
    · exact free tag old range held
    · exact free old origin range held
    · exact absurd held List.not_mem_nil

/-! ### Adding a tag -/

/-- A tag that is added between two places is changed by the addition of one range. -/
theorem tags_tagAdd (name : String) (startInside : surface.Inside start)
    (stopInside : surface.Inside stop) (ordered : start < stop) :
    (surface.tagAdd name start stop).tags =
      updateTag name (·.add ⟨start, stop, surface.nextStamp⟩) surface.tags := by
  rw [tagAdd, clamp_of_inside startInside, clamp_of_inside stopInside]
  simp only [ordered, if_true]

/-- A tag that is added between two places takes a stamp, and nothing else happens. -/
theorem tagAdd_eq (name : String) (startInside : surface.Inside start)
    (stopInside : surface.Inside stop) (ordered : start < stop) :
    surface.tagAdd name start stop =
      { surface with
        mutations := surface.mutations + 1
        nextStamp := surface.nextStamp + 1
        tags := updateTag name (·.add ⟨start, stop, surface.nextStamp⟩) surface.tags } := by
  rw [← tags_tagAdd name startInside stopInside ordered]
  rfl

/-- A tag that is added to a free part covers its characters alone. Nothing changes at the other
characters. -/
theorem Valid.holdersAt_tagAdd (valid : surface.Valid) (name : String)
    (startInside : surface.Inside start) (stopInside : surface.Inside stop)
    (ordered : start < stop) (free : surface.Free start stop) (position : Position) :
    (surface.tagAdd name start stop).holdersAt position =
      if start ≤ position ∧ position < stop then
        [(name, ⟨start, stop, surface.nextStamp⟩)]
      else surface.holdersAt position := by
  have added : ∀ tag, tag ∈ surface.tags ∨ tag = { name } → tag.name = name →
      (tag.add ⟨start, stop, surface.nextStamp⟩).holders (·.holds position) =
        if start ≤ position ∧ position < stop then
          [(name, ⟨start, stop, surface.nextStamp⟩)]
        else tag.holders (·.holds position) := by
    intro tag origin named
    have sound : Separated tag.ranges ∧
        ∀ other ∈ tag.ranges, other.stop ≤ start ∨ stop ≤ other.start := by
      rcases origin with old | rfl
      · exact ⟨valid.separated tag old, free tag old⟩
      · exact ⟨.nil, fun _ held => absurd held List.not_mem_nil⟩
    rw [Tag.holders_add sound.1 sound.2, named]
    simp only [holds_iff]
  rw [holdersAt, tags_tagAdd name startInside stopInside ordered]
  split
  next inside =>
    apply flatMap_updateTag_of_eq_nil (free.holdersAt_eq_nil inside.1 inside.2)
    intro tag origin named
    rw [added tag origin named, if_pos inside]
  next outside =>
    apply flatMap_updateTag
    · intro tag member named
      rw [added tag (.inl member) named, if_neg outside]
    · rw [added { name } (.inr rfl) rfl, if_neg outside]
      rfl

/-- Behind the range that was added, a free part stays free. -/
theorem Valid.free_tagAdd (valid : surface.Valid) (name : String)
    (startInside : surface.Inside start) (stopInside : surface.Inside stop)
    (ordered : start < stop) {last : Position} (bounded : stop ≤ last)
    (free : surface.Free start last) :
    (surface.tagAdd name start stop).Free stop last := by
  intro tag member range held
  rw [tags_tagAdd name startInside stopInside ordered] at member
  have behind := free.mono (Std.le_of_lt ordered) (Std.le_refl _)
  rcases mem_updateTag member with old | ⟨old, origin, -, rfl⟩
  · exact behind tag old range held
  · have free_start := free.mono (Std.le_refl _) bounded
    rcases origin with origin | rfl
    · have ascending := (valid.separated old origin).ascending
      rcases (Tag.mem_addRange_of_ascending ascending).mp held with rfl | piece
      · exact .inl (Std.le_refl _)
      · rw [Tag.cutRanges_of_untouched ascending (free_start old origin)] at piece
        exact behind old origin range piece
    · obtain rfl := List.mem_singleton.mp held
      exact .inl (Std.le_refl _)

end Surface

end Highlighter
