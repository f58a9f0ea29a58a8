import Highlighter.Proofs.Surface.Adding
import Highlighter.Proofs.Surface.Coverage
import Highlighter.Proofs.Surface.Moving
import Mathlib.Data.List.Nodup

/-!
# The invariant of a surface

`Surface.Valid` says what every operation may rely on: the lines are lines, the cursor and the
ends of all ranges are places of the text, the ranges of a tag are separated, and stamps are used
once for each addition. Each operation keeps it; removing a tag does so from ranges that are not
reversed in the text. Runs of operations are the subject of a module of their own.
-/

namespace Highlighter.Surface

open TagRange

/-- Some range of the tag with a name carries a stamp. -/
def Stamped (surface : Surface) (name : String) (stamp : Nat) : Prop :=
  ∃ tag ∈ surface.tags, tag.name = name ∧ ∃ range ∈ tag.ranges, range.stamp = stamp

/-- The invariant of a surface. -/
structure Valid (surface : Surface) : Prop extends Lined surface where
  cursorInside : surface.Inside surface.cursor
  namesDistinct : (surface.tags.map (·.name)).Nodup
  separated : ∀ tag ∈ surface.tags, Separated tag.ranges
  rangesInside : ∀ tag ∈ surface.tags, ∀ range ∈ tag.ranges,
    surface.Inside range.start ∧ surface.Inside range.stop
  stampUsed : ∀ {name stamp}, surface.Stamped name stamp → stamp < surface.nextStamp
  /-- Ranges with one stamp belong to one tag. -/
  stampOwned : ∀ {name other stamp}, surface.Stamped name stamp → surface.Stamped other stamp →
    name = other

variable {surface : Surface}

/-! ### New surfaces -/

/-- The lines of a text are lines. -/
theorem lined_of_lines_eq {text : Text} (same : surface.lines = text.lines) : surface.Lined where
  nonempty := same ▸ Text.lines_ne_nil text
  newlineFree _ member := Text.newline_not_mem_of_mem_lines (same ▸ member)

/-- The first place of a text is in it. -/
theorem inside_start (nonempty : surface.lines ≠ []) : surface.Inside .start := by
  obtain ⟨first, others, shape⟩ := List.exists_cons_of_ne_nil nonempty
  exact inside_iff.mpr ⟨0, first, by rw [shape]; rfl, rfl, Nat.zero_le _⟩

/-- A surface without ranges satisfies the invariant if its text and its names do. -/
theorem Valid.of_no_ranges (lined : surface.Lined) (cursorInside : surface.Inside surface.cursor)
    (namesDistinct : (surface.tags.map (·.name)).Nodup)
    (noRanges : ∀ tag ∈ surface.tags, tag.ranges = []) : surface.Valid where
  toLined := lined
  cursorInside := cursorInside
  namesDistinct := namesDistinct
  separated tag member := noRanges tag member ▸ Separated.nil
  rangesInside tag member range held := by simp [noRanges tag member] at held
  stampUsed := by
    rintro name stamp ⟨tag, member, -, range, held, -⟩
    simp [noRanges tag member] at held
  stampOwned := by
    rintro name other stamp ⟨tag, member, -, range, held, -⟩
    simp [noRanges tag member] at held

/-- The surface that holds a text satisfies the invariant. -/
theorem Valid.ofText (text : Text) : (Surface.ofText text).Valid :=
  have lined : (Surface.ofText text).Lined := lined_of_lines_eq rfl
  .of_no_ranges lined (inside_start lined.nonempty) List.nodup_nil (by simp [Surface.ofText])

/-! ### Edits -/

/-- The surface with another text, to which nothing else is adapted yet. -/
def withText (surface : Surface) (text : Text) : Surface :=
  { surface with lines := text.lines }

theorem lined_withText (surface : Surface) (text : Text) : (surface.withText text).Lined :=
  lined_of_lines_eq rfl

@[simp] theorem content_withText (surface : Surface) (text : Text) :
    (surface.withText text).content = text :=
  Text.ofLines_lines text

/-- What an edit does to a tag. -/
theorem tags_replaceText (lined : surface.Lined)
    (inside : ∀ tag ∈ surface.tags, ∀ range ∈ tag.ranges,
      surface.Inside range.start ∧ surface.Inside range.stop)
    {text : Text} {moveStart moveStop : Nat → Nat}
    (moves : Moves surface (surface.withText text) moveStart moveStop) (cursor : Nat) :
    (surface.replaceText text moveStart moveStop cursor).tags =
      surface.tags.map fun tag =>
        { tag with
          ranges := tag.ranges.filterMap
            (movedRange surface (surface.withText text) moveStart moveStop) } := by
  apply List.map_congr_left
  intro tag member
  rw [← moveRanges_eq lined (lined_withText surface text) moves (inside tag member)]
  rfl

/-- An edit keeps the invariant if it moves the ends of ranges in order. -/
theorem Valid.replaceText (valid : surface.Valid) {text : Text} {moveStart moveStop : Nat → Nat}
    (moves : Moves surface (surface.withText text) moveStart moveStop) (cursor : Nat) :
    (surface.replaceText text moveStart moveStop cursor).Valid := by
  have lined := lined_withText surface text
  have tags := tags_replaceText valid.toLined valid.rangesInside moves cursor
  have inherited : ∀ {name stamp},
      (surface.replaceText text moveStart moveStop cursor).Stamped name stamp →
        surface.Stamped name stamp := by
    rintro name stamp ⟨edited, member, named, moved, held, stamped⟩
    rw [tags] at member
    obtain ⟨tag, old, rfl⟩ := List.mem_map.mp member
    obtain ⟨range, oldHeld, same⟩ := List.mem_filterMap.mp held
    obtain ⟨-, rfl⟩ := movedRange_eq_some_iff.mp same
    exact ⟨tag, old, named, range, oldHeld, stamped⟩
  refine {
    nonempty := lined.nonempty
    newlineFree := lined.newlineFree
    cursorInside := inside_positionOf lined.nonempty cursor
    namesDistinct := ?_
    separated := ?_
    rangesInside := ?_
    stampUsed := fun stamped => valid.stampUsed (inherited stamped)
    stampOwned := fun left right => valid.stampOwned (inherited left) (inherited right) }
  · rw [tags, List.map_map]
    exact valid.namesDistinct
  · intro edited member
    rw [tags] at member
    obtain ⟨tag, old, rfl⟩ := List.mem_map.mp member
    exact separated_filterMap_movedRange valid.toLined lined moves (valid.separated tag old)
      (valid.rangesInside tag old)
  · intro edited member moved held
    rw [tags] at member
    obtain ⟨tag, old, rfl⟩ := List.mem_map.mp member
    obtain ⟨range, oldHeld, same⟩ := List.mem_filterMap.mp held
    obtain ⟨-, rfl⟩ := movedRange_eq_some_iff.mp same
    exact ⟨inside_positionOf lined.nonempty _, inside_positionOf lined.nonempty _⟩

/-- An insertion puts a text in and spreads the ranges. -/
theorem insert_eq (surface : Surface) (position : Position) (text : Text) :
    surface.insert position text =
      surface.replaceText
        (surface.content.take (surface.offsetOf position) ++ text
          ++ surface.content.drop (surface.offsetOf position))
        (spreadStart (surface.offsetOf position) text.length)
        (spreadStop (surface.offsetOf position) text.length)
        (surface.offsetOf position + text.length) :=
  rfl

/-- An insertion moves the ends of ranges in order. -/
theorem insert_moves (surface : Surface) (place : Nat) (text : Text) :
    Moves surface
      (surface.withText (surface.content.take place ++ text ++ surface.content.drop place))
      (spreadStart place text.length) (spreadStop place text.length) where
  apart ordered := by
    rw [spreadStart, spreadStop]
    split <;> split <;> omega
  bounded within := by
    simp only [content_withText, List.length_append, List.length_take, List.length_drop,
      spreadStop]
    split <;> omega

/-- Inserting a text keeps the invariant. -/
theorem Valid.insert (valid : surface.Valid) (position : Position) (text : Text) :
    (surface.insert position text).Valid :=
  valid.replaceText (insert_moves surface (surface.offsetOf position) text) _

/-- A deletion between places in the right order takes a text out and collapses the ranges. -/
theorem delete_of_lt {start stop : Position}
    (ordered : surface.offsetOf start < surface.offsetOf stop) :
    surface.delete start stop =
      surface.replaceText
        (surface.content.take (surface.offsetOf start)
          ++ surface.content.drop (surface.offsetOf stop))
        (collapse (surface.offsetOf start) (surface.offsetOf stop))
        (collapse (surface.offsetOf start) (surface.offsetOf stop)) (surface.offsetOf start) :=
  if_pos ordered

/-- A deletion between places in the wrong order, or at one place, changes nothing. -/
theorem delete_of_le {start stop : Position}
    (reversed : surface.offsetOf stop ≤ surface.offsetOf start) :
    surface.delete start stop = surface :=
  if_neg (Nat.not_lt.mpr reversed)

/-- A deletion moves the ends of ranges in order. -/
theorem delete_moves (surface : Surface) (first : Nat) {last : Nat}
    (bounded : last ≤ surface.content.length) :
    Moves surface (surface.withText (surface.content.take first ++ surface.content.drop last))
      (collapse first last) (collapse first last) where
  apart ends := by
    rw [collapse, collapse]
    split <;> split <;> omega
  bounded within := by
    simp only [content_withText, List.length_append, List.length_take, List.length_drop, collapse]
    split <;> omega

/-- Deleting a text keeps the invariant. -/
theorem Valid.delete (valid : surface.Valid) (start stop : Position) :
    (surface.delete start stop).Valid := by
  by_cases ordered : surface.offsetOf start < surface.offsetOf stop
  · rw [delete_of_lt ordered]
    exact valid.replaceText
      (delete_moves surface _ (offsetOf_le_length valid.nonempty stop)) _
  · rwa [delete_of_le (Nat.not_lt.mp ordered)]

/-- Replacing the whole text keeps the invariant. -/
theorem Valid.setContent (valid : surface.Valid) (text : Text) :
    (surface.setContent text).Valid := by
  have lined : (surface.setContent text).Lined := lined_of_lines_eq rfl
  apply Valid.of_no_ranges lined (inside_start lined.nonempty)
  · simpa [Surface.setContent, Function.comp_def] using valid.namesDistinct
  · simp [Surface.setContent]

/-- Moving the cursor keeps the invariant. -/
theorem Valid.setCursor (valid : surface.Valid) (position : Position) :
    (surface.setCursor position).Valid :=
  { valid with cursorInside := inside_clamp valid.nonempty position }

/-! ### Tag operations -/

/-- Ranges that a tag may have after an operation: separated places of the text, with stamps that
ranges of the tag carried before or that are fresh. -/
structure SoundRanges (surface : Surface) (name : String) (fresh : Nat → Prop)
    (ranges : List TagRange) : Prop where
  separated : Separated ranges
  inside : ∀ range ∈ ranges, surface.Inside range.start ∧ surface.Inside range.stop
  stamped : ∀ range ∈ ranges, surface.Stamped name range.stamp ∨ fresh range.stamp

theorem SoundRanges.nil {name : String} {fresh : Nat → Prop} :
    surface.SoundRanges name fresh [] :=
  ⟨Separated.nil, by simp, by simp⟩

/-- The ranges of a tag are sound before anything is done to them. -/
theorem Valid.soundRanges (valid : surface.Valid) {tag : Tag} (member : tag ∈ surface.tags)
    {fresh : Nat → Prop} : surface.SoundRanges tag.name fresh tag.ranges where
  separated := valid.separated tag member
  inside := valid.rangesInside tag member
  stamped range held := .inl ⟨tag, member, rfl, range, held, rfl⟩

/-- Ranges stay sound when a part between two places is taken out of them. -/
theorem SoundRanges.flatMap_without {name : String} {fresh : Nat → Prop}
    {ranges : List TagRange} (sound : surface.SoundRanges name fresh ranges)
    {start stop : Position} (startInside : surface.Inside start)
    (stopInside : surface.Inside stop) (ordered : start ≤ stop) :
    surface.SoundRanges name fresh (ranges.flatMap (·.without start stop)) where
  separated := sound.separated.flatMap_without ordered
  inside piece left := by
    obtain ⟨range, held, part⟩ := List.mem_flatMap.mp left
    have inside := sound.inside range held
    obtain ⟨-, -, -, -, pieceStart, pieceStop, -⟩ :=
      of_mem_without (sound.separated.nonempty range held) part
    constructor
    · rcases pieceStart with same | same <;> rw [same]
      exacts [inside.1, stopInside]
    · rcases pieceStop with same | same <;> rw [same]
      exacts [inside.2, startInside]
  stamped piece left := by
    obtain ⟨range, held, part⟩ := List.mem_flatMap.mp left
    rw [(of_mem_without (sound.separated.nonempty range held) part).1]
    exact sound.stamped range held

/-- Ranges stay sound when a part between two places is cut out of them. -/
theorem SoundRanges.cutRanges {name : String} {fresh : Nat → Prop}
    {ranges : List TagRange} (sound : surface.SoundRanges name fresh ranges)
    {start stop : Position} (startInside : surface.Inside start)
    (stopInside : surface.Inside stop) (ordered : start ≤ stop) :
    surface.SoundRanges name fresh (Tag.cutRanges start stop ranges) := by
  rw [Tag.cutRanges_eq_flatMap sound.separated ordered]
  exact sound.flatMap_without startInside stopInside ordered

/-- New tags keep the invariant if their ranges are sound. Only one tag may use the next stamp,
and then the stamp is used up. -/
theorem Valid.retag (valid : surface.Valid) {next : Surface}
    (sameLines : next.lines = surface.lines) (sameCursor : next.cursor = surface.cursor)
    (namesDistinct : (next.tags.map (·.name)).Nodup)
    (stampsGrow : surface.nextStamp ≤ next.nextStamp) (added : String)
    (sound : ∀ tag ∈ next.tags, surface.SoundRanges tag.name
      (fun stamp => tag.name = added ∧ stamp = surface.nextStamp ∧
        surface.nextStamp < next.nextStamp) tag.ranges) : next.Valid := by
  have origin : ∀ {name stamp}, next.Stamped name stamp → surface.Stamped name stamp ∨
      name = added ∧ stamp = surface.nextStamp ∧ surface.nextStamp < next.nextStamp := by
    rintro name stamp ⟨tag, member, rfl, range, held, rfl⟩
    exact (sound tag member).stamped range held
  refine {
    nonempty := sameLines ▸ valid.nonempty
    newlineFree := sameLines ▸ valid.newlineFree
    cursorInside := by rw [inside_congr sameLines, sameCursor]; exact valid.cursorInside
    namesDistinct := namesDistinct
    separated := fun tag member => (sound tag member).separated
    rangesInside := ?_
    stampUsed := ?_
    stampOwned := ?_ }
  · intro tag member range held
    rw [inside_congr sameLines, inside_congr sameLines]
    exact (sound tag member).inside range held
  · intro name stamp stamped
    rcases origin stamped with old | ⟨-, same, below⟩
    · exact Nat.lt_of_lt_of_le (valid.stampUsed old) stampsGrow
    · exact same ▸ below
  · intro name other stamp stamped otherStamped
    -- The next stamp is carried by no old range, so it cannot be shared with one.
    rcases origin stamped with old | ⟨named, same, -⟩ <;>
      rcases origin otherStamped with otherOld | ⟨otherNamed, otherSame, -⟩
    · exact valid.stampOwned old otherOld
    · exact absurd (otherSame ▸ valid.stampUsed old) (Nat.lt_irrefl _)
    · exact absurd (same ▸ valid.stampUsed otherOld) (Nat.lt_irrefl _)
    · exact named.trans otherNamed.symm

/-- Removing a tag from a range that is not reversed keeps the invariant. -/
theorem Valid.tagRemove (valid : surface.Valid) (name : String) {start stop : Position}
    (ordered : surface.clamp start ≤ surface.clamp stop) :
    (surface.tagRemove name start stop).Valid := by
  refine valid.retag rfl rfl ?_ (Nat.le_refl _) name ?_
  · rw [map_name_tagRemove]
    exact valid.namesDistinct
  · intro removed member
    obtain ⟨tag, old, rfl⟩ := List.mem_map.mp member
    split
    next =>
      exact (valid.soundRanges old).cutRanges (inside_clamp valid.nonempty start)
        (inside_clamp valid.nonempty stop) ordered
    next => exact valid.soundRanges old

/-- Dropping a tag keeps the invariant. -/
theorem Valid.tagDelete (valid : surface.Valid) (name : String) :
    (surface.tagDelete name).Valid := by
  refine valid.retag rfl rfl ?_ (Nat.le_refl _) name ?_
  · exact valid.namesDistinct.sublist (List.filter_sublist.map _)
  · intro tag member
    exact valid.soundRanges (List.mem_filter.mp member).1

/-- A change of one tag that keeps its name keeps the names distinct. -/
theorem nodup_updateTag {name : String} {change : Tag → Tag} {tags : List Tag}
    (keeps : ∀ tag : Tag, (change tag).name = tag.name)
    (distinct : (tags.map (·.name)).Nodup) :
    ((updateTag name change tags).map (·.name)).Nodup := by
  rw [map_name_updateTag keeps]
  split
  next => exact distinct
  next new =>
    rw [List.nodup_append]
    refine ⟨distinct, List.nodup_singleton name, ?_⟩
    intro old member other single
    rw [List.mem_singleton.mp single]
    rintro rfl
    exact new member

/-- Giving a tag its directive keeps the invariant. -/
theorem Valid.tagConfigure (valid : surface.Valid) (name : String) (directive : StyleDirective) :
    (surface.tagConfigure name directive).Valid := by
  refine valid.retag rfl rfl (nodup_updateTag (fun _ => rfl) valid.namesDistinct)
    (Nat.le_refl _) name ?_
  intro tag member
  rcases mem_updateTag member with old | ⟨tag, old | rfl, -, rfl⟩
  · exact valid.soundRanges old
  · exact show surface.SoundRanges tag.name _ tag.ranges from valid.soundRanges old
  · exact .nil

/-- Adding a tag to a range keeps the invariant. -/
theorem Valid.tagAdd (valid : surface.Valid) (name : String) (start stop : Position) :
    (surface.tagAdd name start stop).Valid := by
  have startInside := inside_clamp valid.nonempty start
  have stopInside := inside_clamp valid.nonempty stop
  refine valid.retag rfl rfl (nodup_updateTag ?_ valid.namesDistinct)
    (Nat.le_succ _) name ?_
  · intro tag
    split <;> rfl
  intro changed member
  rcases mem_updateTag member with old | ⟨tag, origin, named, rfl⟩
  · exact valid.soundRanges old
  have sound : ∀ fresh : Nat → Prop, surface.SoundRanges tag.name fresh tag.ranges := by
    intro fresh
    rcases origin with old | rfl
    · exact valid.soundRanges old
    · exact .nil
  split
  next nonempty =>
    let added : TagRange := ⟨surface.clamp start, surface.clamp stop, surface.nextStamp⟩
    have old := sound fun _ => False
    have pieces := old.cutRanges startInside stopInside (Std.le_of_lt nonempty)
    have shape {held : TagRange} : held ∈ Tag.addRange added tag.ranges ↔ held = added ∨
        held ∈ Tag.cutRanges (surface.clamp start) (surface.clamp stop) tag.ranges :=
      Tag.mem_addRange_of_ascending old.separated.ascending
    refine ⟨Tag.separated_addRange old.separated nonempty, fun held member => ?_,
      fun held member => ?_⟩
    · rcases shape.mp member with rfl | piece
      · exact ⟨startInside, stopInside⟩
      · exact pieces.inside held piece
    · rcases shape.mp member with rfl | piece
      · exact .inr ⟨named, rfl, Nat.lt_succ_self _⟩
      · exact .inl ((pieces.stamped held piece).resolve_right id)
  next => exact sound _

end Highlighter.Surface
