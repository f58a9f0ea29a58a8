import Highlighter.Proofs.Surface.Overlapping

/-!
# The styles of a line

The styles of a line are found by walking over the ranges that touch the line, and the style of a
single character by asking each tag whether it covers the character. Both ways lead to the same
style (`lineStyles_eq_map_styleAt`), also where ranges of one tag overlap: laying a directive over
a style once more changes nothing. The style itself is decided attribute by attribute by the
newest tag that covers the character and sets the attribute (`aspect_styleAt`).
-/

namespace Highlighter

namespace StyleDirective

@[simp] theorem empty_mergedWith (directive : StyleDirective) :
    empty.mergedWith directive = directive := by
  simp [mergedWith, empty]

/-- Laying a directive over a style twice is laying it over once. -/
@[simp] theorem mergedWith_mergedWith_self (style directive : StyleDirective) :
    (style.mergedWith directive).mergedWith directive = style.mergedWith directive := by
  obtain ⟨foreground, font⟩ := directive
  cases foreground <;> cases font <;> rfl

/-- An attribute that directives may set: one that lies above decides. -/
structure Aspect {α : Type} (aspect : StyleDirective → Option α) : Prop where
  empty : aspect .empty = none
  mergedWith : ∀ lower upper : StyleDirective,
    aspect (lower.mergedWith upper) = (aspect upper).or (aspect lower)

theorem aspect_foreground : Aspect StyleDirective.foreground :=
  ⟨rfl, fun _ _ => rfl⟩

theorem aspect_font : Aspect StyleDirective.font :=
  ⟨rfl, fun _ _ => rfl⟩

end StyleDirective

namespace Tag

open TagRange StyleDirective

/-- What the tag sets of an attribute at a position, if it covers the position. -/
def setting? {α : Type} (tag : Tag) (position : Position)
    (aspect : StyleDirective → Option α) : Option α :=
  if tag.ranges.any (·.holds position) then tag.directive.bind aspect else none

/-- A style with the directive of the tag over it, if the tag covers the position. -/
def layOver (tag : Tag) (position : Position) (style : StyleDirective) : StyleDirective :=
  if tag.covers position then (tag.directive.map style.mergedWith).getD style else style

end Tag

namespace Surface

open TagRange StyleDirective

variable {surface : Surface}

/-- What the newest tag sets of an attribute, among the tags that cover a position and set it. -/
def newestSetting? {α : Type} (surface : Surface) (position : Position)
    (aspect : StyleDirective → Option α) : Option α :=
  surface.tags.reverse.findSome? (·.setting? position aspect)

/-! ### The style of one character -/

/-- The style at a position is built tag by tag. -/
theorem styleAt_eq_foldl (surface : Surface) (position : Position) :
    surface.styleAt position =
      surface.tags.foldl (fun style tag => tag.layOver position style) .empty := by
  rw [styleAt]
  generalize StyleDirective.empty = style
  induction surface.tags generalizing style with
  | nil => rfl
  | cons tag others inductionHypothesis =>
      rw [List.foldl_cons, ← inductionHypothesis, Tag.layOver, List.filter_cons]
      split
      next => cases given : tag.directive <;> simp [given]
      next => rfl

/-- Each attribute of the style at a position is set by the newest tag that covers the position
and sets the attribute. -/
theorem aspect_styleAt (orderly : surface.Orderly) (position : Position) {α : Type}
    {aspect : StyleDirective → Option α} (lawful : Aspect aspect) :
    aspect (surface.styleAt position) = surface.newestSetting? position aspect := by
  have ascending : ∀ tag ∈ surface.tags.reverse, Ascending tag.ranges := fun tag member =>
    (orderly.placed tag (List.mem_reverse.mp member)).ascending
  rw [styleAt_eq_foldl, newestSetting?, List.foldl_eq_foldr_reverse]
  generalize surface.tags.reverse = tags at ascending ⊢
  induction tags with
  | nil => exact lawful.empty
  | cons tag older inductionHypothesis =>
      have covers := Tag.covers_eq_any_of_ascending (ascending tag List.mem_cons_self) position
      rw [List.foldr_cons, List.findSome?_cons, ← inductionHypothesis fun other member =>
        ascending other (List.mem_cons_of_mem _ member)]
      generalize older.foldr (fun tag style => tag.layOver position style) .empty = style
      rw [Tag.layOver, Tag.setting?, covers]
      split
      next =>
        cases given : tag.directive with
        | none => rfl
        | some directive =>
            simp only [Option.map_some, Option.getD_some, lawful.mergedWith, Option.bind_some]
            cases aspect directive <;> rfl
      next => rfl

/-! ### The styles of a line -/

/-- Whether the part of a range on a line, as it is painted, holds a column. -/
def Paints (line length : Nat) (range : TagRange) (column : Nat) : Prop :=
  (if range.start.line < line then 0 else range.start.column) ≤ column ∧
    column < if line < range.stop.line then length else min range.stop.column length

instance (line length : Nat) (range : TagRange) (column : Nat) :
    Decidable (Paints line length range column) :=
  inferInstanceAs (Decidable (_ ∧ _))

/-- A range that touches a line paints the columns that it holds. -/
theorem paints_iff {line length column : Nat} {range : TagRange} (within : column < length)
    (reaches : Position.lineStart line < range.stop) (starts : range.start < ⟨line, length⟩) :
    Paints line length range column ↔ range.holds ⟨line, column⟩ = true := by
  rw [Position.lt_iff, Position.lineStart] at reaches
  rw [Position.lt_iff] at starts
  rw [Paints, holds_iff, Position.le_iff, Position.lt_iff]
  dsimp only at *
  split <;> split <;> omega

/-- Ranges that are painted one after the other lay their directive over every column that one of
them paints, and over no other. -/
theorem getElem?_foldl_paint (directive : StyleDirective) (line length : Nat)
    (ranges : List TagRange) (styles : List StyleDirective) (column : Nat) :
    (ranges.foldl (fun styles range =>
        let first := if range.start.line < line then 0 else range.start.column
        let last := if line < range.stop.line then length else min range.stop.column length
        paint directive first last styles) styles)[column]? =
      styles[column]?.map fun style =>
        if ∃ range ∈ ranges, Paints line length range column then style.mergedWith directive
        else style := by
  induction ranges generalizing styles with
  | nil => simp
  | cons range others inductionHypothesis =>
      rw [List.foldl_cons, inductionHypothesis, paint, List.getElem?_mapIdx, Option.map_map]
      congr 1
      funext style
      by_cases painted : Paints line length range column
      · have painted' := painted
        rw [Paints] at painted'
        simp [painted, painted']
      · have unpainted := painted
        rw [Paints] at unpainted
        simp [painted, unpainted]

/-- The ranges that are visited on a line are those that end behind its start and start before its
end; one of them paints a column exactly when the tag covers it. -/
theorem exists_visited_paints_iff {tag : Tag} (ascending : Ascending tag.ranges)
    {line length column : Nat} (within : column < length) :
    (∃ range ∈ (tag.rangesAfter (.lineStart line)).takeWhile (·.start < ⟨line, length⟩),
      Paints line length range column) ↔ tag.covers ⟨line, column⟩ = true := by
  have rest : Ascending (tag.rangesAfter (.lineStart line)) :=
    ascending.sublist (List.dropWhile_suffix _).sublist
  rw [Tag.covers_eq_any_of_ascending ascending, List.any_eq_true]
  constructor
  · rintro ⟨range, member, paints⟩
    have starts := Ascending.start_lt_of_mem_takeWhile member
    have touching := (List.takeWhile_prefix _).subset member
    have reaches := ascending.lt_stop_of_mem_dropWhile touching
    exact ⟨range, (List.dropWhile_suffix _).subset touching,
      (paints_iff within reaches starts).mp paints⟩
  · rintro ⟨range, member, held⟩
    obtain ⟨lower, upper⟩ := holds_iff.mp held
    have front : Position.lineStart line ≤ ⟨line, column⟩ :=
      Position.le_iff.mpr (.inr ⟨rfl, Nat.zero_le column⟩)
    have reaches : Position.lineStart line < range.stop := Std.lt_of_le_of_lt front upper
    have starts : range.start < ⟨line, length⟩ :=
      Std.lt_of_le_of_lt lower (.inr ⟨rfl, within⟩)
    have touching : range ∈ tag.rangesAfter (.lineStart line) := by
      rw [← List.takeWhile_append_dropWhile (p := (·.stop ≤ Position.lineStart line))
        (l := tag.ranges), List.mem_append] at member
      refine member.resolve_left fun passed => ?_
      exact Std.not_le.mpr reaches (Ascending.stop_le_of_mem_takeWhile passed)
    refine ⟨range, ?_, (paints_iff within reaches starts).mpr held⟩
    rw [← List.takeWhile_append_dropWhile (p := (·.start < (⟨line, length⟩ : Position)))
      (l := tag.rangesAfter (.lineStart line)), List.mem_append] at touching
    refine touching.resolve_right fun behind => ?_
    exact Std.not_lt.mpr (rest.le_start_of_mem_dropWhile behind) starts

/-- Painting a tag over the styles of a line lays its directive over the columns it covers. -/
theorem getElem?_paintTag {tag : Tag} (ascending : Ascending tag.ranges) {line length column : Nat}
    (within : column < length) (styles : List StyleDirective) :
    (paintTag line length tag styles)[column]? =
      styles[column]?.map (tag.layOver ⟨line, column⟩) := by
  rw [paintTag]
  cases given : tag.directive with
  | none =>
      have nothing : tag.layOver ⟨line, column⟩ = id := by
        funext style
        simp [Tag.layOver, given]
      rw [nothing, Option.map_id_fun, id]
  | some directive =>
      dsimp only
      rw [getElem?_foldl_paint]
      congr 1
      funext style
      simp only [exists_visited_paints_iff ascending within, Tag.layOver, given, Option.map_some,
        Option.getD_some]

/-- The tags are painted over the styles of a line in the order in which they are laid over the
style of each of its columns. -/
theorem getElem?_foldl_paintTag {tags : List Tag} (ascending : ∀ tag ∈ tags, Ascending tag.ranges)
    {line length column : Nat} (within : column < length) (styles : List StyleDirective) :
    (tags.foldl (fun styles tag => paintTag line length tag styles) styles)[column]? =
      styles[column]?.map fun style =>
        tags.foldl (fun style tag => tag.layOver ⟨line, column⟩ style) style := by
  induction tags generalizing styles with
  | nil => simp
  | cons tag others inductionHypothesis =>
      rw [List.foldl_cons, inductionHypothesis fun other member =>
          ascending other (List.mem_cons_of_mem _ member),
        getElem?_paintTag (ascending tag List.mem_cons_self) within, Option.map_map]
      rfl

@[simp] theorem length_paintTag (line length : Nat) (tag : Tag) (styles : List StyleDirective) :
    (paintTag line length tag styles).length = styles.length := by
  rw [paintTag]
  split
  next => rfl
  next directive =>
    dsimp only
    generalize (tag.rangesAfter (.lineStart line)).takeWhile (·.start < ⟨line, length⟩) = ranges
    induction ranges generalizing styles with
    | nil => rfl
    | cons range others inductionHypothesis =>
        rw [List.foldl_cons, inductionHypothesis, paint, List.length_mapIdx]

@[simp] theorem length_lineStyles (surface : Surface) (line : Nat) :
    (surface.lineStyles line).length = surface.lineLength line := by
  rw [lineStyles]
  suffices kept : ∀ styles : List StyleDirective,
      (surface.tags.foldl (fun styles tag => paintTag line (surface.lineLength line) tag styles)
        styles).length = styles.length by
    rw [kept, List.length_replicate]
  induction surface.tags with
  | nil => exact fun _ => rfl
  | cons tag others inductionHypothesis =>
      intro styles
      rw [List.foldl_cons, inductionHypothesis, length_paintTag]

/-- The styles of a line are the styles at its columns. -/
theorem lineStyles_eq_map_styleAt (orderly : surface.Orderly) (line : Nat) :
    surface.lineStyles line =
      (List.range (surface.lineLength line)).map fun column => surface.styleAt ⟨line, column⟩ := by
  ext1 column
  by_cases within : column < surface.lineLength line
  · rw [lineStyles,
      getElem?_foldl_paintTag (fun tag member => (orderly.placed tag member).ascending) within,
      List.getElem?_replicate_of_lt within, Option.map_some, ← styleAt_eq_foldl,
      List.getElem?_map, List.getElem?_range within, Option.map_some]
  · rw [List.getElem?_eq_none (by simpa using within),
      List.getElem?_eq_none (by simpa using within)]

/-! ### Runs -/

/-- After every run of operations, also one that removes tags from reversed ranges, the styles of a
line are the styles at the positions of its characters, one for each, and none for a line that does
not exist. Each attribute of the style at a position is the one that the newest tag sets, among the
tags that cover the position and set it. -/
theorem lineStyles_agree_with_styleAt (reachable : Reachable Anything surface) :
    (∀ line, surface.lineStyles line =
      (List.range ((surface.line? line).getD []).length).map fun column =>
        surface.styleAt ⟨line, column⟩) ∧
      ∀ position,
        (surface.styleAt position).foreground =
            surface.newestSetting? position StyleDirective.foreground ∧
          (surface.styleAt position).font =
            surface.newestSetting? position StyleDirective.font := by
  have orderly := Orderly.of_reachable reachable
  refine ⟨fun line => ?_, fun position => ⟨aspect_styleAt orderly position aspect_foreground,
    aspect_styleAt orderly position aspect_font⟩⟩
  have length : surface.lineLength line = ((surface.line? line).getD []).length := by
    rw [lineLength]
    cases surface.line? line <;> rfl
  rw [lineStyles_eq_map_styleAt orderly, length]

/-- Two tags over two lines, of which the older one has overlapping ranges since it was removed from
a reversed range: where both cover a character, the newer one decides about the font only. -/
theorem lineStyles_agree_with_styleAt_of_overlapping :
    let red : Color := ⟨255, 0, 0⟩
    let tagged := (((ofText "abcdef\ngh".toList).tagConfigure "Old" ⟨some red, some .italic⟩).tagAdd
      "Old" ⟨1, 0⟩ ⟨2, 2⟩).tagRemove "Old" ⟨1, 4⟩ ⟨1, 2⟩
    let surface := (tagged.tagConfigure "New" ⟨none, some .bold⟩).tagAdd "New" ⟨1, 3⟩ ⟨1, 5⟩
    Reachable Anything surface ∧
      surface.lineStyles 1 = (List.range 6).map (fun column => surface.styleAt ⟨1, column⟩) ∧
      surface.lineStyles 3 = [] ∧ surface.styleAt ⟨1, 3⟩ = ⟨some red, some .bold⟩ := by
  intro red tagged surface
  have reachable : Reachable Anything surface :=
    .step (.tagAdd "New" ⟨1, 3⟩ ⟨1, 5⟩) (.step (.tagConfigure "New" ⟨none, some .bold⟩)
      (.step (.tagRemove "Old" ⟨1, 4⟩ ⟨1, 2⟩) (.step (.tagAdd "Old" ⟨1, 0⟩ ⟨2, 2⟩)
        (.step (.tagConfigure "Old" ⟨some red, some .italic⟩) (.ofText _) trivial) trivial) trivial)
        trivial) trivial
  obtain ⟨agrees, newest⟩ := lineStyles_agree_with_styleAt reachable
  obtain ⟨foreground, font⟩ := newest ⟨1, 3⟩
  have foreground : (surface.styleAt ⟨1, 3⟩).foreground = some red := foreground.trans (by decide)
  have font : (surface.styleAt ⟨1, 3⟩).font = some .bold := font.trans (by decide)
  refine ⟨reachable, agrees 1, agrees 3, ?_⟩
  rw [← foreground, ← font]

end Surface

end Highlighter
