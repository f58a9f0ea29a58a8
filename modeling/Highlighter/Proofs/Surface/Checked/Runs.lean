import Highlighter.Proofs.Surface.Checked.Edits
import Highlighter.Proofs.Surface.LineStyles

/-!
# Runs that stay inside their lists

On orderly surfaces no step of an operation fails (`Checked.apply_eq`), and none of a query
(`Checked.ask_eq`). Every operation leaves an orderly surface behind, so no step fails in any run
(`Checked.runs_and_queries_never_fail`).
-/

namespace Highlighter.Checked

open TagRange

/-! ### Tagging -/

section Tagging

/-- Change the tag with a name; a tag that is missing is made first, as the newest. -/
def updateTag (name : String) (change : Tag → Option Tag) : List Tag → Option (List Tag)
  | [] => do return [← change { name }]
  | tag :: tags =>
    if tag.name = name then do return (← change tag) :: tags
    else do return tag :: (← updateTag name change tags)

/-- Add a tag to a range. -/
def tagAdd (surface : Surface) (name : String) (start stop : Position) : Option Surface := do
  let start ← clamp surface start
  let stop ← clamp surface stop
  let change (tag : Tag) : Option Tag :=
    if start < stop then do
      return { tag with ranges := ← addRange ⟨start, stop, surface.nextStamp⟩ tag.ranges }
    else return tag
  return { surface with
    mutations := surface.mutations + 1
    nextStamp := surface.nextStamp + 1
    tags := ← updateTag name change surface.tags }

/-- Remove a tag from a range. -/
def tagRemove (surface : Surface) (name : String) (start stop : Position) : Option Surface := do
  let start ← clamp surface start
  let stop ← clamp surface stop
  let change (tag : Tag) : Option Tag :=
    if tag.name = name then do return { tag with ranges := ← cutRanges start stop tag.ranges }
    else return tag
  return { surface with
    mutations := surface.mutations + 1
    tags := ← surface.tags.mapM change }

/-- The tags that cover a position, the oldest first. -/
def coveringTags (surface : Surface) (position : Position) : Option (List Tag) := do
  let covered ← surface.tags.mapM fun tag => do
    return if ← covers tag position then some tag else none
  return covered.filterMap id

/-- Lay a directive over the styles from the index `first` up to the index `last`. -/
def paint (directive : StyleDirective) (first last : Nat) (styles : List StyleDirective) :
    Option (List StyleDirective) := do
  let part ← slice first last styles
  splice first last (part.map (·.mergedWith directive)) styles

/-- Lay the directive of a tag over the styles of a line, range by range. -/
def paintTag (line length : Nat) (tag : Tag) (styles : List StyleDirective) :
    Option (List StyleDirective) :=
  match tag.directive with
  | none => return styles
  | some directive => do
    let reaching ← slice (← firstAfter tag (.lineStart line)) tag.ranges.length tag.ranges
    (reaching.takeWhile (·.start < ⟨line, length⟩)).foldlM (fun styles range =>
      let first := if range.start.line < line then 0 else range.start.column
      let last := if line < range.stop.line then length else min range.stop.column length
      paint directive first last styles) styles

/-- The style of every character of a line. -/
def lineStyles (surface : Surface) (line : Nat) : Option (List StyleDirective) :=
  let length := surface.lineLength line
  surface.tags.foldlM (fun styles tag => paintTag line length tag styles)
    (List.replicate length .empty)

variable {surface : Surface}

/-- A change of one tag succeeds if it does on every tag of which it may be made. -/
theorem updateTag_eq {name : String} {change? : Tag → Option Tag} {change : Tag → Tag}
    {tags : List Tag} (missing : change? { name } = some (change { name }))
    (succeeds : ∀ tag ∈ tags, change? tag = some (change tag)) :
    updateTag name change? tags = some (Surface.updateTag name change tags) := by
  induction tags with
  | nil =>
      rw [updateTag, missing]
      rfl
  | cons tag others inductionHypothesis =>
      rw [updateTag, Surface.updateTag, succeeds tag List.mem_cons_self,
        inductionHypothesis fun other member => succeeds other (List.mem_cons_of_mem _ member)]
      split <;> rfl

theorem tagAdd_eq (orderly : surface.Orderly) (name : String) (start stop : Position) :
    tagAdd surface name start stop = some (surface.tagAdd name start stop) := by
  have changes : ∀ tag : Tag, Ascending tag.ranges →
      (if surface.clamp start < surface.clamp stop then
        (addRange ⟨surface.clamp start, surface.clamp stop, surface.nextStamp⟩ tag.ranges).bind
          fun ranges => some { tag with ranges }
      else some tag) =
        some (if surface.clamp start < surface.clamp stop then
          tag.add ⟨surface.clamp start, surface.clamp stop, surface.nextStamp⟩
        else tag) := by
    intro tag ascending
    rw [addRange_eq ascending]
    split <;> rfl
  rw [tagAdd, clamp_eq orderly.toLined, clamp_eq orderly.toLined]
  simp only [Option.bind_eq_bind, Option.bind_some, Option.pure_def]
  rw [updateTag_eq (changes _ .nil) fun tag member =>
    changes tag (orderly.placed tag member).ascending]
  rfl

theorem tagRemove_eq (orderly : surface.Orderly) (name : String) (start stop : Position) :
    tagRemove surface name start stop = some (surface.tagRemove name start stop) := by
  rw [tagRemove, clamp_eq orderly.toLined, clamp_eq orderly.toLined]
  simp only [Option.bind_eq_bind, Option.bind_some, Option.pure_def]
  have changed : ∀ tag ∈ surface.tags, (if tag.name = name then
      (cutRanges (surface.clamp start) (surface.clamp stop) tag.ranges).bind fun ranges =>
        some { tag with ranges }
      else some tag) =
        some (if tag.name = name then tag.cut (surface.clamp start) (surface.clamp stop)
          else tag) := by
    intro tag member
    rw [cutRanges_eq (orderly.placed tag member).ascending]
    split <;> rfl
  rw [mapM_eq_map changed]
  rfl

theorem coveringTags_eq (orderly : surface.Orderly) (position : Position) :
    coveringTags surface position = some (surface.tags.filter (·.covers position)) := by
  have covered : surface.tags.mapM (fun tag => do
      return if ← covers tag position then some tag else none) =
        some (surface.tags.map (Option.guard (·.covers position))) := by
    refine mapM_eq_map fun tag member => ?_
    rw [covers_eq (orderly.placed tag member).ascending]
    simp [Option.guard]
  rw [coveringTags, covered]
  simp [List.filterMap_map, List.filterMap_eq_filter]

theorem paint_eq (directive : StyleDirective) {first last : Nat} {styles : List StyleDirective}
    (ordered : first ≤ last) (bounded : last ≤ styles.length) :
    paint directive first last styles = some (Surface.paint directive first last styles) := by
  rw [paint, slice_eq ordered bounded, Option.bind_eq_bind, Option.bind_some,
    splice_eq ordered bounded, Option.some_inj]
  ext1 index
  simp only [Surface.paint, List.getElem?_append, List.getElem?_take, List.getElem?_drop,
    List.getElem?_map, List.getElem?_mapIdx, List.length_take, List.length_map, List.length_drop,
    List.length_append]
  grind

/-- A range that touches a line has a part of it. -/
theorem part_of_touching {line length : Nat} {range : TagRange}
    (nonempty : range.start < range.stop) (reaches : Position.lineStart line < range.stop)
    (starts : range.start < ⟨line, length⟩) :
    (if range.start.line < line then 0 else range.start.column) ≤
        (if line < range.stop.line then length else min range.stop.column length) ∧
      (if line < range.stop.line then length else min range.stop.column length) ≤ length := by
  rw [Position.lt_iff] at nonempty reaches starts
  dsimp only [Position.lineStart] at *
  split <;> split <;> omega

theorem paintTag_eq {tag : Tag} (ascending : Ascending tag.ranges) {line length : Nat}
    {styles : List StyleDirective} (sameLength : styles.length = length) :
    paintTag line length tag styles = some (Surface.paintTag line length tag styles) := by
  rw [paintTag, Surface.paintTag]
  cases tag.directive with
  | none => rfl
  | some directive =>
      have reaching : slice (tag.ranges.takeWhile (·.stop ≤ Position.lineStart line)).length
          tag.ranges.length tag.ranges = some (tag.rangesAfter (.lineStart line)) := by
        rw [slice_eq (List.takeWhile_prefix _).length_le (Nat.le_refl _), List.take_length,
          drop_length_takeWhile]
        rfl
      simp only [firstAfter_eq ascending, Option.bind_eq_bind, Option.bind_some, reaching]
      refine foldlM_eq_foldl (·.length = length) (fun range member styles sameLength => ?_)
        sameLength
      have touching := (List.takeWhile_prefix _).subset member
      have part := part_of_touching
        (ascending.nonempty range ((List.dropWhile_suffix _).subset touching))
        (ascending.lt_stop_of_mem_dropWhile touching) (Ascending.start_lt_of_mem_takeWhile member)
      exact ⟨paint_eq directive part.1 (sameLength ▸ part.2), by simp [Surface.paint, sameLength]⟩

theorem lineStyles_eq (orderly : surface.Orderly) (line : Nat) :
    lineStyles surface line = some (surface.lineStyles line) := by
  refine foldlM_eq_foldl (·.length = surface.lineLength line)
    (fun tag member styles sameLength => ?_) List.length_replicate
  exact ⟨paintTag_eq (orderly.placed tag member).ascending sameLength,
    (Surface.length_paintTag ..).trans sameLength⟩

end Tagging

/-! ### Runs -/

/-- A question about a surface, with the type of its answer. -/
inductive Query : Type → Type where
  | cursor : Query Position
  | content : Query Text
  | lineCount : Query Nat
  | line (number : Nat) : Query (Option Text)
  | lineEnd (number : Nat) : Query Position
  | finish : Query Position
  | text (start stop : Position) : Query Text
  | advance (position : Position) (count : Nat) : Query Position
  | tagNames : Query (List String)
  | tagRanges (name : String) : Query (List TagRange)
  | tagStyle (name : String) : Query (Option StyleDirective)
  | tagsAt (position : Position) : Query (List String)
  | styleAt (position : Position) : Query StyleDirective
  | lineStyles (number : Nat) : Query (List StyleDirective)
  | mutations : Query Nat
  | nextStamp : Query Nat

/-- The answer of a surface to a question. -/
def Query.answer {α : Type} (surface : Surface) : Query α → α
  | .cursor => surface.cursor
  | .content => surface.content
  | .lineCount => surface.lineCount
  | .line number => surface.line? number
  | .lineEnd number => surface.lineEnd number
  | .finish => surface.finish
  | .text start stop => surface.text start stop
  | .advance position count => surface.advance position count
  | .tagNames => surface.tagNames
  | .tagRanges name => surface.tagRanges name
  | .tagStyle name => surface.tagStyle? name
  | .tagsAt position => surface.tagsAt position
  | .styleAt position => surface.styleAt position
  | .lineStyles number => surface.lineStyles number
  | .mutations => surface.mutations
  | .nextStamp => surface.nextStamp

/-- The answer of a surface to a question, found in checked steps. -/
def ask {α : Type} (surface : Surface) : Query α → Option α
  | .content => content surface
  | .lineEnd number => lineEnd surface number
  | .finish => finish surface
  | .text start stop => text surface start stop
  | .advance position count => advance surface position count
  | .tagsAt position => do return (← coveringTags surface position).map (·.name)
  | .styleAt position => do
    return ((← coveringTags surface position).filterMap (·.directive)).foldl
      StyleDirective.mergedWith .empty
  | .lineStyles number => lineStyles surface number
  | query => return query.answer surface

/-- The surface after an operation, found in checked steps. -/
def apply (surface : Surface) : Surface.Operation → Option Surface
  | .insert position text => insert surface position text
  | .delete start stop => delete surface start stop
  | .setContent text => return surface.setContent text
  | .setCursor position => do return { surface with cursor := ← clamp surface position }
  | .tagAdd name start stop => tagAdd surface name start stop
  | .tagRemove name start stop => tagRemove surface name start stop
  | .tagDelete name => return surface.tagDelete name
  | .tagConfigure name directive => return surface.tagConfigure name directive

/-- The surface after a sequence of operations, found in checked steps. -/
def run (surface : Surface) (operations : List Surface.Operation) : Option Surface :=
  operations.foldlM apply surface

variable {surface : Surface}

/-- On an orderly surface no step of a query fails. -/
theorem ask_eq (orderly : surface.Orderly) {α : Type} (query : Query α) :
    ask surface query = some (query.answer surface) := by
  cases query with
  | content => exact content_eq orderly.toLined
  | lineEnd number => exact lineEnd_eq orderly.toLined number
  | finish => exact finish_eq orderly.toLined
  | text start stop => exact text_eq orderly.toLined start stop
  | advance position count => exact advance_eq orderly.toLined position count
  | tagsAt position | styleAt position =>
      rw [ask, coveringTags_eq orderly]
      rfl
  | lineStyles number => exact lineStyles_eq orderly number
  | cursor | lineCount | line | tagNames | tagRanges | tagStyle | mutations | nextStamp => rfl

/-- On an orderly surface no step of an operation fails. -/
theorem apply_eq (orderly : surface.Orderly) (operation : Surface.Operation) :
    apply surface operation = some (surface.apply operation) := by
  cases operation with
  | insert position text => exact insert_eq orderly position text
  | delete start stop => exact delete_eq orderly start stop
  | setCursor position =>
      rw [apply, clamp_eq orderly.toLined]
      rfl
  | tagAdd name start stop => exact tagAdd_eq orderly name start stop
  | tagRemove name start stop => exact tagRemove_eq orderly name start stop
  | setContent | tagDelete | tagConfigure => rfl

/-- No step fails in a sequence of operations that starts from the empty surface or from one that
holds a text, and none fails in a query behind it, whatever the positions are and also where tags
are removed from reversed ranges: the checked operations and queries give what the unchecked ones
give. -/
theorem runs_and_queries_never_fail {first : Surface}
    (begun : first = .empty ∨ ∃ text, first = .ofText text)
    (operations : List Surface.Operation) :
    run first operations = some (first.run operations) ∧
      ∀ {α : Type} (query : Query α),
        ask (first.run operations) query = some (query.answer (first.run operations)) := by
  have reachable : Surface.Reachable Surface.Anything first := by
    rcases begun with rfl | ⟨text, rfl⟩
    · exact .empty
    · exact .ofText text
  have orderly := Surface.Orderly.of_reachable reachable
  refine ⟨?_, fun query => ask_eq (orderly.run operations) query⟩
  exact foldlM_eq_foldl Surface.Orderly
    (fun operation _ surface orderly => ⟨apply_eq orderly operation, orderly.apply operation⟩)
    orderly

/-- A tag over the whole text that is removed from a reversed range, edits before and behind the
text, and a line that does not exist. -/
theorem runs_and_queries_never_fail_of_reversed :
    let far : Position := ⟨UInt64.size - 1, UInt64.size - 1⟩
    let first := Surface.ofText "abcdef\ngh".toList
    let operations : List Surface.Operation :=
      [.tagAdd "Word" ⟨0, 7⟩ far, .tagRemove "Word" ⟨1, 4⟩ ⟨1, 2⟩, .insert ⟨1, 3⟩ ['x', '\n'],
        .delete far ⟨1, 1⟩, .insert far ['y'], .delete ⟨1, 1⟩ ⟨2, 1⟩]
    run first operations = some (first.run operations) ∧
      ask (first.run operations) (.lineStyles 1) = some ((first.run operations).lineStyles 1) ∧
      ask (first.run operations) (.text ⟨0, 0⟩ far) =
        some ((first.run operations).text ⟨0, 0⟩ far) := by
  intro far first operations
  obtain ⟨succeeds, answers⟩ := runs_and_queries_never_fail (.inr ⟨_, rfl⟩) operations
  exact ⟨succeeds, answers (.lineStyles 1), answers (.text ⟨0, 0⟩ far)⟩

/-- A range that starts before the first line makes the next edit fail. -/
example :
    insert { tags := [{ name := "Word", ranges := [⟨⟨0, 0⟩, ⟨1, 0⟩, 0⟩] }] } ⟨1, 0⟩ [] = none := by
  decide

end Highlighter.Checked
