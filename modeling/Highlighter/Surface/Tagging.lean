import Highlighter.Surface.Basic

/-!
# Tagging a surface

Tags are added to ranges, removed from ranges, given directives and dropped. Later tags lie
over earlier ones, so for each attribute the newest tag that sets it wins.
-/

namespace Highlighter.Surface

/-- The tag with a name. -/
def tag? (surface : Surface) (name : String) : Option Tag :=
  surface.tags.find? (·.name == name)

/-- Change the tag with a name; a tag that is missing is made first, as the newest. -/
def updateTag (name : String) (change : Tag → Tag) : List Tag → List Tag
  | [] => [change { name }]
  | tag :: tags => if tag.name = name then change tag :: tags else tag :: updateTag name change tags

/-- Add a tag to a range. The tag is made if it is missing; an empty or reversed range adds
nothing to it. -/
def tagAdd (surface : Surface) (name : String) (start stop : Position) : Surface :=
  let start := surface.clamp start
  let stop := surface.clamp stop
  let change (tag : Tag) : Tag :=
    if start < stop then tag.add ⟨start, stop, surface.nextStamp⟩ else tag
  { surface with
    mutations := surface.mutations + 1
    nextStamp := surface.nextStamp + 1
    tags := updateTag name change surface.tags }

/-- Remove a tag from a range. -/
def tagRemove (surface : Surface) (name : String) (start stop : Position) : Surface :=
  let start := surface.clamp start
  let stop := surface.clamp stop
  { surface with
    mutations := surface.mutations + 1
    tags := surface.tags.map fun tag => if tag.name = name then tag.cut start stop else tag }

/-- Drop a tag with its ranges and its directive. -/
def tagDelete (surface : Surface) (name : String) : Surface :=
  { surface with
    mutations := surface.mutations + 1
    tags := surface.tags.filter (·.name != name) }

/-- Give a tag its directive. The tag is made if it is missing. -/
def tagConfigure (surface : Surface) (name : String) (directive : StyleDirective) : Surface :=
  { surface with
    mutations := surface.mutations + 1
    tags := updateTag name (fun tag => { tag with directive := some directive }) surface.tags }

/-- The names of all tags, the oldest first. -/
def tagNames (surface : Surface) : List String :=
  surface.tags.map (·.name)

/-- The ranges of a tag in buffer order. -/
def tagRanges (surface : Surface) (name : String) : List TagRange :=
  ((surface.tag? name).map (·.ranges)).getD []

/-- The directive of a tag. -/
def tagStyle? (surface : Surface) (name : String) : Option StyleDirective :=
  (surface.tag? name).bind (·.directive)

/-- The names of the tags that cover a position, the oldest first. -/
def tagsAt (surface : Surface) (position : Position) : List String :=
  (surface.tags.filter (·.covers position)).map (·.name)

/-- The directives of all tags that cover a position, laid over each other. -/
def styleAt (surface : Surface) (position : Position) : StyleDirective :=
  ((surface.tags.filter (·.covers position)).filterMap (·.directive)).foldl
    StyleDirective.mergedWith .empty

/-- Lay a directive over the styles from the index `first` up to the index `last`. -/
def paint (directive : StyleDirective) (first last : Nat) (styles : List StyleDirective) :
    List StyleDirective :=
  styles.mapIdx fun index style =>
    if first ≤ index ∧ index < last then style.mergedWith directive else style

/-- Lay the directive of a tag over the styles of a line, range by range. -/
def paintTag (line length : Nat) (tag : Tag) (styles : List StyleDirective) :
    List StyleDirective :=
  match tag.directive with
  | none => styles
  | some directive =>
    let ranges := (tag.rangesAfter (.lineStart line)).takeWhile (·.start < ⟨line, length⟩)
    ranges.foldl (fun styles range =>
      let first := if range.start.line < line then 0 else range.start.column
      let last := if line < range.stop.line then length else min range.stop.column length
      paint directive first last styles) styles

/-- The style of every character of a line. Only ranges that touch the line are visited. -/
def lineStyles (surface : Surface) (line : Nat) : List StyleDirective :=
  let length := surface.lineLength line
  surface.tags.foldl (fun styles tag => paintTag line length tag styles)
    (List.replicate length .empty)

end Highlighter.Surface
