import Highlighter.Style.Color

/-!
# Style directives

What a tag does to the text it covers. A directive changes only what it sets, so the directives
of several tags on one range can be laid over each other.
-/

namespace Highlighter

/-- Font variants that a tag may switch to. -/
inductive FontVariant where
  | italic
  | bold
  /-- The font of first-level headings. -/
  | heading
  /-- The font of second-level headings. -/
  | subheading
  deriving DecidableEq, Repr

/-- The name of a font variant. -/
def FontVariant.name : FontVariant → String
  | .italic => "italic"
  | .bold => "bold"
  | .heading => "heading"
  | .subheading => "subheading"

/-- A change of foreground color and font. -/
structure StyleDirective where
  foreground : Option Color := none
  font : Option FontVariant := none
  deriving DecidableEq, Repr

namespace StyleDirective

/-- The directive that changes nothing. -/
def empty : StyleDirective := {}

/-- Whether the directive changes nothing. -/
def isEmpty (directive : StyleDirective) : Bool :=
  directive.foreground.isNone && directive.font.isNone

/-- The directive with `upper` laid over it: what `upper` sets wins. -/
def mergedWith (directive upper : StyleDirective) : StyleDirective where
  foreground := upper.foreground.or directive.foreground
  font := upper.font.or directive.font

end StyleDirective

end Highlighter
