import Highlighter.Error
import Highlighter.Style.Color
import Highlighter.Theme.Role

/-!
# Themes

A theme has a color for every role. It is built from a look-up of texts under the keys of the
roles: the roles are examined in order, and the first one without a valid color is the error.
-/

namespace Highlighter

/-- A color for every role. -/
structure Theme where
  comment : Color
  string : Color
  number : Color
  keyword : Color
  operator : Color
  function : Color
  classSelf : Color
  namespaceName : Color
  object : Color
  font : Color
  selection : Color
  background : Color
  menuActiveBackground : Color
  menuActiveForeground : Color
  deriving DecidableEq, Repr

namespace Theme

/-- The color of a role. -/
def color (theme : Theme) : Role → Color
  | .comment => theme.comment
  | .string => theme.string
  | .number => theme.number
  | .keyword => theme.keyword
  | .operator => theme.operator
  | .function => theme.function
  | .classSelf => theme.classSelf
  | .namespaceName => theme.namespaceName
  | .object => theme.object
  | .font => theme.font
  | .selection => theme.selection
  | .background => theme.background
  | .menuActiveBackground => theme.menuActiveBackground
  | .menuActiveForeground => theme.menuActiveForeground

/-- The color of one role in a look-up of texts. -/
def lookUpColor (lookUp : String → Option String) (role : Role) : Except ThemeError Color :=
  match lookUp role.key with
  | none => .error (.missingKey role.key)
  | some value =>
    match Color.ofHex? value with
    | some color => .ok color
    | none => .error (.invalidColor role.key value)

/-- The theme whose colors a look-up writes. -/
def ofLookUp (lookUp : String → Option String) : Except ThemeError Theme := do
  let color := lookUpColor lookUp
  return {
    comment := ← color .comment
    string := ← color .string
    number := ← color .number
    keyword := ← color .keyword
    operator := ← color .operator
    function := ← color .function
    classSelf := ← color .classSelf
    namespaceName := ← color .namespaceName
    object := ← color .object
    font := ← color .font
    selection := ← color .selection
    background := ← color .background
    menuActiveBackground := ← color .menuActiveBackground
    menuActiveForeground := ← color .menuActiveForeground }

/-- The keys of the roles with their colors. -/
def entries (theme : Theme) : List (String × String) :=
  Role.all.map fun role => (role.key, (theme.color role).toHex)

/-- The dark theme that is used when no other is known. -/
def dark : Theme where
  comment := ⟨0x6A, 0x73, 0x7D⟩
  string := ⟨0x98, 0xC3, 0x79⟩
  number := ⟨0xD1, 0x9A, 0x66⟩
  keyword := ⟨0xC6, 0x78, 0xDD⟩
  operator := ⟨0x56, 0xB6, 0xC2⟩
  function := ⟨0x61, 0xAF, 0xEF⟩
  classSelf := ⟨0xE5, 0xC0, 0x7B⟩
  namespaceName := ⟨0xE0, 0x6C, 0x75⟩
  object := ⟨0x61, 0xAF, 0xEF⟩
  font := ⟨0xAB, 0xB2, 0xBF⟩
  selection := ⟨0x3E, 0x44, 0x51⟩
  background := ⟨0x28, 0x2C, 0x34⟩
  menuActiveBackground := ⟨0x3E, 0x44, 0x51⟩
  menuActiveForeground := ⟨0xFF, 0xFF, 0xFF⟩

end Theme

/-- Colors of a whole window that follow from a theme. -/
structure Appearance where
  textSelectionBackground : Color
  insertion : Color
  menuForeground : Color
  menuBackground : Color
  font : Color
  textAreaBackground : Color
  menuBarActiveBackground : Color
  menuBarActiveForeground : Color
  menuActiveBackground : Color
  menuActiveForeground : Color
  deriving DecidableEq, Repr

namespace Appearance

/-- The appearance that follows from a theme. -/
def ofTheme (theme : Theme) : Appearance where
  textSelectionBackground := theme.selection
  insertion := theme.font
  menuForeground := theme.comment
  menuBackground := theme.background
  font := theme.font
  textAreaBackground := theme.background
  menuBarActiveBackground := theme.menuActiveBackground
  menuBarActiveForeground := theme.menuActiveForeground
  menuActiveBackground := theme.menuActiveBackground
  menuActiveForeground := theme.menuActiveForeground

/-- The settings keys of an appearance with their colors. -/
def entries (appearance : Appearance) : List (String × String) := [
  ("text_selection_bg", appearance.textSelectionBackground.toHex),
  ("insertion_color", appearance.insertion.toHex),
  ("menu_fg", appearance.menuForeground.toHex),
  ("menu_bg", appearance.menuBackground.toHex),
  ("font_color", appearance.font.toHex),
  ("textarea_background_color", appearance.textAreaBackground.toHex),
  ("menubar_active_bg", appearance.menuBarActiveBackground.toHex),
  ("menubar_active_fg", appearance.menuBarActiveForeground.toHex),
  ("menu_active_bg", appearance.menuActiveBackground.toHex),
  ("menu_active_fg", appearance.menuActiveForeground.toHex)]

end Appearance

end Highlighter
