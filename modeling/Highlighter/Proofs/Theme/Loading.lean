import Highlighter.Proofs.Settings.Persistence
import Highlighter.Theme.Source

/-!
# Themes in documents and in settings

A theme is read from a document directly, or from the settings that the document writes. The first
reader takes a value of any type as it is shown, the second one sees strings only. They agree
(`Theme.loaders_agree`), since no value but a string is shown as a color: numbers, booleans and
dates have no number sign in front, and arrays and tables begin with a bracket.
-/

namespace Highlighter

/-! ### Values as they are shown -/

namespace Toml

theorem sign_not_mem_toDigits (n : Nat) : '#' ∉ Nat.toDigits 10 n := fun member =>
  absurd (Nat.isDigit_of_mem_toDigits (by decide) (by decide) member) (by decide)

theorem sign_not_mem_positional (digits : Nat) (exponent : Int) :
    '#' ∉ Decimal.positional digits exponent := by
  have written := sign_not_mem_toDigits digits
  have zeros (count : Nat) : '#' ∉ List.replicate count '0' := fun member =>
    absurd (List.eq_of_mem_replicate member) (by decide)
  rw [Decimal.positional]
  dsimp only
  split
  next => simp [written]
  next =>
    have padded (count : Nat) : '#' ∉ List.replicate count '0' ++ Nat.toDigits 10 digits := by
      simp [written]
    simp only [List.mem_append, List.mem_cons, not_or]
    exact ⟨fun member => padded _ (List.mem_of_mem_take member), by decide,
      fun member => padded _ (List.mem_of_mem_drop member)⟩

theorem sign_not_mem_floatText (value : Binary64) : '#' ∉ floatText value := by
  cases value with
  | nan => decide
  | infinite negative => cases negative <;> decide
  | finite negative mantissa exponent =>
      have digits := sign_not_mem_positional (Decimal.shortest mantissa exponent).1
        (Decimal.shortest mantissa exponent).2
      rw [floatText]
      dsimp only
      split
      next => cases negative <;> decide
      next => cases negative <;> simp [digits]

theorem sign_not_mem_integerText (value : Int) : '#' ∉ integerText value := by
  have digits := sign_not_mem_toDigits value.natAbs
  rw [integerText]
  split <;> simp [digits]

/-- No value but a string is shown as a color. -/
theorem Value.ofHex?_standaloneText {value : Value} (noString : value.string? = none) :
    Color.ofHex? (String.ofList value.standaloneText) = none := by
  cases value with
  | string text => cases noString
  | integer number => exact Color.ofHex?_eq_none_of_not_mem (sign_not_mem_integerText number)
  | float number => exact Color.ofHex?_eq_none_of_not_mem (sign_not_mem_floatText number)
  | boolean flag => cases flag <;> exact Color.ofHex?_eq_none_of_not_mem (by decide)
  | datetime time => exact Color.ofHex?_eq_none_of_head (by decide) (by decide) _
  | array items => exact Color.ofHex?_eq_none_of_head (by decide) (by decide) _
  | table entries =>
      cases entries <;> exact Color.ofHex?_eq_none_of_head (by decide) (by decide) _

end Toml

namespace Theme

/-! ### The first role without a color -/

variable {lookUp : String → Option String} {colors : Role → Option Color}
  {refusal : Role → ThemeError} {role : Role}

/-- The first role without a color, in the order of theme files. -/
def firstUnfit? (colors : Role → Option Color) : Option Role :=
  Role.all.find? fun role => (colors role).isNone

/-- Every role has a color exactly if there is no first one without. -/
theorem firstUnfit?_eq_none_iff :
    firstUnfit? colors = none ↔ ∀ role, ∃ color, colors role = some color := by
  simp only [firstUnfit?, List.find?_eq_none, Role.mem_all, forall_const, Bool.not_eq_true,
    Option.isNone_eq_false_iff, Option.isSome_iff_exists]

/-- Any colors of the roles make a theme. -/
theorem exists_color_eq (color : Role → Color) : ∃ theme : Theme, theme.color = color := by
  refine ⟨⟨color .comment, color .string, color .number, color .keyword, color .operator,
    color .function, color .classSelf, color .namespaceName, color .object, color .font,
    color .selection, color .background, color .menuActiveBackground,
    color .menuActiveForeground⟩, ?_⟩
  funext role
  cases role <;> rfl

/-- In a row of steps the first one that fails decides. -/
theorem mapM_eq_error {α β ε : Type} {step : α → Except ε β} {front : List α} {item : α} {error : ε}
    (fine : ∀ earlier ∈ front, ∃ result, step earlier = .ok result)
    (fails : step item = .error error) (back : List α) :
    (front ++ item :: back).mapM step = .error error := by
  induction front with
  | nil =>
      rw [List.nil_append, List.mapM_cons, fails]
      rfl
  | cons first others inductionHypothesis =>
      obtain ⟨⟨result, here⟩, later⟩ := List.forall_mem_cons.mp fine
      rw [List.cons_append, List.mapM_cons, here, inductionHypothesis later]
      rfl

/-- The colors of a theme are looked up one after the other, in the order of the roles. -/
theorem map_colors_ofLookUp (lookUp : String → Option String) :
    (fun theme : Theme => Role.all.map theme.color) <$> ofLookUp lookUp =
      Role.all.mapM (lookUpColor lookUp) := by
  simp [ofLookUp, Role.all, color]

/-- A look-up gives every role its color, or refuses it for a reason. -/
def Answers (lookUp : String → Option String) (colors : Role → Option Color)
    (refusal : Role → ThemeError) : Prop :=
  ∀ role, lookUpColor lookUp role = (colors role).elim (.error (refusal role)) .ok

/-- A look-up fails at the first role without a color. -/
theorem Answers.ofLookUp_eq_error (answers : Answers lookUp colors refusal)
    (first : firstUnfit? colors = some role) : ofLookUp lookUp = .error (refusal role) := by
  obtain ⟨unfit, front, back, split, fine⟩ := List.find?_eq_some_iff_append.mp first
  have fails : lookUpColor lookUp role = .error (refusal role) := by
    rw [answers role, Option.isNone_iff_eq_none.mp unfit, Option.elim_none]
  have failed : Role.all.mapM (lookUpColor lookUp) = .error (refusal role) := by
    rw [split]
    refine mapM_eq_error (fun earlier member => ?_) fails back
    obtain ⟨color, held⟩ : ∃ color, colors earlier = some color := by
      simpa [Option.isSome_iff_exists] using fine earlier member
    exact ⟨color, by rw [answers earlier, held, Option.elim_some]⟩
  rw [← map_colors_ofLookUp] at failed
  cases whole : ofLookUp lookUp with
  | ok theme => simp [whole] at failed
  | error problem => simpa [whole] using failed

/-- A look-up gives the theme that has all of its colors. -/
theorem Answers.ofLookUp_eq_ok_iff (answers : Answers lookUp colors refusal) {theme : Theme} :
    ofLookUp lookUp = .ok theme ↔ ∀ role, colors role = some (theme.color role) := by
  have found {color : Role → Color} (held : ∀ role, colors role = some (color role)) (role : Role) :
      lookUpColor lookUp role = .ok (color role) := by
    rw [answers role, held role, Option.elim_some]
  constructor
  · intro whole
    cases first : firstUnfit? colors with
    | none =>
        choose color held using firstUnfit?_eq_none_iff.mp first
        obtain ⟨other, rfl⟩ := exists_color_eq color
        rwa [Except.ok.inj (whole.symm.trans (ofLookUp_of_found (found held)))]
    | some role =>
        rw [answers.ofLookUp_eq_error first] at whole
        cases whole
  · exact fun held => ofLookUp_of_found (found held)

/-! ### Two look-ups in one table -/

/-- The color that a table holds for a role: a string that writes it. -/
def stringColor? (table : Toml.Table) (role : Role) : Option Color :=
  ((table.find? role.key).bind Toml.Value.string?).bind Color.ofHex?

/-- Why a document is no theme when it has no color for a role. -/
def refusalByDocument (table : Toml.Table) (role : Role) : ThemeError :=
  match table.find? role.key with
  | none => .missingKey role.key
  | some value => .invalidColor role.key (colorText value)

/-- Why settings hold no theme when they have no color for a role. A value that is no string counts
as missing. -/
def refusalBySettings (table : Toml.Table) (role : Role) : ThemeError :=
  match (table.find? role.key).bind Toml.Value.string? with
  | none => .missingKey role.key
  | some text => .invalidColor role.key text

/-- A document is asked for the strings of its table, and refuses other values as it shows them. -/
theorem answers_document (table : Toml.Table) :
    Answers (fun key => (table.find? key).map colorText) (stringColor? table)
      (refusalByDocument table) := by
  intro role
  rw [lookUpColor, stringColor?, refusalByDocument]
  cases table.find? role.key with
  | none => rfl
  | some value =>
      cases shape : value.string? with
      | none =>
          have shown : colorText value = String.ofList value.standaloneText := by
            cases value with
            | string text => cases shape
            | _ => rfl
          simp only [Option.map_some, Option.bind_some, shape, Option.bind_none, shown,
            Toml.Value.ofHex?_standaloneText shape, Option.elim_none]
      | some text =>
          obtain rfl : value = .string text := by
            cases value with
            | string other => exact congrArg _ (Option.some.inj shape)
            | _ => cases shape
          simp only [Option.map_some, Option.bind_some, shape, colorText]
          cases Color.ofHex? text <;> rfl

/-- Settings are asked for the strings of their table. -/
theorem answers_settings (table : Toml.Table) :
    Answers (Settings.get? ⟨table⟩) (stringColor? table) (refusalBySettings table) := by
  intro role
  rw [lookUpColor, stringColor?, refusalBySettings, Settings.get?, Settings.value?]
  cases (table.find? role.key).bind Toml.Value.string? with
  | none => rfl
  | some text =>
      simp only [Option.bind_some]
      cases Color.ofHex? text <;> rfl

/-- The two readers of themes agree. A text that is no document is refused by both. A document is a
theme exactly if the settings that it writes hold one, which is then the same; it is the theme whose
colors the strings of the document write. Otherwise both name the first role, in the order of theme
files, for which the document has no such string: a value of another type is an invalid color in a
document, and missing from settings. -/
theorem loaders_agree (text : Text) :
    (Toml.parse? text = none →
      parse text = .error .malformed ∧ Settings.parse text = .error .malformedSettings) ∧
    ∀ table, Toml.parse? text = some table → ∃ settings, Settings.parse text = .ok settings ∧
      settings.values = table ∧
      (∀ theme, parse text = .ok theme ↔ settings.theme = .ok theme) ∧
      (∀ theme, parse text = .ok theme ↔
        ∀ role, stringColor? table role = some (theme.color role)) ∧
      ((∃ theme, parse text = .ok theme) ↔ firstUnfit? (stringColor? table) = none) ∧
      ∀ role, firstUnfit? (stringColor? table) = some role →
        parse text = .error (refusalByDocument table role) ∧
        settings.theme = .error (refusalBySettings table role) := by
  refine ⟨fun malformed => ⟨by rw [parse, malformed], by rw [Settings.parse, malformed]⟩,
    fun table read => ⟨⟨table⟩, by rw [Settings.parse, read], rfl, ?_⟩⟩
  have document : parse text = ofLookUp fun key => (table.find? key).map colorText := by
    rw [parse, read]
  have byDocument := answers_document table
  have bySettings := answers_settings table
  have holds {theme : Theme} :
      (ofLookUp fun key => (table.find? key).map colorText) = .ok theme ↔
        ∀ role, stringColor? table role = some (theme.color role) := byDocument.ofLookUp_eq_ok_iff
  rw [document, Settings.theme]
  refine ⟨fun theme => holds.trans bySettings.ofLookUp_eq_ok_iff.symm, fun theme => holds, ?_,
    fun role first => ⟨byDocument.ofLookUp_eq_error first, bySettings.ofLookUp_eq_error first⟩⟩
  rw [firstUnfit?_eq_none_iff]
  constructor
  · rintro ⟨theme, whole⟩ role
    exact ⟨_, holds.mp whole role⟩
  · intro held
    choose color held using held
    obtain ⟨theme, rfl⟩ := exists_color_eq color
    exact ⟨theme, holds.mpr held⟩

/-- A number is shown as no color: the one reader calls it invalid, the other one does not see it. A
key without a value is refused by both. -/
theorem loaders_agree_of_number :
    (Toml.parse? ['='] = none ∧ parse ['='] = .error .malformed ∧
      Settings.parse ['='] = .error .malformedSettings) ∧
    ∃ table settings, Toml.parse? "comment_color = 0".toList = some table ∧
      Settings.parse "comment_color = 0".toList = .ok settings ∧
      parse "comment_color = 0".toList = .error (.invalidColor "comment_color" "0") ∧
      settings.theme = .error (.missingKey "comment_color") := by
  have malformed : Toml.parse? ['='] = none := rfl
  have read : Toml.parse? "comment_color = 0".toList = some [("comment_color", .integer 0)] := rfl
  obtain ⟨settings, written, -, -, -, -, refused⟩ := (loaders_agree _).2 _ read
  exact ⟨⟨malformed, (loaders_agree _).1 malformed⟩,
    _, settings, read, written, refused .comment (by decide +kernel)⟩

end Theme

end Highlighter
