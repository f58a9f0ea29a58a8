import Highlighter.Render

/-!
# A terminal

A terminal reads a text character by character. It shows each character with the attributes that are
set when it comes, except that an escape sequence changes the attributes and shows nothing. What a
terminal does with two texts one behind the other is what it does with the first and then with the
second (`Shows.append`), so what a text shows is put together from its parts: plain text
(`shows_plain`), escape sequences by their parameters (`shows_escape`).
-/

namespace Highlighter.Terminal

/-- How a character is shown. Without any attribute set, everything is cleared. -/
structure Attributes where
  foreground : Option Color := none
  dim : Bool := false
  bold : Bool := false
  italic : Bool := false
  underlined : Bool := false
  deriving DecidableEq, Repr

/-- A character as it is shown. -/
structure Cell where
  char : Char
  attributes : Attributes
  deriving DecidableEq, Repr

/-- What has been read of an escape sequence. -/
inductive Reading where
  /-- Nothing: what comes is text. -/
  | text
  /-- The character that begins the sequence. -/
  | escape
  /-- Parameters, and the digits of the last one. -/
  | parameters (before : List Nat) (last : Nat)
  deriving DecidableEq, Repr

/-- The attributes behind a sequence with the given parameters. Zero clears all attributes; a
parameter that is none of those below changes nothing. -/
def Attributes.select (attributes : Attributes) : List Nat → Attributes
  | [] => attributes
  | 38 :: 2 :: red :: green :: blue :: others =>
    select { attributes with
      foreground := some ⟨UInt8.ofNat red, UInt8.ofNat green, UInt8.ofNat blue⟩ } others
  | parameter :: others =>
    match parameter with
    | 0 => select {} others
    | 1 => select { attributes with bold := true } others
    | 2 => select { attributes with dim := true } others
    | 3 => select { attributes with italic := true } others
    | 4 => select { attributes with underlined := true } others
    | _ => select attributes others

end Terminal

/-- A terminal between two characters. -/
structure Terminal where
  attributes : Terminal.Attributes := {}
  reading : Terminal.Reading := .text
  deriving DecidableEq, Repr

namespace Terminal

/-- The terminal behind a character, and what it shows of it. -/
def step (terminal : Terminal) (c : Char) : Terminal × List Cell :=
  match terminal.reading with
  | .text =>
    if c = '\x1b' then ({ terminal with reading := .escape }, [])
    else (terminal, [⟨c, terminal.attributes⟩])
  | .escape =>
    if c = '[' then ({ terminal with reading := .parameters [] 0 }, [])
    else ({ terminal with reading := .text }, [])
  | .parameters before last =>
    if c.isDigit then
      ({ terminal with reading := .parameters before (10 * last + (c.toNat - '0'.toNat)) }, [])
    else if c = ';' then ({ terminal with reading := .parameters (before ++ [last]) 0 }, [])
    else if c = 'm' then
      ({ attributes := terminal.attributes.select (before ++ [last]), reading := .text }, [])
    else ({ terminal with reading := .text }, [])

/-- The terminal behind a text, and what it shows of it. -/
def run (terminal : Terminal) : Text → Terminal × List Cell
  | [] => (terminal, [])
  | c :: rest =>
    let (next, shown) := terminal.step c
    let (last, others) := next.run rest
    (last, shown ++ others)

/-- A terminal shows the cells for a text and is then in another state. -/
def Shows (before : Terminal) (text : Text) (behind : Terminal) (cells : List Cell) : Prop :=
  before.run text = (behind, cells)

instance (before : Terminal) (text : Text) (behind : Terminal) (cells : List Cell) :
    Decidable (Shows before text behind cells) :=
  inferInstanceAs (Decidable (before.run text = (behind, cells)))

/-- Characters that are shown with the same attributes. -/
def cellsWith (attributes : Attributes) (text : Text) : List Cell :=
  text.map fun c => ⟨c, attributes⟩

namespace Shows

variable {first middle last : Terminal} {front back : Text} {frontCells backCells : List Cell}

theorem nil : Shows first [] first [] := rfl

theorem cons {c : Char} {cells : List Cell} (head : first.step c = (middle, cells))
    (tail : Shows middle back last backCells) :
    Shows first (c :: back) last (cells ++ backCells) := by
  rw [Shows, run, head]
  dsimp only
  rw [tail]

theorem append (left : Shows first front middle frontCells)
    (right : Shows middle back last backCells) :
    Shows first (front ++ back) last (frontCells ++ backCells) := by
  induction front generalizing first frontCells with
  | nil =>
      obtain ⟨rfl, rfl⟩ := Prod.mk.inj left
      exact right
  | cons c front inductionHypothesis =>
      obtain ⟨rfl, rfl⟩ := Prod.mk.inj left
      rw [List.append_assoc]
      exact cons rfl (inductionHypothesis rfl)

/-- Texts that a terminal begins and ends in the same state are shown one after the other. -/
theorem flatMap {ι : Type} {items : List ι} {printed : ι → Text} {cells : ι → List Cell}
    (each : ∀ item ∈ items, Shows first (printed item) first (cells item)) :
    Shows first (items.flatMap printed) first (items.flatMap cells) := by
  induction items with
  | nil => exact nil
  | cons item items inductionHypothesis =>
      obtain ⟨here, later⟩ := List.forall_mem_cons.mp each
      exact here.append (inductionHypothesis later)

end Shows

/-- Text without escapes is shown as it is. -/
theorem shows_plain (attributes : Attributes) {text : Text} (plain : '\x1b' ∉ text) :
    Shows ⟨attributes, .text⟩ text ⟨attributes, .text⟩ (cellsWith attributes text) := by
  induction text with
  | nil => exact .nil
  | cons c text inductionHypothesis =>
      rw [List.mem_cons, not_or] at plain
      have head : step ⟨attributes, .text⟩ c = (⟨attributes, .text⟩, [⟨c, attributes⟩]) :=
        if_neg (Ne.symm plain.1)
      exact .cons head (inductionHypothesis plain.2)

/-! ### Escape sequences -/

/-- Parameters as they are written. -/
def parameterText : List Nat → Text
  | [] => []
  | [parameter] => Nat.toDigits 10 parameter
  | parameter :: others => Nat.toDigits 10 parameter ++ ';' :: parameterText others

/-- Digits are read as the digits of the last parameter. -/
theorem shows_digits (attributes : Attributes) (before : List Nat) (last : Nat) {digits : Text}
    (decimal : ∀ c ∈ digits, c.isDigit = true) :
    Shows ⟨attributes, .parameters before last⟩ digits
      ⟨attributes, .parameters before (Nat.ofDigitChars 10 digits last)⟩ [] := by
  induction digits generalizing last with
  | nil => exact .nil
  | cons c digits inductionHypothesis =>
      obtain ⟨digit, others⟩ := List.forall_mem_cons.mp decimal
      have head : step ⟨attributes, .parameters before last⟩ c =
          (⟨attributes, .parameters before (10 * last + (c.toNat - '0'.toNat))⟩, []) :=
        if_pos digit
      exact .cons head (inductionHypothesis _ others)

theorem shows_number (attributes : Attributes) (before : List Nat) (number : Nat) :
    Shows ⟨attributes, .parameters before 0⟩ (Nat.toDigits 10 number)
      ⟨attributes, .parameters before number⟩ [] := by
  have read := shows_digits attributes before 0 fun c (member : c ∈ Nat.toDigits 10 number) =>
    Nat.isDigit_of_mem_toDigits (by decide) (by decide) member
  rwa [Nat.ofDigitChars_ten_toDigits] at read

/-- Parameters are read one by one. -/
theorem shows_parameters (attributes : Attributes) (before : List Nat) (parameter : Nat)
    (others : List Nat) :
    Shows ⟨attributes, .parameters before 0⟩ (parameterText (parameter :: others) ++ ['m'])
      ⟨attributes.select (before ++ parameter :: others), .text⟩ [] := by
  induction others generalizing before parameter with
  | nil => exact (shows_number attributes before parameter).append (.cons rfl .nil)
  | cons next others inductionHypothesis =>
      have rest := inductionHypothesis (before ++ [parameter]) next
      rw [List.append_assoc, List.singleton_append] at rest
      rw [parameterText, List.append_assoc]
      · exact (shows_number attributes before parameter).append (.cons rfl rest)
      · simp

/-- An escape sequence shows nothing and selects its parameters. -/
theorem shows_escape (attributes : Attributes) (parameter : Nat) (others : List Nat)
    {parameters : String} (written : parameters.toList = parameterText (parameter :: others)) :
    Shows ⟨attributes, .text⟩ (Render.escape parameters)
      ⟨attributes.select (parameter :: others), .text⟩ [] := by
  rw [Render.escape, written]
  exact .cons rfl (.cons rfl (shows_parameters attributes [] parameter others))

example : Shows {} (Render.escape "1;38;2;255;0;16" ++ ['a'])
    ⟨{ foreground := some ⟨255, 0, 16⟩, bold := true }, .text⟩
    [⟨'a', { foreground := some ⟨255, 0, 16⟩, bold := true }⟩] := by
  decide

end Terminal

end Highlighter
