import Highlighter.Text.Cursor

/-!
# Moving a cursor

Going forward is an action of numbers on cursors: `Cursor.advance_add` takes a way apart, and the
end of the text stays where it is. `Cursor.atOffset` reaches every place of a text from its start,
so a cursor that is moved from one place of a text is another place of it.
-/

namespace Highlighter.Cursor

@[simp] theorem advance_zero (cursor : Cursor) : cursor.advance 0 = cursor := by
  rw [advance]

/-- At the end of the text there is nowhere to go. -/
theorem advance_of_rest_eq_nil {cursor : Cursor} (ended : cursor.rest = []) (count : Nat) :
    cursor.advance count = cursor := by
  obtain ⟨offset, before, _⟩ := cursor
  subst ended
  cases count <;> rfl

/-- A step leads over the first character of the rest. -/
theorem advance_succ_of_rest_eq_cons {cursor : Cursor} {c : Char} {rest : Text}
    (more : cursor.rest = c :: rest) (count : Nat) :
    cursor.advance (count + 1) = advance ⟨cursor.offset + 1, some c, rest⟩ count := by
  obtain ⟨offset, before, _⟩ := cursor
  subst more
  rfl

/-- Going twice is going once, over both distances. -/
theorem advance_add (cursor : Cursor) (first second : Nat) :
    (cursor.advance first).advance second = cursor.advance (first + second) := by
  induction first generalizing cursor with
  | zero => rw [advance_zero, Nat.zero_add]
  | succ first inductionHypothesis =>
      cases shape : cursor.rest with
      | nil => simp only [advance_of_rest_eq_nil shape]
      | cons c rest =>
          rw [advance_succ_of_rest_eq_cons shape, inductionHypothesis, Nat.succ_add,
            ← advance_succ_of_rest_eq_cons shape]

/-- What was passed is no longer part of the rest. -/
@[simp] theorem rest_advance (cursor : Cursor) (count : Nat) :
    (cursor.advance count).rest = cursor.rest.drop count := by
  induction count generalizing cursor with
  | zero => simp
  | succ count inductionHypothesis =>
      cases shape : cursor.rest with
      | nil => simp [advance_of_rest_eq_nil shape, shape]
      | cons c rest => simp [advance_succ_of_rest_eq_cons shape, inductionHypothesis]

/-- A cursor goes as far as it is told, at most to the end of the text. -/
theorem offset_advance (cursor : Cursor) (count : Nat) :
    (cursor.advance count).offset = cursor.offset + min count cursor.rest.length := by
  induction count generalizing cursor with
  | zero => simp
  | succ count inductionHypothesis =>
      cases shape : cursor.rest with
      | nil => simp [advance_of_rest_eq_nil shape]
      | cons c rest =>
          rw [advance_succ_of_rest_eq_cons shape, inductionHypothesis, List.length_cons]
          dsimp only
          omega

/-- The end of the text stays where it is. -/
@[simp] theorem limit_advance (cursor : Cursor) (count : Nat) :
    (cursor.advance count).limit = cursor.limit := by
  rw [limit, limit, rest_advance, offset_advance, List.length_drop]
  omega

/-- Behind a part of the rest stands what follows it. -/
theorem rest_advance_of_split {cursor : Cursor} {part rest : Text}
    (split : cursor.rest = part ++ rest) : (cursor.advance part.length).rest = rest := by
  rw [rest_advance, split, List.drop_left]

/-- A part of the rest is passed as a whole. -/
theorem offset_advance_of_split {cursor : Cursor} {part rest : Text}
    (split : cursor.rest = part ++ rest) :
    (cursor.advance part.length).offset = cursor.offset + part.length := by
  rw [offset_advance, split, List.length_append, Nat.min_eq_left (Nat.le_add_right ..)]

/-- Behind a part of the rest the last character of it is seen. -/
theorem before_advance {cursor : Cursor} {part rest : Text} (split : cursor.rest = part ++ rest) :
    (cursor.advance part.length).before = part.getLast?.or cursor.before := by
  induction part generalizing cursor with
  | nil => simp
  | cons c part inductionHypothesis =>
      rw [List.length_cons, advance_succ_of_rest_eq_cons split, List.getLast?_cons]
      refine (@inductionHypothesis ⟨cursor.offset + 1, some c, part ++ rest⟩ rfl).trans ?_
      cases part.getLast? <;> rfl

/-! ### Places of a text -/

@[simp] theorem rest_atOffset (text : Text) (place : Nat) :
    (atOffset text place).rest = text.drop place :=
  rest_advance (start text) place

@[simp] theorem limit_atOffset (text : Text) (place : Nat) :
    (atOffset text place).limit = text.length := by
  rw [atOffset, limit_advance, limit, start, Nat.zero_add]

/-- A place of a text that exists lies behind as many characters. -/
theorem offset_atOffset {text : Text} {place : Nat} (bounded : place ≤ text.length) :
    (atOffset text place).offset = place := by
  rw [atOffset, offset_advance, start, Nat.zero_add, Nat.min_eq_left bounded]

/-- At a place of a text the last character before it is seen. -/
theorem before_atOffset (text : Text) (place : Nat) :
    (atOffset text place).before = (text.take place).getLast? := by
  induction place with
  | zero => rfl
  | succ place inductionHypothesis =>
      have next : atOffset text (place + 1) = (atOffset text place).advance 1 :=
        (advance_add (start text) place 1).symm
      rw [next]
      cases shape : (atOffset text place).rest with
      | nil =>
          rw [advance_of_rest_eq_nil shape, inductionHypothesis]
          rw [rest_atOffset, List.drop_eq_nil_iff] at shape
          rw [List.take_of_length_le shape, List.take_of_length_le (by omega)]
      | cons c rest =>
          rw [advance_succ_of_rest_eq_cons shape, advance_zero]
          rw [rest_atOffset] at shape
          have here : text[place]? = some c := by
            rw [← List.head?_drop, shape]
            rfl
          rw [List.take_add_one, here]
          simp

/-- A place behind another one is reached from it. -/
theorem advance_atOffset (text : Text) (place count : Nat) :
    (atOffset text place).advance count = atOffset text (place + count) :=
  advance_add (start text) place count

/-- A cursor that goes from one place up to another one stands there. -/
theorem advance_atOffset_sub {text : Text} {place stop : Nat} (bounded : place ≤ text.length)
    (ordered : place ≤ stop) :
    (atOffset text place).advance (stop - (atOffset text place).offset) = atOffset text stop := by
  rw [offset_atOffset bounded, advance_atOffset, Nat.add_sub_cancel' ordered]

/-! ### Further characters in front -/

/-- The same place in a text in front of which `distance` further characters stand. -/
def moved (cursor : Cursor) (distance : Nat) : Cursor :=
  { cursor with offset := distance + cursor.offset }

theorem advance_moved (cursor : Cursor) (distance count : Nat) :
    (cursor.moved distance).advance count = (cursor.advance count).moved distance := by
  induction count generalizing cursor with
  | zero => simp
  | succ count inductionHypothesis =>
      cases shape : cursor.rest with
      | nil => rw [advance_of_rest_eq_nil shape, advance_of_rest_eq_nil (by rwa [moved])]
      | cons c rest =>
          rw [advance_succ_of_rest_eq_cons shape, ← inductionHypothesis,
            @advance_succ_of_rest_eq_cons (cursor.moved distance) c rest shape]
          rfl

theorem limit_moved (cursor : Cursor) (distance : Nat) :
    (cursor.moved distance).limit = distance + cursor.limit :=
  Nat.add_assoc ..

end Highlighter.Cursor
