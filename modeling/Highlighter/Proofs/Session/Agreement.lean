import Highlighter.Proofs.Session.FullPass
import Highlighter.Proofs.Session.Incremental

/-!
# The pass after an edit against a full pass

With a line-local tokenizer the pass after an edit leaves the tags of a full pass on every
character, with one exception. The window is found by comparing texts, and the tags follow the
edit itself. Where lines repeat, the two may place the edit differently, and inserted characters
may lie before the window. They keep what they inherited from the text around them
(`Highlighted.tagsAt_passAfter`). So the pass after an insertion agrees with a full pass exactly
when that is right for all of them, and the pass after a deletion always does.
-/

namespace Highlighter

open Token Surface

namespace Surface

/-- Every character but the newlines is covered by the same tags on two surfaces. -/
def SameTags (left right : Surface) : Prop :=
  ∀ index c, left.content[index]? = some c → c ≠ '\n' →
    left.tagsAt (left.positionOf index) = right.tagsAt (right.positionOf index)

/-- The tags that an edit leaves on a character after a full pass: those of the lexeme that held
it, or else those of the lexeme that lay across the place of the edit. -/
theorem Carried.tagsAt_positionOf {before edited : Surface} {place removed : Nat}
    {inserted : Text} {tokens : List Token}
    (carried : Carried before edited place removed inserted)
    (rebuilt : Rebuilt before before tokens) (covers : concat tokens = before.content)
    (valid : edited.Valid) (index : Nat) :
    edited.tagsAt (edited.positionOf index) =
      ((if index < place then kindAt? tokens index
        else if index < place + inserted.length then kindAcross? tokens place
        else kindAt? tokens (index - inserted.length + removed)).map (·.name)).toList := by
  rw [tagsAt_eq_map_marksAt valid.separated, carried.marksAt_positionOf]
  have kept (old : Nat) : (before.marksAt (before.positionOf old)).map (·.1) =
      ((kindAt? tokens old).map (·.name)).toList := by
    rw [← tagsAt_eq_map_marksAt rebuilt.valid.separated, rebuilt.tagsAt_positionOf covers]
  split
  next front => exact kept index
  next =>
    split
    next middle => exact rebuilt.map_marksAcross rebuilt.valid.toLined covers place
    next behind => exact kept _

end Surface

namespace Session

variable {σ τ : Type}

/-- The session after an edit of its surface and the pass at the cursor that follows it, with the
report of the pass. -/
def passAfter (session : Session σ) (edited : Surface) : Session σ × Report :=
  onEdit { session with surface := edited } edited.cursor

/-- A session as a full pass with a line-local tokenizer leaves it. -/
structure Highlighted (session : Session σ) : Prop where
  lineLocal : session.tokenizer.LineLocal
  scope : session.scope = .affectedLines
  snapshot : session.snapshot = session.surface.content
  rebuilt : Rebuilt session.surface session.surface
    (session.tokenizer.lex session.surface.content)

/-- A full pass with a line-local tokenizer leaves a highlighted session. -/
theorem highlighted_fullPass (session : Session σ) (valid : session.surface.Valid)
    (lineLocal : session.tokenizer.LineLocal) (scope : session.scope = .affectedLines) :
    session.fullPass.1.Highlighted ∧
      session.fullPass.1.tokenizer = session.tokenizer ∧
      session.fullPass.1.surface.content = session.surface.content := by
  obtain ⟨surface, configured, same⟩ := session.fields_fullPass
  have complete : session.wholeMapping.complete = true :=
    Mapping.complete_of_covers (lineLocal.covers _) _
  rw [if_pos complete] at same
  have rebuilt := (rebuilt_fullPass session valid).self
  have content := content_congr (rebuilt_fullPass session valid).lines
  rw [same] at rebuilt content ⊢
  rw [← content] at rebuilt
  exact ⟨⟨lineLocal, scope, content.symm, rebuilt⟩, rfl, content⟩

variable {session : Session σ} {edited : Surface} {place removed : Nat} {inserted : Text}

/-- The cursor lies in the window of the pass that follows an edit. -/
theorem window_holds_cursor (session : Session σ) (valid : edited.Valid) :
    let (first, last) := window { session with surface := edited } edited.cursor
    edited.offsetOf (.lineStart first) ≤ edited.offsetOf edited.cursor ∧
      edited.offsetOf edited.cursor ≤ edited.offsetOf (edited.lineEnd last) := by
  have covers := window_covers { session with surface := edited } valid.toLined edited.cursor
  have block := covers.toLineBlock
  have cursorLine := covers.cursorLine
  have inside := valid.cursorInside
  have line := LineBlock.of_inside inside
  have positive := line.positive
  have bounded := line.bounded
  dsimp only at cursorLine
  rw [Nat.min_eq_left bounded, Nat.max_eq_right positive] at cursorLine
  have between := block.between inside cursorLine.1 cursorLine.2
  exact ⟨(offsetOf_le_iff valid.toLined block.startInside inside).mpr between.1,
    (offsetOf_le_iff valid.toLined inside block.stopInside).mpr between.2⟩

section

variable {tokenizer : Tokenizer} (lineLocal : tokenizer.LineLocal) {old : Text}
  {first last index : Nat} {c : Char} (lined : edited.Lined) (block : edited.LineBlock first last)
  (lower : first ≤ (changedLines old edited.content).1)
  (upper : (changedLines old edited.content).2 ≤ last)
  (atIndex : edited.content[index]? = some c) (visible : c ≠ '\n')

include lineLocal lined block lower upper atIndex visible

/-- Before the lines that changed, the characters have the kinds that they had. -/
theorem kindAt?_before_window (before : index < edited.offsetOf (.lineStart first)) :
    kindAt? (tokenizer.lex old) index = kindAt? (tokenizer.lex edited.content) index := by
  have sameLines := lines_content lined
  obtain ⟨⟨oldBack, oldLines⟩, -⟩ :=
    shared_around_changedLines lower upper (sameLines ▸ block.bounded)
  have oldText := (Text.ofLines_lines old).symm
  have newText : edited.content =
      Text.ofLines (edited.lines.take (first - 1) ++ edited.lines.drop (first - 1)) :=
    congrArg Text.ofLines (List.take_append_drop (first - 1) edited.lines).symm
  rw [sameLines] at oldLines
  rw [oldLines] at oldText
  rw [block.offsetOf_start] at before
  exact lineLocal.kindAt?_front oldText newText before atIndex visible

/-- Behind the lines that changed, the characters are shifted and have the kinds that they had. The
window ends with a newline before them. -/
theorem kindAt?_behind_window (behind : edited.offsetOf (edited.lineEnd last) ≤ index) :
    edited.offsetOf (edited.lineEnd last) < index ∧
      kindAt? (tokenizer.lex old) (index + old.length - edited.content.length) =
        kindAt? (tokenizer.lex edited.content) index := by
  have sameLines := lines_content lined
  obtain ⟨-, ⟨oldFront, oldLines⟩⟩ :=
    shared_around_changedLines lower upper (sameLines ▸ block.bounded)
  have oldText := (Text.ofLines_lines old).symm
  have newText : edited.content =
      Text.ofLines (edited.lines.take last ++ edited.lines.drop last) :=
    congrArg Text.ofLines (List.take_append_drop last edited.lines).symm
  have stop := block.offsetOf_stop
  rw [sameLines] at oldLines
  rw [oldLines] at oldText
  have beyond : edited.offsetOf (edited.lineEnd last) < index := by
    by_cases atStop : index < (Text.opening (edited.lines.take last)).length
    · -- The only character left between the window and the lines behind it is a newline.
      have inFront := Text.getElem?_of_lt_length_opening atStop (newText ▸ atIndex) visible
      omega
    · omega
  obtain ⟨further, rfl⟩ : ∃ further,
      index = (Text.opening (edited.lines.take last)).length + further :=
    ⟨index - (Text.opening (edited.lines.take last)).length, by omega⟩
  obtain ⟨backLines, -⟩ := Text.getElem?_of_length_opening_le (newText ▸ atIndex)
  have oldLength := congrArg List.length oldText
  have newLength := congrArg List.length newText
  rw [Text.ofLines_append_eq_opening _ backLines, List.length_append] at oldLength newLength
  refine ⟨beyond, ?_⟩
  rw [← lineLocal.kindAt?_back oldText newText atIndex visible]
  congr 1
  omega

omit lined lower upper in
/-- Inside of the lines, a character has the kind that it has in their own text. -/
theorem kindAt?_in_window {further : Nat}
    (inside : index = edited.offsetOf (.lineStart first) + further)
    (within : further < (blockText edited first last).length) :
    kindAt? (tokenizer.lex edited.content) index =
      kindAt? (tokenizer.lex (blockText edited first last)) further := by
  subst inside
  have inBlock : (blockText edited first last)[further]? = some c := by
    obtain ⟨rest, split⟩ := blockText_isFront edited first last
    rwa [← List.getElem?_drop, ← split, List.getElem?_append_left within] at atIndex
  have whole : edited.content = Text.ofLines (edited.lines.take (first - 1) ++
      (edited.lines.take last).drop (first - 1) ++ edited.lines.drop last) := by
    rw [← block.take_eq_append, List.take_append_drop]
    rfl
  rw [blockText, block.text_eq_ofLines] at inBlock ⊢
  rw [whole, block.offsetOf_start]
  exact lineLocal.kindAt?_lines _ _ _ inBlock visible

omit lower upper in
/-- Inside of the window the pass after an edit tags every character with its kind in the whole
text. -/
theorem tagsAt_in_window {after : Surface}
    (retagged : Retagged edited after first last (tokenizer.lex (blockText edited first last)))
    (start : edited.offsetOf (.lineStart first) ≤ index)
    (stop : index < edited.offsetOf (edited.lineEnd last)) :
    after.tagsAt (edited.positionOf index) =
      ((kindAt? (tokenizer.lex edited.content) index).map (·.name)).toList := by
  obtain ⟨further, inside⟩ := Nat.exists_eq_add_of_le start
  have length := length_blockText lined block
  have within : further < (blockText edited first last).length := by omega
  have whole := divergence_of_covers (lineLocal.covers (blockText edited first last))
  obtain ⟨first, token, stamp, found, -, same⟩ := retagged.tagged (whole ▸ within)
  rw [placeIn, ← inside] at same
  rw [kindAt?_in_window lineLocal block atIndex visible inside within, kindAt?, found,
    tagsAt_eq_map_marksAt retagged.valid.separated, same]
  rfl

end

/-- The tags that an edit and the pass after it leave on a character, if the tags of the edit are
those of a full pass. It is tagged as a full pass over the new text would tag it, unless it was
inserted and lies before the window. Then it has the tags of the lexeme that lay across the place
of the edit. -/
def expectedTags (session : Session σ) (edited : Surface) (place index : Nat) : List String :=
  ((if place ≤ index ∧
        index < edited.offsetOf (.lineStart (session.passAfter edited).2.firstLine) then
      kindAcross? (session.tokenizer.lex session.surface.content) place
    else kindAt? (session.tokenizer.lex edited.content) index).map (·.name)).toList

/-- A pass that has nothing to do reports the line of the cursor. -/
theorem passAfter_of_unchanged (unchanged : edited.content = session.snapshot) :
    session.passAfter edited = ({ session with surface := edited },
      ⟨.skipped, edited.cursor.line, edited.cursor.line, 0, true⟩) :=
  if_pos unchanged

/-- Otherwise it reports the window. -/
theorem firstLine_passAfter (valid : edited.Valid) (changed : edited.content ≠ session.snapshot) :
    (session.passAfter edited).2.firstLine =
      (window { session with surface := edited } edited.cursor).1 := by
  rw [passAfter, onEdit_of_changed { session with surface := edited } valid changed]

/-- The lines that a pass reports start before the cursor. -/
theorem offsetOf_firstLine_le (session : Session σ) (valid : edited.Valid) :
    edited.offsetOf (.lineStart (session.passAfter edited).2.firstLine) ≤
      edited.offsetOf edited.cursor := by
  by_cases unchanged : edited.content = session.snapshot
  · have block := LineBlock.of_inside valid.cursorInside
    rw [passAfter_of_unchanged unchanged]
    exact (offsetOf_le_iff valid.toLined block.startInside valid.cursorInside).mpr
      (block.between valid.cursorInside (Nat.le_refl _) (Nat.le_refl _)).1
  · rw [firstLine_passAfter valid unchanged]
    exact (window_holds_cursor session valid).1

/-- When an edit leaves the text as it was, no character has another tag than before. -/
theorem Highlighted.tagsAt_skipped (highlighted : session.Highlighted)
    (carried : Carried session.surface edited place removed inserted) (valid : edited.Valid)
    (oneSided : removed = 0 ∨ inserted = []) (unchanged : edited.content = session.snapshot)
    (index : Nat) :
    edited.tagsAt (edited.positionOf index) = session.expectedTags edited place index := by
  have sameContent := unchanged.trans highlighted.snapshot
  have length := carried.length_content
  rw [sameContent] at length
  have nothingInserted : inserted.length = 0 := by
    rcases oneSided with none | none
    · omega
    · exact congrArg List.length none
  have beforeCursor := offsetOf_firstLine_le session valid
  rw [carried.offsetOf_cursor valid.nonempty] at beforeCursor
  have outside : ¬(place ≤ index ∧
      index < edited.offsetOf (.lineStart (session.passAfter edited).2.firstLine)) := by omega
  rw [carried.tagsAt_positionOf highlighted.rebuilt (highlighted.lineLocal.covers _) valid index,
    expectedTags, sameContent, if_neg outside]
  split
  next => rfl
  next => rw [if_neg (by omega), show index - inserted.length + removed = index by omega]

/-- When an edit changes the text, the pass that follows it leaves the expected tags. -/
theorem Highlighted.tagsAt_changed (highlighted : session.Highlighted)
    (carried : Carried session.surface edited place removed inserted) (valid : edited.Valid)
    (changed : edited.content ≠ session.snapshot) {index : Nat} {c : Char}
    (atIndex : edited.content[index]? = some c) (visible : c ≠ '\n') :
    (session.passAfter edited).1.surface.tagsAt (edited.positionOf index) =
      session.expectedTags edited place index := by
  have covers := window_covers { session with surface := edited } valid.toLined edited.cursor
  have retagged := retagged_onEdit { session with surface := edited } valid changed edited.cursor
  have cursor := window_holds_cursor session valid
  have old := carried.tagsAt_positionOf highlighted.rebuilt (highlighted.lineLocal.covers _) valid
    index
  rw [expectedTags, firstLine_passAfter valid changed]
  change Retagged edited (session.passAfter edited).1.surface _ _ _ at retagged
  generalize (session.passAfter edited).1.surface = after at retagged ⊢
  generalize window { session with surface := edited } edited.cursor = lines at *
  obtain ⟨first, last⟩ := lines
  dsimp only at *
  have block := covers.toLineBlock
  have compared := covers.changed highlighted.scope
  dsimp only at block compared
  rw [highlighted.snapshot] at compared
  rw [carried.offsetOf_cursor valid.nonempty] at cursor
  by_cases early : index < edited.offsetOf (.lineStart first)
  · rw [retagged.tagsAt_outside valid block (.inl early), old]
    by_cases front : index < place
    · rw [if_pos front, if_neg (by omega), kindAt?_before_window highlighted.lineLocal
        valid.toLined block compared.1 compared.2 atIndex visible early]
    · rw [if_neg front, if_pos (by omega), if_pos (by omega)]
  · rw [if_neg (by omega)]
    by_cases late : edited.offsetOf (edited.lineEnd last) ≤ index
    · obtain ⟨beyond, kind⟩ := kindAt?_behind_window highlighted.lineLocal valid.toLined block
        compared.1 compared.2 atIndex visible late
      have length := carried.length_content
      rw [retagged.tagsAt_outside valid block (.inr late), old, if_neg (by omega),
        if_neg (by omega), ← kind]
      congr 4
      omega
    · exact tagsAt_in_window highlighted.lineLocal valid.toLined block atIndex visible retagged
        (Nat.not_lt.mp early) (Nat.not_le.mp late)

/-- The pass after an edit leaves the text as it is. -/
theorem lines_passAfter (session : Session σ) (edited : Surface) :
    (session.passAfter edited).1.surface.lines = edited.lines :=
  lines_onEdit { session with surface := edited } edited.cursor

/-- After an insertion or a deletion and the pass that follows it, every character but the
newlines has the expected tags. -/
theorem Highlighted.tagsAt_passAfter (highlighted : session.Highlighted)
    (carried : Carried session.surface edited place removed inserted) (valid : edited.Valid)
    (oneSided : removed = 0 ∨ inserted = []) {index : Nat} {c : Char}
    (atIndex : edited.content[index]? = some c) (visible : c ≠ '\n') :
    (session.passAfter edited).1.surface.tagsAt
        ((session.passAfter edited).1.surface.positionOf index) =
      session.expectedTags edited place index := by
  rw [positionOf_congr (lines_passAfter session edited)]
  by_cases unchanged : edited.content = session.snapshot
  · rw [← highlighted.tagsAt_skipped carried valid oneSided unchanged,
      passAfter_of_unchanged unchanged]
  · exact highlighted.tagsAt_changed carried valid unchanged atIndex visible

/-- The surface that a full pass of a fresh session makes of a text. -/
def freshSurface (fresh : Session τ) (text : Text) : Surface :=
  { fresh with surface := .ofText text }.fullPass.1.surface

/-- A full pass over a text tags every character with its kind in the text. -/
theorem tagsAt_freshSurface {fresh : Session τ} (covers : ∀ text, fresh.tokenizer.Covers text)
    (text : Text) (index : Nat) :
    (freshSurface fresh text).tagsAt ((freshSurface fresh text).positionOf index) =
      ((kindAt? (fresh.tokenizer.lex text) index).map (·.name)).toList := by
  have whole : (Surface.ofText text).content = text := Text.ofLines_lines text
  have done := rebuilt_fullPass { fresh with surface := .ofText text } (.ofText text)
  rw [freshSurface, done.tagsAt_positionOf (covers _)]
  dsimp only
  rw [whole]

/-- Kinds that lead to the same tags are the same. -/
theorem toList_map_name_inj {left right : Option TokenKind} :
    (left.map (·.name)).toList = (right.map (·.name)).toList ↔ left = right := by
  rcases left with _ | ⟨⟨left⟩⟩ <;> rcases right with _ | ⟨⟨right⟩⟩ <;> simp

/-- The pass after an edit agrees with a full pass when the inserted characters before its lines
have the kind of the lexeme that lay across the place of the edit. -/
theorem Highlighted.sameTags_iff (highlighted : session.Highlighted) {fresh : Session τ}
    (sameTokenizer : fresh.tokenizer = session.tokenizer)
    (carried : Carried session.surface edited place removed inserted) (valid : edited.Valid)
    (oneSided : removed = 0 ∨ inserted = []) :
    SameTags (session.passAfter edited).1.surface (freshSurface fresh edited.content) ↔
      ∀ index c, edited.content[index]? = some c → c ≠ '\n' → place ≤ index →
        index < edited.offsetOf (.lineStart (session.passAfter edited).2.firstLine) →
          kindAcross? (session.tokenizer.lex session.surface.content) place =
            kindAt? (session.tokenizer.lex edited.content) index := by
  have covers : ∀ text, fresh.tokenizer.Covers text :=
    sameTokenizer ▸ highlighted.lineLocal.covers
  rw [SameTags, content_congr (lines_passAfter session edited)]
  constructor
  · intro same index c atIndex visible lower upper
    have tags := same index c atIndex visible
    rw [highlighted.tagsAt_passAfter carried valid oneSided atIndex visible, expectedTags,
      if_pos ⟨lower, upper⟩, tagsAt_freshSurface covers, sameTokenizer] at tags
    exact toList_map_name_inj.mp tags
  · intro right index c atIndex visible
    rw [highlighted.tagsAt_passAfter carried valid oneSided atIndex visible, expectedTags,
      tagsAt_freshSurface covers, sameTokenizer]
    split
    next before => rw [right index c atIndex visible before.1 before.2]
    next => rfl

/-- The pass after a deletion agrees with a full pass: nothing is inserted that could be wrong. -/
theorem Highlighted.sameTags_delete (highlighted : session.Highlighted) {fresh : Session τ}
    (sameTokenizer : fresh.tokenizer = session.tokenizer) (start stop : Position) :
    SameTags (session.passAfter (session.surface.delete start stop)).1.surface
      (freshSurface fresh (session.surface.delete start stop).content) := by
  have valid := highlighted.rebuilt.valid
  by_cases ordered : session.surface.offsetOf start < session.surface.offsetOf stop
  · have carried := valid.carried_delete ordered
    have deleted := valid.delete start stop
    apply (highlighted.sameTags_iff sameTokenizer carried deleted (.inr rfl)).mpr
    intro index c atIndex visible lower upper
    have bounded := offsetOf_firstLine_le session deleted
    rw [carried.offsetOf_cursor deleted.nonempty, List.length_nil] at bounded
    omega
  · have kept : session.surface.delete start stop = session.surface := if_neg ordered
    rw [kept, passAfter_of_unchanged highlighted.snapshot.symm]
    intro index c atIndex visible
    rw [highlighted.rebuilt.tagsAt_positionOf (highlighted.lineLocal.covers _),
      tagsAt_freshSurface (sameTokenizer ▸ highlighted.lineLocal.covers), sameTokenizer]

/-- The pass after an insertion leaves the tags of a full pass exactly when every inserted
character before its lines, newlines aside, has the kind of the lexeme that lay across the place of
the insertion. The pass after a deletion always leaves the tags of a full pass. -/
theorem passAfter_agrees_iff (session : Session σ) (fresh : Session τ)
    (valid : session.surface.Valid) (lineLocal : session.tokenizer.LineLocal)
    (scope : session.scope = .affectedLines) (sameTokenizer : fresh.tokenizer = session.tokenizer) :
    (∀ position text,
      let done := session.fullPass.1
      let edited := done.surface.insert position text
      let (after, report) := done.passAfter edited
      SameTags after.surface (freshSurface fresh edited.content) ↔
        ∀ index c, edited.content[index]? = some c → c ≠ '\n' →
          done.surface.offsetOf position ≤ index →
          index < edited.offsetOf (.lineStart report.firstLine) →
            kindAcross? (session.tokenizer.lex session.surface.content)
                (done.surface.offsetOf position) =
              kindAt? (session.tokenizer.lex edited.content) index) ∧
    ∀ start stop,
      let done := session.fullPass.1
      let edited := done.surface.delete start stop
      SameTags (done.passAfter edited).1.surface (freshSurface fresh edited.content) := by
  obtain ⟨highlighted, tokenizer, content⟩ := highlighted_fullPass session valid lineLocal scope
  have doneValid := highlighted.rebuilt.valid
  constructor
  · intro position text
    have agrees := highlighted.sameTags_iff (sameTokenizer.trans tokenizer.symm)
      (doneValid.carried_insert position text) (doneValid.insert position text) (.inl rfl)
    rw [tokenizer, content] at agrees
    exact agrees
  · intro start stop
    exact highlighted.sameTags_delete (sameTokenizer.trans tokenizer.symm) start stop

/-- A line end that is pasted inside of a word splits a lexeme, and the half before the window
keeps its tag. -/
theorem passAfter_agrees_on_split_word :
    let done := (bare (.ofText ['a', 'b']) .plainText).fullPass.1
    let edited := done.surface.insert ⟨1, 1⟩ ['b', '\n', 'a']
    (done.passAfter edited).2.firstLine = 2 ∧
      SameTags (done.passAfter edited).1.surface
        (freshSurface (bare .empty .plainText) edited.content) := by
  refine ⟨by decide, ?_⟩
  have agrees := passAfter_agrees_iff (bare (.ofText ['a', 'b']) .plainText)
    (bare .empty .plainText) (.ofText _) Tokenizer.lineLocal_plainText rfl rfl
  apply (agrees.1 ⟨1, 1⟩ ['b', '\n', 'a']).mpr
  intro index c atIndex visible lower upper
  have window : index < 3 := upper
  match index, window with
  | 0, _ => exact absurd lower (by decide)
  | 1, _ => decide
  | 2, _ => exact absurd (Option.some.inj atIndex).symm visible

/-- A copy of a line that is pasted before the line lies before the window, where it was inserted
into no lexeme: it stays without a tag. -/
theorem pasted_line_stays_untagged :
    let session := (bare (.ofText ['a']) .plainText).fullPass.1
    let edited := session.surface.insert .start ['a', '\n']
    Tokenizer.plainText.LineLocal ∧
      ¬SameTags (session.passAfter edited).1.surface
        (freshSurface (bare .empty .plainText) edited.content) := by
  refine ⟨Tokenizer.lineLocal_plainText, fun same => ?_⟩
  have tags := same 0 'a' (by decide) (by decide)
  exact absurd tags (by decide)

end Session

end Highlighter
