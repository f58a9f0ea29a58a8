import Highlighter.Proofs.Session.Agreement
import Highlighter.Proofs.Session.Rebuilding
import Highlighter.Proofs.Surface.Owning

/-!
# What a skipped pass leaves

A pass after edits is skipped when they have led back to the text of the last full pass, whatever
they have done to the tags on the way. `Session.skipped_pass_keeps_lexemes` says which tags are
left then: each character has the tag of the lexeme to which the edits have made it belong. A
character that is typed again belongs to the lexeme inside of which it is typed, and a text that is
loaded again belongs to none.
-/

namespace Highlighter

open Token Surface

namespace Token

/-- The lexeme of every character of a stream, with the offset at which it starts. -/
def lexemes (tokens : List Token) : List (Option (Nat × Token)) :=
  (List.range (concat tokens).length).map (holding? tokens)

theorem join_getElem?_lexemes (tokens : List Token) (index : Nat) :
    (lexemes tokens)[index]?.join = holding? tokens index := by
  rw [lexemes, List.getElem?_map]
  by_cases within : index < (concat tokens).length
  · simp [within]
  · have nothing : holding? tokens index = none := by
      cases found : holding? tokens index with
      | none => rfl
      | some lexeme => exact absurd (lt_of_holding? found) within
    simp [within, nothing]

/-- A lexeme holds its first character. -/
theorem holding?_start {tokens : List Token} {index start : Nat} {token : Token}
    (found : holding? tokens index = some (start, token)) :
    holding? tokens start = some (start, token) := by
  obtain ⟨front, back, split, atStart, lower, upper⟩ := holding?_eq_some_iff.mp found
  exact holding?_eq_some_iff.mpr ⟨front, back, split, atStart, le_rfl, by omega⟩

end Token

namespace Surface

variable {surface : Surface} {tokens : List Token}

/-- The mark of a lexeme: its kind, with the stamp of the range that holds its first character. -/
def lexemeMark (surface : Surface) (lexeme : Nat × Token) : String × Nat :=
  (lexeme.2.kind.name,
    ((surface.marksAt (surface.positionOf lexeme.1)).head?.map (·.2)).getD 0)

/-- A lexeme of the text ends in the text. -/
theorem stop_le_of_holding? (covers : concat tokens = surface.content) {index start : Nat}
    {token : Token} (found : holding? tokens index = some (start, token)) :
    start + token.text.length ≤ surface.content.length := by
  obtain ⟨front, back, rfl, rfl, -, -⟩ := holding?_eq_some_iff.mp found
  rw [← covers]
  simp

/-- After a full pass a character is held by one range, which is laid on its lexeme. -/
theorem Rebuilt.exists_stamp (rebuilt : Rebuilt surface surface tokens)
    (covers : concat tokens = surface.content) {index start : Nat} {token : Token}
    (found : holding? tokens index = some (start, token)) :
    ∃ stamp, surface.holdersAt (surface.positionOf index) =
      [(token.kind.name, ⟨surface.positionOf start,
        surface.positionOf (start + token.text.length), stamp⟩)] := by
  obtain ⟨stamp, same⟩ := rebuilt.holders index
  rw [agreeing_of_concat_eq covers, found] at same
  exact ⟨stamp, same⟩

/-- After a full pass all characters of a lexeme are held by one range. -/
theorem Rebuilt.holdersAt_lexeme (rebuilt : Rebuilt surface surface tokens)
    (covers : concat tokens = surface.content) {index start : Nat} {token : Token}
    (found : holding? tokens index = some (start, token)) :
    surface.holdersAt (surface.positionOf index) =
      [(token.kind.name, ⟨surface.positionOf start,
        surface.positionOf (start + token.text.length),
        (surface.lexemeMark (start, token)).2⟩)] := by
  have nonempty := rebuilt.valid.nonempty
  have bounded := stop_le_of_holding? covers found
  obtain ⟨-, -, -, -, lower, upper⟩ := holding?_eq_some_iff.mp found
  obtain ⟨stamp, same⟩ := rebuilt.exists_stamp covers found
  obtain ⟨firstStamp, first⟩ := rebuilt.exists_stamp covers (holding?_start found)
  have held : (token.kind.name, (⟨surface.positionOf start,
      surface.positionOf (start + token.text.length), stamp⟩ : TagRange)) ∈
        surface.holdersAt (surface.positionOf index) := by simp [same]
  -- The range that holds the character holds the first character of the lexeme as well.
  have startHeld := (rebuilt.valid.mem_holdersAt_positionOf held start).mpr (by
    rw [offsetOf_positionOf nonempty (by omega), offsetOf_positionOf nonempty bounded]
    omega)
  obtain rfl : stamp = firstStamp := by simpa [first] using startHeld
  have stamped : (surface.lexemeMark (start, token)).2 = stamp := by
    rw [lexemeMark, marksAt_eq_map_holdersAt, first]
    rfl
  rw [same, stamped]

/-- Lexemes of the text have different marks. -/
theorem Rebuilt.eq_of_lexemeMark_eq (rebuilt : Rebuilt surface surface tokens)
    (apart : surface.StampedApart) (covers : concat tokens = surface.content)
    {index otherIndex : Nat} {lexeme other : Nat × Token}
    (found : holding? tokens index = some lexeme)
    (otherFound : holding? tokens otherIndex = some other)
    (same : surface.lexemeMark lexeme = surface.lexemeMark other) : lexeme = other := by
  obtain ⟨start, token⟩ := lexeme
  obtain ⟨otherStart, otherToken⟩ := other
  have nonempty := rebuilt.valid.nonempty
  have bounded := stop_le_of_holding? covers found
  have otherBounded := stop_le_of_holding? covers otherFound
  have sameName : token.kind.name = otherToken.kind.name := congrArg Prod.fst same
  have held := List.mem_singleton_self (token.kind.name, (⟨surface.positionOf start,
    surface.positionOf (start + token.text.length),
    (surface.lexemeMark (start, token)).2⟩ : TagRange))
  have otherHeld := List.mem_singleton_self (otherToken.kind.name,
    (⟨surface.positionOf otherStart, surface.positionOf (otherStart + otherToken.text.length),
      (surface.lexemeMark (otherStart, otherToken)).2⟩ : TagRange))
  rw [← rebuilt.holdersAt_lexeme covers found] at held
  rw [← rebuilt.holdersAt_lexeme covers otherFound, ← sameName] at otherHeld
  have sameRange := apart.eq_of_mem_holdersAt rebuilt.valid held otherHeld (congrArg Prod.snd same)
  have sameStart := congrArg surface.offsetOf (congrArg TagRange.start sameRange)
  rw [offsetOf_positionOf nonempty (by omega), offsetOf_positionOf nonempty (by omega)] at sameStart
  subst sameStart
  exact Option.some.inj ((holding?_start found).symm.trans (holding?_start otherFound))

/-- After a full pass over a text that the tokenizer covers, every character belongs to its
lexeme. -/
theorem Rebuilt.owned (rebuilt : Rebuilt surface surface tokens) (apart : surface.StampedApart)
    (covers : concat tokens = surface.content) :
    surface.Owned surface.lexemeMark (lexemes tokens) where
  valid := rebuilt.valid
  apart := apart
  length := by rw [lexemes, List.length_map, List.length_range, covers]
  marks index := by
    rw [join_getElem?_lexemes, marksAt_eq_map_holdersAt]
    cases found : holding? tokens index with
    | none =>
        obtain ⟨stamp, same⟩ := rebuilt.holders index
        rw [agreeing_of_concat_eq covers, found] at same
        rw [same]
        rfl
    | some lexeme =>
        rw [rebuilt.holdersAt_lexeme covers found]
        rfl
  distinct member otherMember same := by
    obtain ⟨index, -, found⟩ := List.mem_map.mp member
    obtain ⟨otherIndex, -, otherFound⟩ := List.mem_map.mp otherMember
    exact rebuilt.eq_of_lexemeMark_eq apart covers found otherFound same

end Surface

namespace Session

variable {σ : Type}

/-- A full pass gives every range of a tag a stamp of its own. -/
theorem stampedApart_fullPass (session : Session σ) (lined : session.surface.Lined) :
    session.fullPass.1.surface.StampedApart := by
  intro tag member range other held otherHeld same
  rw [session.tags_fullPass lined] at member
  obtain ⟨name, -, rfl⟩ := List.mem_map.mp member
  obtain ⟨⟨span, stamp⟩, listed, made⟩ := List.mem_filterMap.mp held
  obtain ⟨⟨otherSpan, otherStamp⟩, otherListed, otherMade⟩ := List.mem_filterMap.mp otherHeld
  obtain ⟨-, shape⟩ := Option.ite_none_right_eq_some.mp made
  obtain ⟨-, otherShape⟩ := Option.ite_none_right_eq_some.mp otherMade
  obtain rfl := Option.some.inj shape
  obtain rfl := Option.some.inj otherShape
  obtain rfl : stamp = otherStamp := same
  obtain ⟨-, atStamp⟩ := List.mk_mem_zipIdx_iff_le_and_getElem?_sub.mp listed
  obtain ⟨-, otherAtStamp⟩ := List.mk_mem_zipIdx_iff_le_and_getElem?_sub.mp otherListed
  rw [atStamp] at otherAtStamp
  rw [Option.some.inj otherAtStamp]

/-- The pass after an edit is skipped exactly if the text agrees with the snapshot, and it changes
nothing then. -/
theorem onEdit_mode_eq_skipped_iff {session : Session σ} {cursor : Position} :
    (session.onEdit cursor).2.mode = .skipped ↔ session.surface.content = session.snapshot := by
  rw [onEdit]
  split
  next same => simp [same]
  next changed => simp [changed]

/-- A skipped pass changes nothing. -/
theorem onEdit_of_skipped {session : Session σ} {cursor : Position}
    (skipped : (session.onEdit cursor).2.mode = .skipped) :
    (session.onEdit cursor).1 = session := by
  rw [onEdit, if_pos (onEdit_mode_eq_skipped_iff.mp skipped)]

/-- The session after a full pass and operations on its text, with the scope of the next pass. -/
def editedAfterPass (session : Session σ) (operations : List Operation) (scope : EditScope) :
    Session σ :=
  { session.fullPass.1 with surface := session.fullPass.1.surface.run operations, scope }

/-- When operations on the text follow a full pass, the next pass is skipped exactly if they have
led back to the text of the full pass. It changes nothing then: each character is covered by the
kind of the lexeme that the operations have left it in, and by nothing if they have left it in
none. So the tags are those of the full pass exactly if that is, for every character, the kind that
the full pass had found for it. -/
theorem skipped_pass_keeps_lexemes (session : Session σ) (valid : session.surface.Valid)
    (covers : session.tokenizer.Covers session.surface.content) {operations : List Operation}
    (edits : ∀ operation ∈ operations, operation.EditsText) (scope : EditScope)
    (cursor : Position) :
    let tokens := session.tokenizer.lex session.surface.content
    let done := session.fullPass.1
    let edited := session.editedAfterPass operations scope
    let owners := done.surface.ownersAlong (lexemes tokens) operations
    let after := (edited.onEdit cursor).1
    ((edited.onEdit cursor).2.mode = .skipped ↔
        edited.surface.content = session.surface.content) ∧
      ((edited.onEdit cursor).2.mode = .skipped →
        after = edited ∧
          (∀ index, after.surface.tagsAt (after.surface.positionOf index) =
            (owners[index]?.join.map (·.2.kind.name)).toList) ∧
          ((∀ index, after.surface.tagsAt (after.surface.positionOf index) =
              done.surface.tagsAt (done.surface.positionOf index)) ↔
            ∀ index, owners[index]?.join.map (·.2.kind) = kindAt? tokens index)) := by
  intro tokens done edited owners after
  have rebuilt := (session.rebuilt_fullPass valid).self
  have apart := session.stampedApart_fullPass valid.toLined
  have content : done.surface.content = session.surface.content :=
    content_congr (session.rebuilt_fullPass valid).lines
  have covered : concat tokens = done.surface.content := covers.trans content.symm
  have owned : edited.surface.Owned done.surface.lexemeMark owners :=
    (rebuilt.owned apart covered).run edits
  have snapshot : done.snapshot = session.surface.content := by
    obtain ⟨surface, configured, fields⟩ := session.fields_fullPass
    exact (congrArg Session.snapshot fields).trans
      (if_pos (Mapping.complete_of_covers covers .start))
  refine ⟨onEdit_mode_eq_skipped_iff.trans (by rw [← snapshot]; rfl), ?_⟩
  intro skipped
  have unchanged : after = edited := onEdit_of_skipped skipped
  have tags (index : Nat) : after.surface.tagsAt (after.surface.positionOf index) =
      (owners[index]?.join.map (·.2.kind.name)).toList := by
    rw [unchanged, owned.tagsAt_positionOf]
    rfl
  refine ⟨unchanged, tags, forall_congr' fun index => ?_⟩
  rw [tags, rebuilt.tagsAt_positionOf covered, ← toList_map_name_inj, Option.map_map]
  rfl

/-- A character that is typed again inside of a lexeme is tagged as before, and one that is typed
again at the end of a lexeme is not tagged. -/
theorem skipped_pass_keeps_lexemes_of_retyped :
    let session := bare (.ofText ['a', 'b', 'c']) .plainText
    let operations : List Operation :=
      [.delete ⟨1, 1⟩ ⟨1, 2⟩, .insert ⟨1, 1⟩ ['b'], .delete ⟨1, 2⟩ ⟨1, 3⟩, .insert ⟨1, 2⟩ ['c']]
    let edited := session.editedAfterPass operations .cursorLine
    let after := (edited.onEdit ⟨1, 3⟩).1.surface
    session.tokenizer.Covers session.surface.content ∧
      (∀ operation ∈ operations, operation.EditsText) ∧
      (edited.onEdit ⟨1, 3⟩).2.mode = .skipped ∧
      after.tagsAt (after.positionOf 1) = ["Text"] ∧ after.tagsAt (after.positionOf 2) = [] := by
  have covers : Tokenizer.plainText.Covers ['a', 'b', 'c'] :=
    Tokenizer.lineLocal_plainText.covers _
  have edits : ∀ operation ∈ ([.delete ⟨1, 1⟩ ⟨1, 2⟩, .insert ⟨1, 1⟩ ['b'],
      .delete ⟨1, 2⟩ ⟨1, 3⟩, .insert ⟨1, 2⟩ ['c']] : List Operation), operation.EditsText := by
    decide
  obtain ⟨skips, kept⟩ := skipped_pass_keeps_lexemes
    (bare (.ofText ['a', 'b', 'c']) .plainText) (.ofText _) covers edits .cursorLine ⟨1, 3⟩
  have skipped := skips.mpr (by decide)
  obtain ⟨-, tags, -⟩ := kept skipped
  exact ⟨covers, edits, skipped, (tags 1).trans (by decide), (tags 2).trans (by decide)⟩

/-- A text that is loaded again without a change is not tagged again: the pass is skipped, and the
character that had a tag has none. -/
theorem reloaded_text_stays_untagged :
    let done := (bare (.ofText ['a']) .plainText).fullPass.1
    let edited := { done with surface := done.surface.setContent ['a'] }
    let after := (edited.onEdit .start).1.surface
    (∀ text, Tokenizer.plainText.Covers text) ∧ (edited.onEdit .start).2.mode = .skipped ∧
      done.surface.tagsAt (done.surface.positionOf 0) = ["Text"] ∧
      after.tagsAt (after.positionOf 0) = [] :=
  ⟨Tokenizer.lineLocal_plainText.covers, by decide, by decide, by decide⟩

end Session

end Highlighter
