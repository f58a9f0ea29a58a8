import Highlighter.Proofs.Session.Clearing
import Highlighter.Proofs.Session.Tagging
import Highlighter.Proofs.Session.Window

/-!
# The pass after an edit

When the text differs from the snapshot, the pass after an edit clears a window of lines and tags
it anew from its own text. `Session.IncrementalPass` says what it does to every character: inside
of the window the lexemes of the window's text decide, up to the place where they depart from that
text, and outside of the window nothing changes.
-/

namespace Highlighter.Session

open Token Surface

variable {σ : Type}

/-- The text of the lines from `first` to `last`. -/
def blockText (surface : Surface) (first last : Nat) : Text :=
  surface.text (.lineStart first) (surface.lineEnd last)

/-- The place of a character of the lines from `first` on. -/
def placeIn (surface : Surface) (first index : Nat) : Position :=
  surface.positionOf (surface.offsetOf (.lineStart first) + index)

/-- A block of lines of one surface has been tagged anew by a token stream. -/
structure Retagged (before after : Surface) (first last : Nat) (tokens : List Token) : Prop where
  valid : after.Valid
  lines : after.lines = before.lines
  cursor : after.cursor = before.cursor
  /-- A character before the divergence is covered by the tag of its lexeme alone. -/
  tagged : ∀ {index}, index < divergence (blockText before first last) tokens →
    ∃ start token stamp, holding? tokens index = some (start, token) ∧
      before.nextStamp ≤ stamp ∧
      after.marksAt (placeIn before first index) = [(token.kind.name, stamp)]
  /-- The other characters of the block are covered by no tag. -/
  untagged : ∀ {index}, divergence (blockText before first last) tokens ≤ index →
    index < (blockText before first last).length →
      after.marksAt (placeIn before first index) = []
  /-- Characters outside of the block keep their marks. -/
  frame : ∀ {position}, position < .lineStart first ∨ before.lineEnd last ≤ position →
    after.marksAt position = before.marksAt position

/-- The text of a block starts at its first line. -/
theorem blockText_isFront (surface : Surface) (first last : Nat) :
    blockText surface first last <+:
      surface.content.drop (surface.offsetOf (.lineStart first)) := by
  rw [blockText, text_eq]
  exact List.take_prefix _ _

/-- The text of a block ends behind its last line. -/
theorem length_blockText {surface : Surface} (lined : surface.Lined) {first last : Nat}
    (block : surface.LineBlock first last) :
    surface.offsetOf (.lineStart first) + (blockText surface first last).length =
      surface.offsetOf (surface.lineEnd last) := by
  have ordered := (offsetOf_le_iff lined block.startInside block.stopInside).mpr block.start_le_stop
  have bounded := offsetOf_le_length lined.nonempty (surface.lineEnd last)
  rw [blockText, text_eq, List.length_take, List.length_drop]
  omega

/-- What is laid on a block of lines stops inside of the block. -/
theorem positionOf_divergence_le {surface : Surface} (lined : surface.Lined) {first last : Nat}
    (block : surface.LineBlock first last) (tokens : List Token) :
    placeIn surface first (divergence (blockText surface first last) tokens) ≤
      surface.lineEnd last := by
  have length := length_blockText lined block
  have bounded := divergence_le (blockText surface first last) tokens
  rw [← positionOf_offsetOf block.stopInside]
  exact positionOf_le lined (by omega)

/-- A block that was cleared and on which a stream was tagged is tagged anew. -/
theorem Retagged.of_tagged {surface middle after : Surface} {first last : Nat}
    {tokens : List Token} (lined : surface.Lined) (block : surface.LineBlock first last)
    (cleared : Cleared surface middle (.lineStart first) (surface.lineEnd last))
    (tagged : Tagged middle after (surface.offsetOf (.lineStart first))
      (agreeing (blockText surface first last) tokens)) :
    Retagged surface after first last tokens := by
  have samePlace : middle.positionOf = surface.positionOf :=
    positionOf_congr cleared.lines
  have start := positionOf_offsetOf block.startInside
  have finish := positionOf_divergence_le lined block tokens
  have length := length_blockText lined block
  have textBounded := offsetOf_le_length lined.nonempty (surface.lineEnd last)
  have held := @tagged.held
  have frame := @tagged.frame
  rw [samePlace] at held frame
  rw [start] at frame
  have sameMarks {position : Position} (outside : position < .lineStart first ∨
      placeIn surface first (divergence (blockText surface first last) tokens) ≤ position) :
      after.marksAt position = middle.marksAt position := by
    rw [marksAt_eq_map_holdersAt, marksAt_eq_map_holdersAt, frame outside]
  refine {
    valid := tagged.valid
    lines := tagged.lines.trans cleared.lines
    cursor := tagged.cursor.trans cleared.cursor
    tagged := ?_
    untagged := ?_
    frame := ?_ }
  · intro index within
    obtain ⟨start, token, found⟩ := exists_holding? within
    obtain ⟨stamp, new, same⟩ := held found
    refine ⟨start, token, stamp, holding?_of_agreeing found, cleared.nextStamp ▸ new, ?_⟩
    rw [marksAt_eq_map_holdersAt, placeIn, same]
    rfl
  · intro index behind within
    have late : placeIn surface first (divergence (blockText surface first last) tokens) ≤
        placeIn surface first index := positionOf_le lined (by omega)
    have lower : Position.lineStart first ≤ placeIn surface first index :=
      start ▸ positionOf_le lined (Nat.le_add_right _ index)
    have upper : placeIn surface first index < surface.lineEnd last := by
      rw [← positionOf_offsetOf block.stopInside]
      exact (positionOf_lt_iff lined (by omega) textBounded).mpr (by omega)
    rw [sameMarks (.inr late), cleared.marks, if_pos ⟨lower, upper⟩]
  · intro position outside
    rw [sameMarks (outside.imp_right fun behind => Std.le_trans finish behind), cleared.marks,
      if_neg (by grind)]

/-- Clearing a block of lines and tagging its text tags the block anew. -/
theorem retagged_tagSpans (session : Session σ) {surface : Surface} {first last : Nat}
    (lined : surface.Lined) (block : surface.LineBlock first last)
    (cleared : Cleared surface session.surface (.lineStart first) (surface.lineEnd last))
    (tokens : List Token) :
    Retagged surface
      (session.tagSpans
        (Mapping.spansFrom (.lineStart first)
          (agreeing (blockText surface first last) tokens))).surface
      first last tokens := by
  have sameContent : session.surface.content = surface.content :=
    content_congr cleared.lines
  have samePlace : session.surface.positionOf = surface.positionOf :=
    positionOf_congr cleared.lines
  have start := positionOf_offsetOf block.startInside
  have follows : concat (agreeing (blockText surface first last) tokens) <+:
      session.surface.content.drop (surface.offsetOf (.lineStart first)) := by
    rw [sameContent]
    exact (concat_agreeing_isFront _ tokens).trans (blockText_isFront surface first last)
  have free := cleared.free.mono (Std.le_refl _) (positionOf_divergence_le lined block tokens)
  have tagged := tagged_tagSpans session cleared.valid follows
    (by rw [samePlace, start]; exact free)
  rw [samePlace, start] at tagged
  exact .of_tagged lined block cleared tagged

/-- A tokenizer that covers the text of a block departs from it nowhere. -/
theorem divergence_of_covers {tokenizer : Tokenizer} {text : Text}
    (covers : tokenizer.Covers text) :
    divergence text (tokenizer.lex text) = text.length := by
  rw [divergence, agreeing_of_concat_eq covers, show concat (tokenizer.lex text) = text from covers]

/-- The characters before and behind a block that was tagged anew keep their tags. -/
theorem Retagged.tagsAt_outside {before after : Surface} {first last : Nat} {tokens : List Token}
    (retagged : Retagged before after first last tokens) (valid : before.Valid)
    (block : before.LineBlock first last) {index : Nat}
    (outside : index < before.offsetOf (.lineStart first) ∨
      before.offsetOf (before.lineEnd last) ≤ index) :
    after.tagsAt (before.positionOf index) = before.tagsAt (before.positionOf index) := by
  have place : before.positionOf index < .lineStart first ∨
      before.lineEnd last ≤ before.positionOf index := by
    rw [← positionOf_offsetOf block.startInside, ← positionOf_offsetOf block.stopInside]
    rcases outside with early | late
    · have bounded := offsetOf_le_length valid.nonempty (.lineStart first)
      exact .inl ((positionOf_lt_iff valid.toLined (by omega) bounded).mpr early)
    · exact .inr (positionOf_le valid.toLined late)
  rw [tagsAt_eq_map_marksAt retagged.valid.separated, retagged.frame place,
    ← tagsAt_eq_map_marksAt valid.separated]

variable (session : Session σ)

/-- The pass after an edit, with the lexemes that are laid on the window named. -/
theorem onEdit_of_changed (valid : session.surface.Valid)
    (changed : session.surface.content ≠ session.snapshot) (cursor : Position) :
    let first := (session.window cursor).1
    let last := (session.window cursor).2
    let text := blockText session.surface first last
    let tokens := session.tokenizer.lex text
    let cleared := { session with
      surface := clearRange session.surface (.lineStart first) (session.surface.lineEnd last) }
    let spans := Mapping.spansFrom (.lineStart first) (agreeing text tokens)
    session.onEdit cursor =
      ({ cleared.tagSpans spans with
          snapshot := if concat tokens = text then session.surface.content else session.snapshot },
        ⟨.incremental, first, last, spans.length, decide (concat tokens = text)⟩) := by
  have block := (window_covers session valid.toLined cursor).toLineBlock
  have cleared := cleared_clearRange valid block.startInside block.stopInside block.start_le_stop
  dsimp only
  rw [onEdit, if_neg changed]
  dsimp only
  rw [text_congr cleared.lines, Mapping.ofTokens_eq, ← blockText]
  simp only [decide_eq_true_eq]

/-- After an edit the window is tagged anew from its own text. -/
theorem retagged_onEdit (valid : session.surface.Valid)
    (changed : session.surface.content ≠ session.snapshot) (cursor : Position) :
    let first := (session.window cursor).1
    let last := (session.window cursor).2
    Retagged session.surface (session.onEdit cursor).1.surface first last
      (session.tokenizer.lex (blockText session.surface first last)) := by
  have block := (window_covers session valid.toLined cursor).toLineBlock
  have cleared := cleared_clearRange valid block.startInside block.stopInside block.start_le_stop
  dsimp only
  rw [onEdit_of_changed session valid changed]
  exact retagged_tagSpans { session with surface := clearRange session.surface _ _ }
    valid.toLined block cleared _

/-- Besides the surface, the pass after an edit changes the kinds that are configured and the
snapshot. -/
theorem fields_onEdit (cursor : Position) :
    ∃ surface configured snapshot,
      (session.onEdit cursor).1 = { session with surface, configured, snapshot } := by
  rw [onEdit]
  split
  next => exact ⟨_, _, _, rfl⟩
  next =>
    obtain ⟨first, last⟩ := session.window cursor
    dsimp only
    generalize (Mapping.ofTokens _ _ _).spans = spans
    obtain ⟨surface, configured, same⟩ := exists_tagSpans_eq _ spans
    exact ⟨surface, configured, _, by rw [same]⟩

/-- The pass after an edit leaves the tokenizer in place. -/
theorem tokenizer_onEdit (cursor : Position) :
    (session.onEdit cursor).1.tokenizer = session.tokenizer := by
  obtain ⟨surface, configured, snapshot, same⟩ := session.fields_onEdit cursor
  rw [same]

/-- The pass after an edit changes no line. -/
theorem lines_onEdit (cursor : Position) :
    (session.onEdit cursor).1.surface.lines = session.surface.lines := by
  rw [onEdit]
  split
  next => rfl
  next => exact (lines_tagSpans _ _).trans (lines_clearRange _ _ _)

/-- What the pass after an edit did, by its report: some lines were tagged anew. -/
structure IncrementalPass (before after : Session σ) (cursor : Position) (report : Report) :
    Prop where
  mode : report.mode = .incremental
  /-- The lines reach over what has to be tagged anew. -/
  covers : WindowCovers before cursor report.firstLine report.lastLine
  retagged : Retagged before.surface after.surface report.firstLine report.lastLine
    (before.tokenizer.lex (blockText before.surface report.firstLine report.lastLine))
  complete : report.complete = true ↔
    before.tokenizer.Covers (blockText before.surface report.firstLine report.lastLine)
  /-- A complete stream departs from the text of the lines nowhere. -/
  whole : report.complete = true →
    divergence (blockText before.surface report.firstLine report.lastLine)
        (before.tokenizer.lex (blockText before.surface report.firstLine report.lastLine)) =
      (blockText before.surface report.firstLine report.lastLine).length
  stamps : after.surface.nextStamp = before.surface.nextStamp + report.spans

/-- When the text differs from the snapshot, the pass after an edit tags a window of lines anew,
whether or not the tokenizer covers their text. -/
theorem incrementalPass_onEdit (valid : session.surface.Valid)
    (changed : session.surface.content ≠ session.snapshot) (cursor : Position) :
    IncrementalPass session (session.onEdit cursor).1 cursor (session.onEdit cursor).2 := by
  have covers := window_covers session valid.toLined cursor
  have retagged := retagged_onEdit session valid changed cursor
  have block := covers.toLineBlock
  have cleared := cleared_clearRange valid block.startInside block.stopInside block.start_le_stop
  rw [onEdit_of_changed session valid changed] at retagged ⊢
  refine {
    mode := rfl
    covers := covers
    retagged := retagged
    complete := decide_eq_true_iff
    whole := ?_
    stamps := ?_ }
  · intro complete
    have covered := of_decide_eq_true complete
    exact divergence_of_covers covered
  · dsimp only
    rw [nextStamp_tagSpans]
    exact congrArg (· + _) cleared.nextStamp

/-- A session on a surface under the dark theme, with nothing tagged, stored or registered. -/
def bare (surface : Surface) (tokenizer : Tokenizer) : Session Unit where
  surface := surface
  registry := {}
  tokenizer := tokenizer
  language := "text"
  theme := .dark
  settings := .empty
  store := ()
  scope := .affectedLines
  snapshot := surface.content

/-- A tokenizer that loses the last character of its text stops the pass before it. -/
theorem incrementalPass_onEdit_of_truncating :
    let truncating : Tokenizer :=
      { name := "Truncating", lex := fun text => [⟨.text, text.dropLast⟩] }
    let session := { bare (.ofText ['a', '\n', 'b', 'c']) truncating with snapshot := ['a'] }
    session.surface.content ≠ session.snapshot ∧
      IncrementalPass session (session.onEdit ⟨2, 0⟩).1 ⟨2, 0⟩ (session.onEdit ⟨2, 0⟩).2 ∧
      (session.onEdit ⟨2, 0⟩).2 = ⟨.incremental, 2, 2, 1, false⟩ :=
  ⟨by decide, incrementalPass_onEdit _ (.ofText _) (by decide) ⟨2, 0⟩, by decide⟩

end Highlighter.Session
