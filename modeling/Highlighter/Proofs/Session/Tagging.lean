import Highlighter.Proofs.Surface.Free
import Highlighter.Proofs.Token.Stream
import Highlighter.Session.Basic

/-!
# Tagging a token stream

A pass tags the spans of a token stream one after the other. `Surface.Tagged` says what comes of
it when the place of the stream was free: every character of a lexeme is held by the range of the
lexeme and by nothing else, and nothing changes outside. It holds of a single lexeme and of one
stream behind another, so it holds of every stream (`Session.tagged_tagSpans`).
-/

namespace Highlighter

namespace Mapping

/-- The spans of a stream are those of its first lexeme and those of the others, laid behind it. -/
theorem spansFrom_cons (position : Position) (token : Token) (tokens : List Token) :
    spansFrom position (token :: tokens) =
      spansFrom position [token] ++ spansFrom (position.advancedBy token.text) tokens := by
  rw [spansFrom, spansFrom]
  split
  next empty =>
    rw [List.isEmpty_iff] at empty
    simp [spansFrom, empty]
  next => rfl

end Mapping

namespace Surface

open Token

/-- The lexemes of a stream have been tagged on a surface from an offset on. -/
structure Tagged (before after : Surface) (offset : Nat) (tokens : List Token) : Prop where
  valid : after.Valid
  lines : after.lines = before.lines
  cursor : after.cursor = before.cursor
  stamps : before.nextStamp ≤ after.nextStamp
  /-- The lexemes are the text from the offset on. -/
  follows : concat tokens <+: before.content.drop offset
  /-- A character of a lexeme is held by the range of the lexeme, with a new stamp. -/
  held : ∀ {index start token}, holding? tokens index = some (start, token) →
    ∃ stamp, before.nextStamp ≤ stamp ∧
      after.holdersAt (before.positionOf (offset + index)) =
        [(token.kind.name,
          ⟨before.positionOf (offset + start),
            before.positionOf (offset + start + token.text.length), stamp⟩)]
  /-- The other characters are held by what held them. -/
  frame : ∀ {position}, position < before.positionOf offset ∨
      before.positionOf (offset + (concat tokens).length) ≤ position →
    after.holdersAt position = before.holdersAt position
  /-- What was free behind the lexemes is still free. -/
  free : ∀ {last}, before.positionOf (offset + (concat tokens).length) ≤ last →
    before.Free (before.positionOf offset) last →
      after.Free (before.positionOf (offset + (concat tokens).length)) last

variable {before middle after : Surface} {offset : Nat} {front back : List Token}

/-- Nothing is tagged for a stream without characters. -/
theorem Tagged.of_concat_eq_nil {tokens : List Token} (valid : before.Valid)
    (empty : concat tokens = []) : Tagged before before offset tokens where
  valid := valid
  lines := rfl
  cursor := rfl
  stamps := Nat.le_refl _
  follows := empty ▸ List.nil_prefix
  held found := by
    have within := lt_of_holding? found
    simp [empty] at within
  frame _ := rfl
  free := by simp [empty]

/-- One stream is tagged behind another. -/
theorem Tagged.append (lined : before.Lined) (first : Tagged before middle offset front)
    (second : Tagged middle after (offset + (concat front).length) back) :
    Tagged before after offset (front ++ back) := by
  have sameContent : middle.content = before.content := content_congr first.lines
  have samePlace : middle.positionOf = before.positionOf := positionOf_congr first.lines
  have secondHeld := @second.held
  have secondFrame := @second.frame
  have secondFree := @second.free
  rw [samePlace] at secondHeld secondFrame secondFree
  have length := first.follows.length_le
  rw [List.length_drop] at length
  refine {
    valid := second.valid
    lines := second.lines.trans first.lines
    cursor := second.cursor.trans first.cursor
    stamps := Nat.le_trans first.stamps second.stamps
    follows := ?_
    held := ?_
    frame := ?_
    free := ?_ }
  · obtain ⟨rest, split⟩ := first.follows
    have behind := second.follows
    rw [sameContent, ← List.drop_drop, ← split, List.drop_left] at behind
    rw [concat_append, ← split, List.prefix_append_right_inj]
    exact behind
  · intro index start token found
    rw [holding?_append] at found
    split at found
    next inFront =>
      obtain ⟨stamp, new, same⟩ := first.held found
      have earlier : before.positionOf (offset + index) <
          before.positionOf (offset + (concat front).length) :=
        (positionOf_lt_iff lined (by omega) (by omega)).mpr (by omega)
      exact ⟨stamp, new, (secondFrame (.inl earlier)).trans same⟩
    next behind =>
      obtain ⟨⟨backStart, holder⟩, there, shifted⟩ := Option.map_eq_some_iff.mp found
      obtain ⟨rfl, rfl⟩ := Prod.mk.inj shifted
      obtain ⟨stamp, new, same⟩ := secondHeld there
      rw [show offset + (concat front).length + (index - (concat front).length) = offset + index
        by omega, Nat.add_assoc offset] at same
      exact ⟨stamp, Nat.le_trans first.stamps new, same⟩
  · intro position outside
    rw [concat_append, List.length_append] at outside
    have joint := positionOf_le lined (Nat.le_add_right offset (concat front).length)
    have finish := positionOf_le lined
      (Nat.le_add_right (offset + (concat front).length) (concat back).length)
    rw [Nat.add_assoc] at finish
    rcases outside with early | late
    · rw [secondFrame (.inl (Std.lt_of_lt_of_le early joint)), first.frame (.inl early)]
    · rw [secondFrame (.inr (by rwa [Nat.add_assoc])),
        first.frame (.inr (Std.le_trans finish late))]
  · intro last bounded free
    have finish := positionOf_le lined
      (Nat.le_add_right (offset + (concat front).length) (concat back).length)
    rw [concat_append, List.length_append, ← Nat.add_assoc] at bounded ⊢
    exact secondFree bounded (first.free (Std.le_trans finish bounded) free)

end Surface

namespace Session

open Token Surface

variable {σ : Type} (session : Session σ)

/-- Looking up the style of a kind gives directives at most. -/
theorem restyled_ensureConfigured (valid : session.surface.Valid) (kind : TokenKind) :
    Restyled session.surface (session.ensureConfigured kind).surface := by
  rw [ensureConfigured]
  split
  next => exact .refl valid
  next =>
    cases session.theme.directive? kind with
    | none => exact .refl valid
    | some directive => exact valid.restyled_tagConfigure kind.name directive

/-- Tagging spans changes the surface and the kinds that are configured, and nothing else. -/
theorem exists_tagSpans_eq (spans : List Span) :
    ∃ surface configured, session.tagSpans spans = { session with surface, configured } := by
  induction spans generalizing session with
  | nil => exact ⟨_, _, rfl⟩
  | cons span others inductionHypothesis =>
      obtain ⟨surface, configured, same⟩ := inductionHypothesis (session.tagSpan span)
      refine ⟨surface, configured, same.trans ?_⟩
      simp only [tagSpan, ensureConfigured]
      split <;> rfl

/-- Tagging a span changes no line. -/
theorem lines_tagSpan (span : Span) :
    (session.tagSpan span).surface.lines = session.surface.lines := by
  simp only [tagSpan, ensureConfigured]
  split
  next => rfl
  next => cases session.theme.directive? span.kind <;> rfl

/-- Tagging spans changes no line. -/
theorem lines_tagSpans (spans : List Span) :
    (session.tagSpans spans).surface.lines = session.surface.lines := by
  induction spans generalizing session with
  | nil => rfl
  | cons span others inductionHypothesis =>
      exact (inductionHypothesis (session.tagSpan span)).trans (session.lines_tagSpan span)

/-- Every span uses up one stamp. -/
theorem nextStamp_tagSpans (spans : List Span) :
    (session.tagSpans spans).surface.nextStamp = session.surface.nextStamp + spans.length := by
  induction spans generalizing session with
  | nil => rfl
  | cons span others inductionHypothesis =>
      have one : (session.tagSpan span).surface.nextStamp = session.surface.nextStamp + 1 := by
        simp only [tagSpan, ensureConfigured]
        split
        next => rfl
        next => cases session.theme.directive? span.kind <;> rfl
      rw [tagSpans, List.foldl_cons, ← tagSpans, inductionHypothesis, one, List.length_cons]
      omega

/-- A lexeme that is laid on a free place is tagged. -/
theorem tagged_tagSpan (valid : session.surface.Valid) {offset : Nat} {token : Token}
    (nonempty : token.text ≠ []) (follows : token.text <+: session.surface.content.drop offset)
    (free : session.surface.Free (session.surface.positionOf offset)
      (session.surface.positionOf (offset + token.text.length))) :
    Tagged session.surface
      (session.tagSpan ⟨session.surface.positionOf offset,
        session.surface.positionOf (offset + token.text.length), token.kind⟩).surface
      offset [token] := by
  have styled := session.restyled_ensureConfigured valid token.kind
  rw [tagSpan]
  generalize (session.ensureConfigured token.kind).surface = configured at styled
  generalize session.surface = surface at *
  have lined := valid.toLined
  have length := follows.length_le
  have positive := List.length_pos_iff.mpr nonempty
  rw [List.length_drop] at length
  have inside (place : Nat) : configured.Inside (surface.positionOf place) :=
    (inside_congr styled.lines).mpr (inside_positionOf lined.nonempty place)
  have ordered : surface.positionOf offset <
      surface.positionOf (offset + token.text.length) :=
    (positionOf_lt_iff lined (by omega) (by omega)).mpr (by omega)
  have holders := styled.valid.holdersAt_tagAdd token.kind.name (inside _) (inside _) ordered
    (styled.free free)
  refine {
    valid := styled.valid.tagAdd _ _ _
    lines := styled.lines
    cursor := styled.cursor
    stamps := Nat.le_trans (Nat.le_of_eq styled.nextStamp.symm) (Nat.le_succ _)
    follows := by simpa using follows
    held := ?_
    frame := ?_
    free := ?_ }
  · intro index start holder found
    rw [holding?, holding?] at found
    split at found
    next within =>
      obtain ⟨rfl, rfl⟩ := Prod.mk.inj (Option.some.inj found)
      refine ⟨configured.nextStamp, Nat.le_of_eq styled.nextStamp.symm, ?_⟩
      have lower := positionOf_le lined (Nat.le_add_right offset index)
      have upper : surface.positionOf (offset + index) <
          surface.positionOf (offset + token.text.length) :=
        (positionOf_lt_iff lined (by omega) (by omega)).mpr (by omega)
      rw [holders, if_pos ⟨lower, upper⟩, Nat.add_zero]
    next => simp at found
  · intro position outside
    rw [concat_cons, concat_nil, List.append_nil] at outside
    rw [holders, if_neg (by grind), styled.holders]
  · intro last bounded free
    rw [concat_cons, concat_nil, List.append_nil] at bounded ⊢
    exact styled.valid.free_tagAdd _ (inside _) (inside _) ordered bounded (styled.free free)

/-- A first lexeme, which may be empty, is tagged when its place is free. -/
theorem tagged_tagSpans_singleton (valid : session.surface.Valid) {offset : Nat} {token : Token}
    (follows : token.text <+: session.surface.content.drop offset)
    (free : session.surface.Free (session.surface.positionOf offset)
      (session.surface.positionOf (offset + token.text.length))) :
    Tagged session.surface
      (session.tagSpans
        (Mapping.spansFrom (session.surface.positionOf offset) [token])).surface
      offset [token] := by
  have walk := advancedBy_positionOf valid.toLined follows
  by_cases empty : token.text = []
  · have noSpan : Mapping.spansFrom (session.surface.positionOf offset) [token] = [] := by
      simp [Mapping.spansFrom, empty]
    rw [noSpan]
    exact .of_concat_eq_nil valid (by simpa using empty)
  · have oneSpan : Mapping.spansFrom (session.surface.positionOf offset) [token] =
        [⟨session.surface.positionOf offset,
          session.surface.positionOf (offset + token.text.length), token.kind⟩] := by
      simp [Mapping.spansFrom, empty, walk]
    rw [oneSpan]
    exact tagged_tagSpan session valid empty follows free

/-- A stream that is laid on a free place is tagged. -/
theorem tagged_tagSpans (valid : session.surface.Valid) {offset : Nat} {tokens : List Token}
    (follows : concat tokens <+: session.surface.content.drop offset)
    (free : session.surface.Free (session.surface.positionOf offset)
      (session.surface.positionOf (offset + (concat tokens).length))) :
    Tagged session.surface
      (session.tagSpans
        (Mapping.spansFrom (session.surface.positionOf offset) tokens)).surface
      offset tokens := by
  induction tokens generalizing session offset with
  | nil => exact .of_concat_eq_nil valid rfl
  | cons token others inductionHypothesis =>
      rw [concat_cons] at follows
      rw [concat_cons, List.length_append, ← Nat.add_assoc] at free
      have lined := valid.toLined
      have here := (List.prefix_append _ _).trans follows
      have finish := positionOf_le lined
        (Nat.le_add_right (offset + token.text.length) (concat others).length)
      have first := tagged_tagSpans_singleton session valid here
        (free.mono (Std.le_refl _) finish)
      rw [Mapping.spansFrom_cons, tagSpans, List.foldl_append, ← tagSpans, ← tagSpans,
        advancedBy_positionOf lined here]
      generalize session.tagSpans (Mapping.spansFrom (session.surface.positionOf offset) [token])
        = middle at first
      have single : concat [token] = token.text := by simp
      have samePlace := positionOf_congr first.lines
      have behind : concat others <+:
          middle.surface.content.drop (offset + token.text.length) := by
        rw [content_congr first.lines]
        exact isFront_drop_of_append follows
      have joint := @first.free
      rw [single] at joint
      have later := inductionHypothesis middle first.valid behind
        (by rw [samePlace]; exact joint finish free)
      rw [samePlace] at later
      exact first.append lined (by rw [single]; exact later)

end Session

end Highlighter
