import Highlighter.Proofs.Session.Clearing
import Highlighter.Proofs.Session.Tagging
import Highlighter.Proofs.Surface.Carrying
import Highlighter.Proofs.Token.LineLocal

/-!
# The full pass

A full pass drops every tag, gives the kinds of the style table their directives and tags the
whole text. `Surface.Rebuilt` says what covers each character afterwards. Nothing that was tagged
before the pass is left.
-/

namespace Highlighter

open Token

namespace Surface

/-- All tags of a surface have been rebuilt from a token stream of its text. -/
structure Rebuilt (before after : Surface) (tokens : List Token) : Prop where
  valid : after.Valid
  lines : after.lines = before.lines
  cursor : after.cursor = before.cursor
  /-- A character before the divergence is held by the range of its lexeme alone, and the other
  characters are held by nothing. -/
  holders : ∀ index, ∃ stamp, after.holdersAt (before.positionOf index) =
    ((holding? (agreeing before.content tokens) index).map fun (start, token) =>
      (token.kind.name,
        (⟨before.positionOf start, before.positionOf (start + token.text.length), stamp⟩ :
          TagRange))).toList

variable {before after : Surface} {tokens : List Token}

/-- A pass that is repeated finds the same places. -/
theorem Rebuilt.self (rebuilt : Rebuilt before after tokens) : Rebuilt after after tokens where
  valid := rebuilt.valid
  lines := rfl
  cursor := rfl
  holders := by
    rw [positionOf_congr rebuilt.lines, content_congr rebuilt.lines]
    exact rebuilt.holders

/-- After a full pass a character is covered by the kind of its lexeme. -/
theorem Rebuilt.tagsAt_positionOf (rebuilt : Rebuilt before after tokens)
    (covers : concat tokens = before.content) (index : Nat) :
    after.tagsAt (after.positionOf index) = ((kindAt? tokens index).map (·.name)).toList := by
  obtain ⟨stamp, same⟩ := rebuilt.holders index
  rw [agreeing_of_concat_eq covers] at same
  rw [tagsAt_eq_map_marksAt rebuilt.valid.separated, marksAt_eq_map_holdersAt,
    positionOf_congr rebuilt.lines, same, kindAt?]
  cases holding? tokens index <;> rfl

/-- After a full pass a place is crossed by the kind of the lexeme that lies across it. -/
theorem Rebuilt.map_marksAcross (lined : before.Lined) (rebuilt : Rebuilt before after tokens)
    (covers : concat tokens = before.content) (place : Nat) :
    (after.marksAcross place).map (·.1) = ((kindAcross? tokens place).map (·.name)).toList := by
  obtain ⟨stamp, same⟩ := rebuilt.holders place
  rw [agreeing_of_concat_eq covers] at same
  rw [rebuilt.valid.marksAcross_eq, positionOf_congr rebuilt.lines, same, kindAcross?,
    offsetOf_congr rebuilt.lines]
  cases found : holding? tokens place with
  | none => rfl
  | some holder =>
      obtain ⟨start, token⟩ := holder
      obtain ⟨-, -, -, -, lower, -⟩ := holding?_eq_some_iff.mp found
      have within := lt_of_holding? found
      rw [covers] at within
      have startBounded : start ≤ before.content.length := by omega
      have address := offsetOf_positionOf lined.nonempty startBounded
      by_cases across : start < place <;> simp [address, across]

end Surface

namespace Session

open Surface

variable {σ : Type} (session : Session σ)

/-- The session as a full pass starts to tag its text: every tag is dropped, and the kinds of the
style table have their directives. -/
def prepared : Session σ :=
  let directives := StyleTable.directives session.theme
  { session with
    surface :=
      directives.foldl (fun surface (kind, directive) => surface.tagConfigure kind directive)
        (dropTags session.surface)
    configured := directives.map fun (kind, _) => kind }

/-- The whole text of the session, laid out by its tokenizer. -/
def wholeMapping : Mapping :=
  Mapping.ofTokens .start session.surface.content (session.tokenizer.lex session.surface.content)

/-- Preparing a full pass changes no line. -/
theorem lines_prepared : session.prepared.surface.lines = session.surface.lines := by
  obtain ⟨mutations, dropped⟩ := dropTags_eq session.surface
  rw [prepared, lines_foldl_tagConfigure, dropped]

/-- A full pass starts from a surface on which nothing is tagged. -/
theorem untagged_prepared (valid : session.surface.Valid) :
    Untagged session.surface session.prepared.surface :=
  have untagged := untagged_dropTags valid
  untagged.restyled (restyled_foldl_tagConfigure untagged.valid _)

/-- A full pass tags the spans of the whole text on the prepared session. -/
theorem fullPass_eq :
    session.fullPass =
      ({ session.prepared.tagSpans session.wholeMapping.spans with
          snapshot := if session.wholeMapping.complete then session.surface.content else [] },
        ⟨.full, 1, session.surface.lineCount, session.wholeMapping.spans.length,
          session.wholeMapping.complete⟩) := by
  rw [wholeMapping, ← content_congr session.lines_prepared, lineCount,
    ← (lines_tagSpans session.prepared _).trans session.lines_prepared]
  rfl

/-- Besides the surface, a full pass changes the kinds that are configured and the snapshot. -/
theorem fields_fullPass :
    ∃ surface configured, session.fullPass.1 =
      { session with
        surface
        configured
        snapshot := if session.wholeMapping.complete then session.surface.content else [] } := by
  obtain ⟨surface, configured, same⟩ :=
    exists_tagSpans_eq session.prepared session.wholeMapping.spans
  rw [fullPass_eq]
  exact ⟨surface, configured, by rw [same]; rfl⟩

/-- A full pass leaves the tokenizer in place. -/
theorem tokenizer_fullPass : session.fullPass.1.tokenizer = session.tokenizer := by
  obtain ⟨surface, configured, same⟩ := session.fields_fullPass
  rw [same]

/-- A full pass changes no line. -/
theorem lines_fullPass : session.fullPass.1.surface.lines = session.surface.lines := by
  rw [fullPass_eq]
  exact (lines_tagSpans _ _).trans session.lines_prepared

/-- A full pass rebuilds every tag from the whole text, whether or not the tokenizer covers it. -/
theorem rebuilt_fullPass (valid : session.surface.Valid) :
    Rebuilt session.surface session.fullPass.1.surface
      (session.tokenizer.lex session.surface.content) := by
  have untagged := session.untagged_prepared valid
  have follows : concat (agreeing session.surface.content
      (session.tokenizer.lex session.surface.content)) <+:
        session.prepared.surface.content.drop 0 := by
    rw [List.drop_zero, content_congr untagged.lines]
    exact concat_agreeing_isFront _ _
  have tagged := tagged_tagSpans session.prepared untagged.valid follows (untagged.free _ _)
  rw [fullPass_eq, wholeMapping, Mapping.ofTokens_eq]
  rw [positionOf_zero untagged.valid.toLined] at tagged
  refine {
    valid := tagged.valid
    lines := tagged.lines.trans untagged.lines
    cursor := tagged.cursor.trans untagged.cursor
    holders := ?_ }
  intro index
  have held := @tagged.held index
  have frame := @tagged.frame
  simp only [Nat.zero_add, positionOf_congr untagged.lines] at held frame
  cases found : holding? (agreeing session.surface.content
      (session.tokenizer.lex session.surface.content)) index with
  | some holder =>
      obtain ⟨stamp, -, same⟩ := held found
      exact ⟨stamp, same⟩
  | none =>
      refine ⟨0, (frame (.inr ?_)).trans (untagged.holders _)⟩
      refine positionOf_le valid.toLined (Nat.not_lt.mp fun within => ?_)
      obtain ⟨start, token, some⟩ := exists_holding? within
      rw [found] at some
      cases some

end Session

end Highlighter
