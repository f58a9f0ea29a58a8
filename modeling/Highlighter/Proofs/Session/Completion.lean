import Highlighter.Proofs.Grammar.Covering
import Highlighter.Proofs.Session.Switching

/-!
# Complete passes

A pass over a tokenizer of this library is complete: it reports so, the text stays as it was, and
the snapshot is that text afterwards (`Session.lexing_and_passes_complete`). Nothing is asked of the
surface or of what the session holds, so this is so from every state.
-/

namespace Highlighter

open Token Surface

namespace Session

variable {σ : Type}

/-! ### The passes of a session -/

/-- One pass leads from a session to its outcome. A switch that fails makes no pass. -/
inductive Pass [SettingsStore σ] : Session σ → Session σ × Report → Prop where
  | full (session : Session σ) : Pass session session.fullPass
  | edit (session : Session σ) (cursor : Position) : Pass session (session.onEdit cursor)
  | language {session : Session σ} {id : String} {outcome : Session σ × Report}
      (switched : session.switchLanguage id = .ok outcome) : Pass session outcome
  | theme {session : Session σ} {files : FileTree} {source : ThemeSource}
      {outcome : Session σ × Report} (switched : session.switchTheme files source = .ok outcome) :
      Pass session outcome

/-- A switch of the language that succeeds is a full pass with the tokenizer that was found. -/
theorem switchLanguage_eq_ok_iff {session : Session σ} {id : String}
    {outcome : Session σ × Report} :
    session.switchLanguage id = .ok outcome ↔
      ∃ tokenizer, session.registry.select id = .ok tokenizer ∧
        outcome = fullPass { session with tokenizer, language := Unicode.lowercase id } := by
  rw [switchLanguage, Step.outcome, languageSwitch_eq]
  cases session.registry.select id with
  | error cause => simp
  | ok tokenizer => simp [eq_comm]

/-- A switch of the theme that succeeds is a full pass with the theme that was loaded, after the
settings have been saved. -/
theorem switchTheme_eq_ok_iff [SettingsStore σ] {session : Session σ} {files : FileTree}
    {source : ThemeSource} {outcome : Session σ × Report} :
    session.switchTheme files source = .ok outcome ↔
      ∃ theme store, Theme.load files source = .ok theme ∧
        SettingsStore.save session.store (session.settings.mergedWithTheme theme) = .ok store ∧
        outcome = fullPass
          { session with
            settings := session.settings.mergedWithTheme theme
            store
            theme
            announced := session.announced ++ [Appearance.ofTheme theme] } := by
  rw [switchTheme, Step.outcome, themeSwitch_eq]
  cases Theme.load files source with
  | error cause => simp
  | ok theme =>
      cases saved : SettingsStore.save session.store (session.settings.mergedWithTheme theme) with
      | error cause => simp [saved]
      | ok store => simp [saved, withTheme, eq_comm]

/-- A pass has come to its end: it says so, and its snapshot is the text of the surface, which it
has left alone. -/
structure Completed (before : Surface) (outcome : Session σ × Report) : Prop where
  complete : outcome.2.complete = true
  snapshot : outcome.1.snapshot = outcome.1.surface.content
  lines : outcome.1.surface.lines = before.lines

/-- A full pass comes to its end when the tokenizer covers the text. -/
theorem completed_fullPass (session : Session σ)
    (covers : session.tokenizer.Covers session.surface.content) :
    Completed session.surface session.fullPass := by
  have complete := Mapping.complete_of_covers covers .start
  have lines := session.lines_fullPass
  rw [fullPass_eq] at lines ⊢
  exact {
    complete := complete
    snapshot := (if_pos complete).trans (content_congr lines).symm
    lines := lines }

/-- The pass after an edit comes to its end when the tokenizer covers every text. -/
theorem completed_onEdit (session : Session σ) (covers : ∀ text, session.tokenizer.Covers text)
    (cursor : Position) : Completed session.surface (session.onEdit cursor) := by
  have lines := session.lines_onEdit cursor
  rw [onEdit] at lines ⊢
  by_cases same : session.surface.content = session.snapshot
  · rw [if_pos same]
    exact { complete := rfl, snapshot := same.symm, lines := rfl }
  · rw [if_neg same] at lines ⊢
    generalize session.window cursor = window at lines ⊢
    obtain ⟨first, last⟩ := window
    have complete (text : Text) := Mapping.complete_of_covers (covers text) (.lineStart first)
    exact {
      complete := complete _
      snapshot := (if_pos (complete _)).trans (content_congr lines).symm
      lines := lines }

/-- Whatever pass a session makes, it comes to its end when the tokenizer that the session has
afterwards covers every text. -/
theorem Pass.completed [SettingsStore σ] {session : Session σ} {outcome : Session σ × Report}
    (pass : Pass session outcome) (covers : ∀ text, outcome.1.tokenizer.Covers text) :
    Completed session.surface outcome := by
  cases pass with
  | full => exact session.completed_fullPass (session.tokenizer_fullPass ▸ covers _)
  | edit cursor => exact session.completed_onEdit (session.tokenizer_onEdit cursor ▸ covers) cursor
  | language switched =>
      obtain ⟨tokenizer, -, rfl⟩ := switchLanguage_eq_ok_iff.mp switched
      rw [tokenizer_fullPass] at covers
      exact completed_fullPass { session with tokenizer, language := _ } (covers _)
  | theme switched =>
      obtain ⟨theme, store, -, -, rfl⟩ := switchTheme_eq_ok_iff.mp switched
      rw [tokenizer_fullPass] at covers
      exact completed_fullPass
        { session with theme, store, settings := _, announced := _ } (covers _)

/-- The tokenizers of this library cut every text into lexemes that are not empty and that give the
text back; a grammar comes to an end by itself, so that further steps yield no further token. Every
pass that leaves a session with such a tokenizer is complete. -/
theorem lexing_and_passes_complete [SettingsStore σ] {tokenizer : Tokenizer}
    (own : tokenizer.OfLibrary) :
    (∀ text, tokenizer.Partitions text) ∧
      (∀ grammar : Grammar, tokenizer = grammar.tokenizer → ∀ text steps, text.length ≤ steps →
        Grammar.lexFrom steps (grammar.rules.map (·, .unknown)) (.start text) =
          tokenizer.lex text) ∧
      ∀ (session : Session σ) (outcome : Session σ × Report), Pass session outcome →
        outcome.1.tokenizer = tokenizer → Completed session.surface outcome := by
  refine ⟨own.partitions, ?_, ?_⟩
  · rintro grammar rfl text steps enough
    exact grammar.lexFrom_eq_lex enough
  · rintro session outcome pass rfl
    exact pass.completed fun text => (own.partitions text).covers

/-- A grammar in which every pattern also matches the empty text. -/
def emptyMatches : Grammar :=
  let run (c : Char) := Pattern.ofExpr (.repetition (.char (.single c)) 0 none true)
  { name := "Empty matches"
    regions := [
      { name := "quoted", opening := run '*', closing := run '!', kind := ⟨"Comment"⟩
        escape := some '!', singleLine := true }]
    patterns := [{ name := "letters", pattern := run 'a', kind := ⟨"Name"⟩, priority := 0 }] }

/-- Matches of the empty text neither stop the lexer nor leave an empty token. -/
theorem lexing_and_passes_complete_of_empty_matches :
    let text := "aé**!\naa".toList
    let tokenizer := emptyMatches.tokenizer
    let session : Session MemoryStore :=
      { bare (.ofText text) tokenizer with store := {}, snapshot := [] }
    tokenizer.OfLibrary ∧ tokenizer.Partitions text ∧ text.length ≤ 20 ∧
      Grammar.lexFrom 20 (emptyMatches.rules.map (·, .unknown)) (.start text) = [
        ⟨⟨"Name"⟩, ['a']⟩, ⟨.text, ['é']⟩, ⟨⟨"Comment"⟩, ['*', '*', '!']⟩, ⟨.text, ['\n']⟩,
        ⟨⟨"Name"⟩, ['a', 'a']⟩] ∧
      Completed session.surface (session.onEdit ⟨1, 0⟩) := by
  have own := Tokenizer.OfLibrary.grammar emptyMatches
  obtain ⟨partitions, ends, passes⟩ := @lexing_and_passes_complete MemoryStore _ _ own
  refine ⟨own, partitions _, by decide, ?_, passes _ _ (.edit _ _) (tokenizer_onEdit _ _)⟩
  rw [ends emptyMatches rfl _ _ (by decide)]
  decide +kernel

end Session

end Highlighter
