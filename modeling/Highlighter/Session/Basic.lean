import Highlighter.Registry
import Highlighter.Session.ChangedLines
import Highlighter.Settings.Store
import Highlighter.Surface.Edit
import Highlighter.Surface.Tagging
import Highlighter.Theme.Source
import Highlighter.Theme.Table
import Highlighter.Token.Mapping

/-!
# Highlighting sessions

A session keeps the tags of a surface in step with its text, the language and the theme. A full
pass rebuilds every tag. After an edit only the lines that differ from the text of the last pass
are tagged anew. A switch of theme or language either succeeds as a whole or changes nothing.
-/

namespace Highlighter

/-- How far the pass after an edit reaches. -/
inductive EditScope where
  /-- All lines that differ from the snapshot, and the line of the cursor. -/
  | affectedLines
  /-- The line of the cursor alone. -/
  | cursorLine
  deriving DecidableEq, Repr

/-- The kind of a pass. -/
inductive PassMode where
  /-- The text agreed with the snapshot, and nothing was touched. -/
  | skipped
  /-- Some lines were tagged anew. -/
  | incremental
  /-- All tags were rebuilt. -/
  | full
  deriving DecidableEq, Repr

/-- What a pass did. -/
structure Report where
  mode : PassMode
  firstLine : Nat
  lastLine : Nat
  /-- The number of spans that were tagged. -/
  spans : Nat
  /-- Whether the tokenizer gave back all of its text. -/
  complete : Bool
  deriving DecidableEq, Repr

/-- A surface with everything that its highlighting depends on. The settings store is of the
type `σ`. -/
structure Session (σ : Type) where
  surface : Surface
  registry : Registry
  tokenizer : Tokenizer
  /-- The identifier of the language, in lower case. -/
  language : String
  theme : Theme
  settings : Settings
  store : σ
  /-- The appearances announced to the window so far, the oldest first. -/
  announced : List Appearance := []
  scope : EditScope
  /-- The text as of the last complete pass. -/
  snapshot : Text
  /-- The kinds whose style has been looked up since the last full pass. -/
  configured : List String := []

namespace Session

variable {σ : Type}

/-- Open a session on a surface. The theme comes from the stored settings if they hold all of
it. Nothing is tagged yet. -/
def start [SettingsStore σ] (surface : Surface) (registry : Registry) (store : σ)
    (language : String := Registry.plainTextId) (scope : EditScope := .affectedLines) :
    Except Error (Session σ) := do
  let settings ← SettingsStore.load store
  let tokenizer ← registry.select language
  return {
    surface
    registry
    tokenizer
    language := Unicode.lowercase language
    theme := settings.theme.toOption.getD .dark
    settings
    store
    scope
    snapshot := surface.content }

/-- Give the tag of a kind its directive when the kind shows up for the first time. -/
def ensureConfigured (session : Session σ) (kind : TokenKind) : Session σ :=
  if session.configured.contains kind.name then session
  else
    let surface :=
      match session.theme.directive? kind with
      | some directive => session.surface.tagConfigure kind.name directive
      | none => session.surface
    { session with surface, configured := kind.name :: session.configured }

/-- Tag one span. -/
def tagSpan (session : Session σ) (span : Span) : Session σ :=
  let session := session.ensureConfigured span.kind
  { session with surface := session.surface.tagAdd span.kind.name span.start span.stop }

/-- Tag spans in order. -/
def tagSpans (session : Session σ) (spans : List Span) : Session σ :=
  spans.foldl tagSpan session

/-- Take a range out of every tag. -/
def clearRange (surface : Surface) (start stop : Position) : Surface :=
  surface.tagNames.foldl (fun surface name => surface.tagRemove name start stop) surface

/-- Drop every tag. -/
def dropTags (surface : Surface) : Surface :=
  surface.tagNames.foldl Surface.tagDelete surface

/-- The lines that the pass after an edit covers. -/
def window (session : Session σ) (cursor : Position) : Nat × Nat :=
  let line := max 1 (min cursor.line session.surface.lineCount)
  match session.scope with
  | .cursorLine => (line, line)
  | .affectedLines =>
    let (first, last) := changedLines session.snapshot session.surface.content
    (min first line, max last line)

/-- Tag the lines that an edit changed anew. If the tokenizer does not give back their text, the
snapshot stays as it was, so the next pass finds the same lines changed. -/
def onEdit (session : Session σ) (cursor : Position) : Session σ × Report :=
  let content := session.surface.content
  if content = session.snapshot then
    (session, ⟨.skipped, cursor.line, cursor.line, 0, true⟩)
  else
    let (first, last) := session.window cursor
    let start := Position.lineStart first
    let stop := session.surface.lineEnd last
    let cleared := { session with surface := clearRange session.surface start stop }
    let text := cleared.surface.text start stop
    let mapping := Mapping.ofTokens start text (session.tokenizer.lex text)
    let tagged := cleared.tagSpans mapping.spans
    ({ tagged with snapshot := if mapping.complete then content else session.snapshot },
      ⟨.incremental, first, last, mapping.spans.length, mapping.complete⟩)

/-- Rebuild every tag. If the tokenizer does not give back the text, the snapshot is emptied, so
the next edit leads to a pass. -/
def fullPass (session : Session σ) : Session σ × Report :=
  let directives := StyleTable.directives session.theme
  let surface :=
    directives.foldl (fun surface (kind, directive) => surface.tagConfigure kind directive)
      (dropTags session.surface)
  let kinds := directives.map fun (kind, _) => kind
  let configured := { session with surface, configured := kinds }
  let content := surface.content
  let mapping := Mapping.ofTokens .start content (session.tokenizer.lex content)
  let tagged := configured.tagSpans mapping.spans
  ({ tagged with snapshot := if mapping.complete then content else [] },
    ⟨.full, 1, tagged.surface.lineCount, mapping.spans.length, mapping.complete⟩)

/-! ### Switches

A switch changes a session in place, part after part, and stops at the first part that fails. -/

/-- A call that changes a session in place and may fail. What has changed before it fails stays
changed. -/
abbrev Step (σ α : Type) := ExceptT Error (StateM (Session σ)) α

namespace Step

variable {α : Type}

/-- The result of a call and the session that it leaves. -/
def run (step : Step σ α) (session : Session σ) : Except Error α × Session σ :=
  step session

/-- The session that a call leaves together with its result, or the error alone. -/
def outcome (step : Step σ α) (session : Session σ) : Except Error (Session σ × α) :=
  match step.run session with
  | (.ok result, after) => .ok (after, result)
  | (.error cause, _) => .error cause

end Step

/-- Rebuild every tag in place. -/
def rebuild : Step σ Report :=
  modifyGet fun session => (session.fullPass.2, session.fullPass.1)

/-- Save settings in the store of the session. -/
def saveSettings [SettingsStore σ] (settings : Settings) : Step σ Unit := do
  let store ← ofExcept (SettingsStore.save (← get).store settings)
  modify ({ · with store })

/-- Switch to another language and rebuild every tag. -/
def languageSwitch (id : String) : Step σ Report := do
  let tokenizer ← ofExcept ((← get).registry.select id)
  modify ({ · with tokenizer })
  modify ({ · with language := Unicode.lowercase id })
  rebuild

/-- Switch to another theme: load it, save it among the settings, announce its appearance and
rebuild every tag. -/
def themeSwitch [SettingsStore σ] (files : FileTree) (source : ThemeSource) : Step σ Report := do
  let theme ← ofExcept ((Theme.load files source).mapError .theme)
  let settings := (← get).settings.mergedWithTheme theme
  saveSettings settings
  modify ({ · with settings })
  modify ({ · with theme })
  modify fun session =>
    { session with announced := session.announced ++ [Appearance.ofTheme session.theme] }
  rebuild

/-- Switch to another language, for a caller that drops the session if that fails. -/
def switchLanguage (session : Session σ) (id : String) : Except Error (Session σ × Report) :=
  (languageSwitch id).outcome session

/-- Switch to another theme, for a caller that drops the session if that fails. -/
def switchTheme [SettingsStore σ] (session : Session σ) (files : FileTree)
    (source : ThemeSource) : Except Error (Session σ × Report) :=
  (themeSwitch files source).outcome session

end Session

end Highlighter
