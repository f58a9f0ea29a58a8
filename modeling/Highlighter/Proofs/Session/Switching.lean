import Highlighter.Proofs.Session.FullPass
import Highlighter.Proofs.Session.Incremental
import Highlighter.Proofs.Unicode.Lowercase

/-!
# Switches are all or nothing

A switch changes a session in place: the store, the settings, the theme, the window and at last the
surface. `Session.languageSwitch_eq` and `Session.themeSwitch_eq` say where it can stop. Whatever
can fail comes before the first change, so a switch that fails leaves the session as it was, and
one that succeeds has done all of its parts once. The tokenizer follows the language in every
session that calls lead to, because lower case is settled.
-/

namespace Highlighter

/-- A store keeps what is saved: it gives back the settings of the last save. -/
def SettingsStore.Keeps (σ : Type) [SettingsStore σ] : Prop :=
  ∀ {store next : σ} {settings : Settings}, SettingsStore.save store settings = .ok next →
    SettingsStore.load next = .ok settings

/-- A store in memory keeps what is saved. -/
theorem MemoryStore.keeps : SettingsStore.Keeps MemoryStore := by
  intro store next settings saved
  obtain rfl := Except.ok.inj saved
  rfl

/-- A tokenizer that is found under an identifier is found under its lower case. -/
theorem Registry.select_lowercase {registry : Registry} {id : String} {tokenizer : Tokenizer}
    (selected : registry.select id = .ok tokenizer) :
    registry.select (Unicode.lowercase id) = .ok tokenizer := by
  simp only [select, find?, Unicode.lowercase_lowercase] at selected ⊢
  split at selected
  next found => simpa [found] using selected
  next => simp at selected

namespace Session

variable {σ : Type}

/-! ### The parts of a call -/

namespace Step

variable {α β : Type} (session : Session σ)

/-- To look at the session changes nothing. -/
@[simp] theorem get_bind (next : Session σ → Step σ β) :
    (get >>= next).run session = (next session).run session := rfl

/-- What cannot be had stops the call, and the session stays as it is at that place. -/
theorem ofExcept_bind (result : Except Error α) (next : α → Step σ β) :
    ((ofExcept result : Step σ α) >>= next).run session =
      match result with
      | .error cause => (.error cause, session)
      | .ok value => (next value).run session := by
  cases result <;> rfl

/-- A store that refuses stops the call and stays as it is. -/
theorem saveSettings_bind [SettingsStore σ] (settings : Settings) (next : PUnit → Step σ β) :
    (saveSettings settings >>= next).run session =
      match SettingsStore.save session.store settings with
      | .error cause => (.error cause, session)
      | .ok store => (next ⟨⟩).run { session with store } := by
  rw [saveSettings, bind_assoc, get_bind, bind_assoc, ofExcept_bind]
  rfl

end Step

/-- The session that a switch to a theme rebuilds. -/
def withTheme (session : Session σ) (theme : Theme) (store : σ) : Session σ :=
  { session with
    settings := session.settings.mergedWithTheme theme
    store
    theme
    announced := session.announced ++ [Appearance.ofTheme theme] }

/-- A switch of the language fails before it changes anything, or is a full pass with the
tokenizer that was found. -/
theorem languageSwitch_eq (session : Session σ) (id : String) :
    (languageSwitch id).run session =
      match session.registry.select id with
      | .error cause => (.error cause, session)
      | .ok tokenizer =>
        let rebuilt := fullPass { session with tokenizer, language := Unicode.lowercase id }
        (.ok rebuilt.2, rebuilt.1) := by
  rw [languageSwitch, Step.get_bind, Step.ofExcept_bind]
  cases session.registry.select id <;> rfl

/-- A switch of the theme fails before it changes anything, while it loads the theme or saves the
settings, or is a full pass on the session with that theme. -/
theorem themeSwitch_eq [SettingsStore σ] (session : Session σ) (files : FileTree)
    (source : ThemeSource) :
    (themeSwitch files source).run session =
      match Theme.load files source with
      | .error cause => (.error (.theme cause), session)
      | .ok theme =>
        match SettingsStore.save session.store (session.settings.mergedWithTheme theme) with
        | .error cause => (.error cause, session)
        | .ok store =>
          let rebuilt := fullPass (session.withTheme theme store)
          (.ok rebuilt.2, rebuilt.1) := by
  rw [themeSwitch, Step.ofExcept_bind]
  cases Theme.load files source with
  | error cause => rfl
  | ok theme =>
      dsimp only [Except.mapError]
      rw [Step.get_bind, Step.saveSettings_bind]
      cases SettingsStore.save session.store (session.settings.mergedWithTheme theme) <;> rfl

/-! ### What a switch leaves behind -/

/-- Why a switch of the theme fails: the theme cannot be loaded, or the settings with it cannot be
saved. -/
inductive ThemeRefused [SettingsStore σ] (session : Session σ) (files : FileTree)
    (source : ThemeSource) : Error → Prop where
  | load {cause : ThemeError} (refused : Theme.load files source = .error cause) :
      ThemeRefused session files source (.theme cause)
  | save {theme : Theme} {cause : Error} (loaded : Theme.load files source = .ok theme)
      (refused : SettingsStore.save session.store (session.settings.mergedWithTheme theme) =
        .error cause) :
      ThemeRefused session files source cause

/-- What a switch of the theme has done when it succeeds. -/
structure ThemeSwitched [SettingsStore σ] (files : FileTree) (source : ThemeSource)
    (before after : Session σ) (report : Report) : Prop where
  loaded : Theme.load files source = .ok after.theme
  settings : after.settings = before.settings.mergedWithTheme after.theme
  /-- The store is what a single save makes of the store before. -/
  saved : SettingsStore.save before.store after.settings = .ok after.store
  announced : after.announced = before.announced ++ [Appearance.ofTheme after.theme]
  /-- All the rest is what a full pass makes of the session with the new theme. -/
  rebuilt : (after, report) = fullPass
    { before with
      theme := after.theme
      settings := after.settings
      store := after.store
      announced := after.announced }

/-- A switch of the language fails exactly if the identifier is unknown, and changes nothing
then. -/
theorem languageSwitch_eq_error_iff {session after : Session σ} {id : String} {cause : Error} :
    (languageSwitch id).run session = (.error cause, after) ↔
      after = session ∧ session.registry.select id = .error cause := by
  rw [languageSwitch_eq]
  cases session.registry.select id <;> simp [eq_comm, and_comm]

/-- A switch of the theme fails exactly if the theme is refused, and changes nothing then. -/
theorem themeSwitch_eq_error_iff [SettingsStore σ] {session after : Session σ} {files : FileTree}
    {source : ThemeSource} {cause : Error} :
    (themeSwitch files source).run session = (.error cause, after) ↔
      after = session ∧ session.ThemeRefused files source cause := by
  rw [themeSwitch_eq]
  constructor
  · intro failed
    split at failed
    next refusal refused =>
      obtain ⟨rfl, rfl⟩ : Error.theme refusal = cause ∧ session = after := by simpa using failed
      exact ⟨rfl, .load refused⟩
    next theme loaded =>
      split at failed
      next refusal refused =>
        obtain ⟨rfl, rfl⟩ : refusal = cause ∧ session = after := by simpa using failed
        exact ⟨rfl, .save loaded refused⟩
      next => simp at failed
  · rintro ⟨rfl, refused⟩
    cases refused with
    | load refused => rw [refused]
    | save loaded refused => simp only [loaded, refused]

/-- A full pass keeps what a switch of the theme puts in place. -/
theorem kept_fullPass (session : Session σ) :
    session.fullPass.1.theme = session.theme ∧
      session.fullPass.1.settings = session.settings ∧
      session.fullPass.1.store = session.store ∧
      session.fullPass.1.announced = session.announced := by
  obtain ⟨surface, configured, fields⟩ := session.fields_fullPass
  simp only [fields, and_self]

/-- A switch of the theme succeeds exactly with what `ThemeSwitched` says. -/
theorem themeSwitch_eq_ok_iff [SettingsStore σ] {session after : Session σ} {files : FileTree}
    {source : ThemeSource} {report : Report} :
    (themeSwitch files source).run session = (.ok report, after) ↔
      ThemeSwitched files source session after report := by
  rw [themeSwitch_eq]
  constructor
  · intro succeeded
    split at succeeded
    next => simp at succeeded
    next theme loaded =>
      split at succeeded
      next => simp at succeeded
      next store saved =>
        obtain ⟨rfl, rfl⟩ : (fullPass (session.withTheme theme store)).2 = report ∧
            (fullPass (session.withTheme theme store)).1 = after := by simpa using succeeded
        obtain ⟨sameTheme, sameSettings, sameStore, sameAnnounced⟩ :=
          kept_fullPass (session.withTheme theme store)
        exact {
          loaded := by rw [sameTheme]; exact loaded
          settings := by rw [sameSettings, sameTheme]; rfl
          saved := by rw [sameSettings, sameStore]; exact saved
          announced := by rw [sameAnnounced, sameTheme]; rfl
          rebuilt := by rw [sameTheme, sameSettings, sameStore, sameAnnounced]; rfl }
  · intro switched
    have made : session.withTheme after.theme after.store =
        { session with
          theme := after.theme
          settings := after.settings
          store := after.store
          announced := after.announced } := by
      rw [withTheme, switched.settings, switched.announced]
    rw [switched.loaded]
    dsimp only
    rw [← switched.settings, switched.saved]
    dsimp only
    rw [made, ← switched.rebuilt]

/-! ### The tokenizer of the language -/

/-- The sessions that calls lead to. A caller may do whatever it likes to the surface, and a call
that fails leaves its session behind as well. -/
inductive Reached [SettingsStore σ] : Session σ → Prop where
  | start {surface : Surface} {registry : Registry} {store : σ} {language : String}
      {scope : EditScope} {session : Session σ}
      (started : Session.start surface registry store language scope = .ok session) :
      Reached session
  | surface {session : Session σ} (prior : Reached session) (surface : Surface) :
      Reached { session with surface }
  | scope {session : Session σ} (prior : Reached session) (scope : EditScope) :
      Reached { session with scope }
  | onEdit {session : Session σ} (prior : Reached session) (cursor : Position) :
      Reached (session.onEdit cursor).1
  | fullPass {session : Session σ} (prior : Reached session) : Reached session.fullPass.1
  | languageSwitch {session : Session σ} (prior : Reached session) (id : String) :
      Reached ((languageSwitch id).run session).2
  | themeSwitch {session : Session σ} (prior : Reached session) (files : FileTree)
      (source : ThemeSource) : Reached ((themeSwitch files source).run session).2

/-- The tokenizer is the one of the language. -/
def Settled (session : Session σ) : Prop :=
  session.registry.select session.language = .ok session.tokenizer

/-- A session opens with the tokenizer of its language. -/
theorem settled_start [SettingsStore σ] {surface : Surface} {registry : Registry} {store : σ}
    {language : String} {scope : EditScope} {session : Session σ}
    (started : Session.start surface registry store language scope = .ok session) :
    session.Settled := by
  rw [Session.start] at started
  cases loaded : SettingsStore.load store with
  | error cause => simp [loaded, Bind.bind, Except.bind] at started
  | ok settings =>
      cases selected : registry.select language with
      | error cause => simp [loaded, selected, Bind.bind, Except.bind] at started
      | ok tokenizer =>
          simp only [loaded, selected, Bind.bind, Except.bind, Pure.pure, Except.pure,
            Except.ok.injEq] at started
          subst started
          exact Registry.select_lowercase selected

/-- A full pass keeps the language and its tokenizer. -/
theorem Settled.fullPass {session : Session σ} (settled : session.Settled) :
    session.fullPass.1.Settled := by
  obtain ⟨surface, configured, fields⟩ := session.fields_fullPass
  rw [fields]
  exact settled

/-- The pass after an edit keeps the language and its tokenizer. -/
theorem Settled.onEdit {session : Session σ} (settled : session.Settled) (cursor : Position) :
    (session.onEdit cursor).1.Settled := by
  obtain ⟨surface, configured, snapshot, fields⟩ := session.fields_onEdit cursor
  rw [fields]
  exact settled

/-- A switch of the language changes the language together with its tokenizer. -/
theorem Settled.languageSwitch {session : Session σ} (settled : session.Settled) (id : String) :
    ((languageSwitch id).run session).2.Settled := by
  rw [languageSwitch_eq]
  cases selected : session.registry.select id with
  | error cause => exact settled
  | ok tokenizer =>
      have switched : Settled
          { session with tokenizer, language := Unicode.lowercase id } :=
        Registry.select_lowercase selected
      exact switched.fullPass

/-- A switch of the theme keeps the language and its tokenizer. -/
theorem Settled.themeSwitch [SettingsStore σ] {session : Session σ} (settled : session.Settled)
    (files : FileTree) (source : ThemeSource) :
    ((themeSwitch files source).run session).2.Settled := by
  rw [themeSwitch_eq]
  split
  next => exact settled
  next theme loaded =>
    split
    next => exact settled
    next store saved =>
      have themed : (session.withTheme theme store).Settled := settled
      exact themed.fullPass

/-- In every session that calls lead to, the tokenizer is the one of the language. -/
theorem Settled.of_reached [SettingsStore σ] {session : Session σ} (reached : Reached session) :
    session.Settled := by
  induction reached with
  | start started => exact settled_start started
  | surface prior surface settled => exact settled
  | scope prior scope settled => exact settled
  | onEdit prior cursor settled => exact settled.onEdit cursor
  | fullPass prior settled => exact settled.fullPass
  | languageSwitch prior id settled => exact settled.languageSwitch id
  | themeSwitch prior files source settled => exact settled.themeSwitch files source

/-- Switches are all or nothing. A switch that fails leaves the session as it was; it fails exactly
if the language is unknown, or the theme cannot be loaded or saved. A switch of the theme that
succeeds has loaded the theme, saved the settings with it once, announced its appearance once and
made a full pass, and a store that keeps what is saved holds the new settings. In every session
that calls lead to, the tokenizer is the one that the registry has for the language. -/
theorem switches_all_or_nothing [SettingsStore σ] :
    (∀ {session after : Session σ} {id cause},
      (languageSwitch id).run session = (.error cause, after) ↔
        after = session ∧ session.registry.select id = .error cause) ∧
    (∀ {session after : Session σ} {files source cause},
      (themeSwitch files source).run session = (.error cause, after) ↔
        after = session ∧ session.ThemeRefused files source cause) ∧
    (∀ {session after : Session σ} {files source report},
      (themeSwitch files source).run session = (.ok report, after) ↔
        ThemeSwitched files source session after report) ∧
    (SettingsStore.Keeps σ → ∀ {session after : Session σ} {files source report},
      (themeSwitch files source).run session = (.ok report, after) →
        SettingsStore.load after.store = .ok after.settings) ∧
    ∀ {session : Session σ}, Reached session →
      session.registry.select session.language = .ok session.tokenizer := by
  refine ⟨languageSwitch_eq_error_iff, themeSwitch_eq_error_iff, themeSwitch_eq_ok_iff, ?_,
    Settled.of_reached⟩
  intro keeps session after files source report succeeded
  exact keeps (themeSwitch_eq_ok_iff.mp succeeded).saved

/-- A document that gives a color to every role. -/
def document (theme : Theme) : Text :=
  theme.entries.flatMap fun (key, color) => key.toList ++ ['=', '"'] ++ color.toList ++ ['"', '\n']

/-- A theme that is written out is switched to, with one save and one announcement. A text that is
no document, an empty document and an identifier that is not registered change nothing. -/
theorem switches_all_or_nothing_of_document :
    let theme : Theme := { Theme.dark with comment := ⟨1, 2, 3⟩ }
    ∃ session : Session MemoryStore,
      Session.start (.ofText ['a']) .plainTextOnly ({} : MemoryStore) = .ok session ∧
        (∃ report after,
          (themeSwitch {} (.inline (document theme))).run session = (.ok report, after) ∧
            after.theme = theme ∧ after.store.saves = 1 ∧
            SettingsStore.load after.store = .ok (Settings.empty.mergedWithTheme theme) ∧
            after.announced = [Appearance.ofTheme theme] ∧
            after.registry.select after.language = .ok after.tokenizer) ∧
        (themeSwitch {} (.inline ['?'])).run session = (.error (.theme .malformed), session) ∧
        (themeSwitch {} (.inline [])).run session =
          (.error (.theme (.missingKey "comment_color")), session) ∧
        (languageSwitch "none").run session = (.error (.unknownLanguage "none"), session) := by
  intro theme
  have loaded : Theme.load {} (.inline (document theme)) = .ok theme := by decide +kernel
  obtain ⟨session, started, registry, settings, store, announced⟩ : ∃ session : Session MemoryStore,
      Session.start (.ofText ['a']) .plainTextOnly ({} : MemoryStore) = .ok session ∧
        session.registry = .plainTextOnly ∧ session.settings = .empty ∧ session.store = {} ∧
        session.announced = [] := ⟨_, rfl, rfl, rfl, rfl, rfl⟩
  obtain ⟨language, refused, switched, kept, settled⟩ :=
    @switches_all_or_nothing MemoryStore _
  refine ⟨session, started, ?_, refused.mpr ⟨rfl, .load rfl⟩, refused.mpr ⟨rfl, .load rfl⟩,
    language.mpr ⟨rfl, by rw [registry]; rfl⟩⟩
  obtain ⟨report, after, succeeded⟩ : ∃ report after,
      (themeSwitch {} (.inline (document theme))).run session = (.ok report, after) := by
    rw [themeSwitch_eq, loaded]
    exact ⟨_, _, rfl⟩
  have done := switched.mp succeeded
  have sameTheme : after.theme = theme := Except.ok.inj (done.loaded.symm.trans loaded)
  have merged : after.settings = Settings.empty.mergedWithTheme theme := by
    rw [done.settings, settings, sameTheme]
  have reached := Reached.themeSwitch (.start started) {} (.inline (document theme))
  rw [succeeded] at reached
  refine ⟨report, after, succeeded, sameTheme, ?_, ?_, ?_, settled reached⟩
  · have saved := done.saved
    rw [store] at saved
    rw [← Except.ok.inj saved]
  · rw [kept MemoryStore.keeps succeeded, merged]
  · rw [done.announced, announced, sameTheme, List.nil_append]

end Session

end Highlighter
