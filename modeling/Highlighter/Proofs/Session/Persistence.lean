import Highlighter.Proofs.Session.Switching
import Highlighter.Proofs.Settings.Persistence

/-!
# A theme survives the session

A switch of the theme saves the settings with the theme in them. In a file they are kept as they
are, so whoever opens the next session on the file finds the theme and the settings that the switch
left behind (`Session.settings_survive_in_file`).
-/

namespace Highlighter.Session

variable {σ : Type} [SettingsStore σ]

/-- A session opens with what the store holds, if its language is known. -/
theorem start_eq_ok {store : σ} {settings : Settings} {registry : Registry} {language : String}
    {tokenizer : Tokenizer} (loaded : SettingsStore.load store = .ok settings)
    (selected : registry.select language = .ok tokenizer) (surface : Surface) (scope : EditScope) :
    ∃ session, Session.start surface registry store language scope = .ok session ∧
      session.settings = settings ∧ session.theme = settings.theme.toOption.getD .dark := by
  rw [start, loaded, selected]
  exact ⟨_, rfl, rfl, rfl⟩

/-- A session opens with the settings of its store. -/
theorem load_of_start {store : σ} {surface : Surface} {registry : Registry} {language : String}
    {scope : EditScope} {session : Session σ}
    (started : Session.start surface registry store language scope = .ok session) :
    SettingsStore.load store = .ok session.settings := by
  rw [start] at started
  cases loaded : SettingsStore.load store with
  | error cause => simp [loaded, Bind.bind, Except.bind] at started
  | ok settings =>
      cases selected : registry.select language with
      | error cause => simp [loaded, selected, Bind.bind, Except.bind] at started
      | ok tokenizer =>
          simp only [loaded, selected, Bind.bind, Except.bind, Pure.pure, Except.pure,
            Except.ok.injEq] at started
          rw [← started]

/-- Strings, whole numbers of 64 bits and booleans under any keys make settings that are read back
from their document, and that are loaded from the file in which they are saved. A session opens with
the settings of its store. When a session with such settings over a file has switched to a theme,
every session that is opened on the file has the theme and the settings that the switch left
behind. -/
theorem settings_survive_in_file :
    (∀ {entries : List (String × Toml.Value)}, (∀ entry ∈ entries, entry.2.Scalar) →
      (Settings.ofEntries entries).Plain) ∧
    (∀ {settings : Settings}, settings.Plain →
      Settings.parse settings.toToml = .ok settings) ∧
    (∀ {store next : FileStore} {settings : Settings}, settings.Plain →
      SettingsStore.save store settings = .ok next → SettingsStore.load next = .ok settings) ∧
    (∀ {store : FileStore} {surface registry language scope} {session : Session FileStore},
      Session.start surface registry store language scope = .ok session →
        SettingsStore.load store = .ok session.settings) ∧
    ∀ {session after : Session FileStore} {files source report}, session.settings.Plain →
      (themeSwitch files source).run session = (.ok report, after) →
        Theme.load files source = .ok after.theme ∧
        ∀ {registry : Registry} {language tokenizer}, registry.select language = .ok tokenizer →
          ∀ surface scope, ∃ opened : Session FileStore,
            Session.start surface registry after.store language scope = .ok opened ∧
              opened.theme = after.theme ∧ opened.settings = after.settings := by
  refine ⟨Settings.plain_ofEntries, Settings.parse_toToml, FileStore.load_of_save,
    load_of_start, ?_⟩
  intro session after files source report plain succeeded
  have switched := themeSwitch_eq_ok_iff.mp succeeded
  have merged : after.settings.Plain := switched.settings ▸ plain.mergedWithTheme after.theme
  have kept : SettingsStore.load after.store = .ok after.settings :=
    FileStore.load_of_save merged switched.saved
  refine ⟨switched.loaded, fun selected surface scope => ?_⟩
  obtain ⟨opened, started, sameSettings, theme⟩ := start_eq_ok kept selected surface scope
  refine ⟨opened, started, ?_, sameSettings⟩
  rw [theme, switched.settings, Settings.theme_mergedWithTheme]
  rfl

/-- Settings under an empty key and a key with a quote, of which a string has three quotes of both
kinds, an end of a line, a backslash and a control character. They are saved, loaded, and kept
together with a theme. -/
theorem settings_survive_in_file_of_quotes :
    let theme : Theme := { Theme.dark with comment := ⟨1, 2, 3⟩ }
    let stored : Settings :=
      .ofEntries [("a\"b", .string "\n\x27\x27\x27\x7f\\\"\"\""), ("", .boolean true),
        ("c", .integer (-12))]
    ∃ (store : FileStore) (session after opened : Session FileStore) (report : Report),
      Settings.parse stored.toToml = .ok stored ∧
        SettingsStore.load store = .ok stored ∧
        Session.start (.ofText ['a']) .plainTextOnly store = .ok session ∧
        (themeSwitch {} (.inline (document theme))).run session = (.ok report, after) ∧
        Session.start (.ofText []) .plainTextOnly after.store = .ok opened ∧
        opened.theme = theme ∧ opened.settings = stored.mergedWithTheme theme := by
  intro theme stored
  have source : Theme.load {} (.inline (document theme)) = .ok theme := by decide +kernel
  obtain ⟨makesPlain, parses, saves, opens, switches⟩ := settings_survive_in_file
  have plain : stored.Plain := by
    apply makesPlain
    simp only [List.forall_mem_cons]
    exact ⟨.string _, .boolean _, .integer (by decide), by simp⟩
  have rewrites : ∀ old new : Text, ∃ written,
      FileTree.write { entries := [([['a']], .text old)] } "a" new = .ok written :=
    fun _ _ => ⟨_, rfl⟩
  let store : FileStore := { files := { entries := [([['a']], .text stored.toToml)] }, path := "a" }
  have kept : SettingsStore.load store = .ok stored :=
    @saves { files := {}, path := "a" } _ stored plain rfl
  obtain ⟨tokenizer, selected⟩ : ∃ tokenizer,
      Registry.plainTextOnly.select Registry.plainTextId = .ok tokenizer := ⟨_, rfl⟩
  obtain ⟨session, started, sameStore⟩ : ∃ session : Session FileStore,
      Session.start (.ofText ['a']) .plainTextOnly store = .ok session ∧ session.store = store := by
    rw [start, kept, selected]
    exact ⟨_, rfl, rfl⟩
  have sameSettings : session.settings = stored := Except.ok.inj ((opens started).symm.trans kept)
  obtain ⟨report, after, succeeded⟩ : ∃ report after,
      (themeSwitch {} (.inline (document theme))).run session = (.ok report, after) := by
    obtain ⟨written, writes⟩ :=
      rewrites stored.toToml (session.settings.mergedWithTheme theme).toToml
    rw [themeSwitch_eq, source, sameStore]
    simp only [SettingsStore.save, FileStore.save, store, writes]
    exact ⟨_, _, rfl⟩
  have switched := themeSwitch_eq_ok_iff.mp succeeded
  obtain ⟨loaded, reopens⟩ := switches (sameSettings ▸ plain) succeeded
  have sameTheme : after.theme = theme := Except.ok.inj (loaded.symm.trans source)
  obtain ⟨opened, again, openedTheme, openedSettings⟩ :=
    reopens selected (.ofText []) .affectedLines
  refine ⟨store, session, after, opened, report, parses plain, kept, started, succeeded, again,
    openedTheme.trans sameTheme, ?_⟩
  rw [openedSettings, switched.settings, sameSettings, sameTheme]

end Highlighter.Session
