import Highlighter.Proofs.Files.Tree
import Highlighter.Proofs.Style.Color
import Highlighter.Proofs.Toml.Flat
import Highlighter.Settings.Store
import Mathlib.Data.List.Nodup

/-!
# Settings that are kept

Settings of scalars are read back from the document that writes them (`Settings.parse_toToml`), so a
file keeps what is saved in it (`FileStore.load_of_save`). A theme that is put into settings is the
theme that they hold (`Settings.theme_mergedWithTheme`): the one key that both a role and the
appearance write gets the same color from both.
-/

namespace Highlighter

/-! ### Documents -/

namespace Settings

/-- Settings whose values are strings, whole numbers of 64 bits and booleans. Their keys are any
texts, distinct and in order as in every dictionary. -/
def Plain (settings : Settings) : Prop :=
  Toml.Flat settings.values

/-- The settings that hold the entries of a list; of two entries under one key, the later one. -/
def ofEntries (entries : List (String × Toml.Value)) : Settings :=
  entries.foldl (fun settings entry => { values := settings.values.insert entry.1 entry.2 }) .empty

variable {settings : Settings} {key value : String}

/-- Plain settings are read back from their document. -/
theorem parse_toToml (plain : settings.Plain) : parse settings.toToml = .ok settings := by
  rw [parse, toToml, Toml.parse?_toText plain]

theorem Plain.empty : Settings.empty.Plain :=
  ⟨.nil, by simp [Settings.empty]⟩

/-- Plain settings stay plain when a scalar is put under a key. -/
theorem Plain.insert (plain : settings.Plain) (key : String) {value : Toml.Value}
    (scalar : value.Scalar) : Plain { values := settings.values.insert key value } where
  ascending := Dict.ascending_insert plain.ascending
  scalar entry member := by
    rcases Dict.mem_insert member with rfl | old
    · exact scalar
    · exact plain.scalar entry old

/-- Scalars under any keys make plain settings. -/
theorem plain_ofEntries {entries : List (String × Toml.Value)}
    (scalar : ∀ entry ∈ entries, entry.2.Scalar) : (ofEntries entries).Plain := by
  rw [ofEntries]
  have plain := Plain.empty
  generalize Settings.empty = settings at plain ⊢
  induction entries generalizing settings with
  | nil => exact plain
  | cons entry others inductionHypothesis =>
      obtain ⟨first, later⟩ := List.forall_mem_cons.mp scalar
      exact inductionHypothesis later _ (plain.insert entry.1 first)

theorem Plain.set (plain : settings.Plain) (key value : String) : (settings.set key value).Plain :=
  plain.insert key (.string value)

theorem Plain.setAll (plain : settings.Plain) (entries : List (String × String)) :
    (settings.setAll entries).Plain := by
  induction entries generalizing settings with
  | nil => exact plain
  | cons entry others inductionHypothesis => exact inductionHypothesis (plain.set entry.1 entry.2)

/-- Plain settings stay plain when a theme is put into them. -/
theorem Plain.mergedWithTheme (plain : settings.Plain) (theme : Theme) :
    (settings.mergedWithTheme theme).Plain :=
  (plain.setAll theme.entries).setAll _

/-! ### Themes -/

@[simp] theorem get?_set_self : (settings.set key value).get? key = some value := by
  simp [get?, value?, set, Toml.Value.string?]

theorem get?_set_of_ne {other : String} (different : other ≠ key) :
    (settings.set key value).get? other = settings.get? other := by
  rw [get?, value?, set, Dict.find?_insert_of_ne different]
  rfl

/-- Of several strings under one key the last counts, so a key under which only one string is put
holds that string. -/
theorem get?_setAll {entries : List (String × String)}
    (single : ∀ entry ∈ entries, entry.1 = key → entry.2 = value)
    (present : (key, value) ∈ entries ∨ settings.get? key = some value) :
    (settings.setAll entries).get? key = some value := by
  induction entries generalizing settings with
  | nil => exact present.resolve_left List.not_mem_nil
  | cons entry others inductionHypothesis =>
      obtain ⟨other, held⟩ := entry
      obtain ⟨first, later⟩ := List.forall_mem_cons.mp single
      refine inductionHypothesis later ?_
      by_cases same : other = key
      · obtain rfl : held = value := first same
        subst same
        exact .inr get?_set_self
      · refine present.imp (fun member => ?_) fun old => ?_
        · rcases List.mem_cons.mp member with equal | behind
          · exact absurd (congrArg Prod.fst equal).symm same
          · exact behind
        · rw [get?_set_of_ne (Ne.symm same), old]

end Settings

namespace Role

/-- Every role is listed. -/
theorem mem_all (role : Role) : role ∈ all := by
  cases role <;> decide

/-- No two roles share a key. -/
theorem eq_of_key_eq {left right : Role} (same : left.key = right.key) : left = right := by
  have distinct : (all.map key).Nodup := by decide
  exact List.inj_on_of_nodup_map distinct (mem_all left) (mem_all right) same

end Role

/-- The appearance that follows from a theme writes no other color under the key of a role. -/
theorem Appearance.eq_of_mem_entries {theme : Theme} {entry : String × String}
    (member : entry ∈ (ofTheme theme).entries) {role : Role} (same : entry.1 = role.key) :
    entry.2 = (theme.color role).toHex := by
  obtain ⟨key, color⟩ := entry
  obtain rfl : key = role.key := same
  rw [entries] at member
  cases role <;> simp_all [Role.key, Theme.color, ofTheme]

/-- The theme of a look-up is found if the color of every role is. -/
theorem Theme.ofLookUp_of_found {lookUp : String → Option String} {theme : Theme}
    (found : ∀ role, lookUpColor lookUp role = .ok (theme.color role)) :
    ofLookUp lookUp = .ok theme := by
  rw [ofLookUp]
  simp only [found, Bind.bind, Except.bind]
  rfl

/-- The theme that a look-up holds is found if it has the color of every role. -/
theorem Theme.ofLookUp_eq {lookUp : String → Option String} {theme : Theme}
    (holds : ∀ role : Role, lookUp role.key = some (theme.color role).toHex) :
    ofLookUp lookUp = .ok theme := by
  refine ofLookUp_of_found fun role => ?_
  rw [lookUpColor, holds role]
  simp

/-- A theme that is put into settings is the theme that they hold. -/
theorem Settings.theme_mergedWithTheme (settings : Settings) (theme : Theme) :
    (settings.mergedWithTheme theme).theme = .ok theme := by
  refine Theme.ofLookUp_eq fun role => ?_
  refine get?_setAll (fun entry member same => Appearance.eq_of_mem_entries member same) (.inr ?_)
  refine get?_setAll (fun entry member same => ?_) (.inl ?_)
  · obtain ⟨other, -, rfl⟩ := List.mem_map.mp member
    rw [Role.eq_of_key_eq same]
  · exact List.mem_map_of_mem (Role.mem_all role)

/-! ### Files -/

/-- Plain settings that are saved are loaded again. -/
theorem FileStore.load_of_save {store next : FileStore} {settings : Settings}
    (plain : settings.Plain) (saved : store.save settings = .ok next) :
    next.load = .ok settings := by
  rw [save] at saved
  split at saved
  next files written =>
    obtain rfl := Except.ok.inj saved
    rw [load, FileTree.read_of_write written]
    exact Settings.parse_toToml plain
  next => simp at saved

end Highlighter
