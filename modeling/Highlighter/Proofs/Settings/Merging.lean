import Highlighter.Proofs.Settings.Persistence

/-!
# Merging a theme into settings

A merge puts strings under the keys of the roles and then under those of the appearance. The later
of two strings under one key stays, so the settings hold the last theme that was merged into them,
and nothing of an earlier one (`Settings.merging_overwrites_cleanly`).
-/

namespace Highlighter

/-- No key of an appearance is written twice. -/
theorem Appearance.nodup_map_fst_entries (appearance : Appearance) :
    (appearance.entries.map (·.1)).Nodup := by
  simp [entries]

namespace Settings

variable {settings : Settings} {key other : String} {entries later : List (String × String)}

/-! ### Strings under keys -/

theorem setAll_cons (settings : Settings) (entry : String × String)
    (entries : List (String × String)) :
    settings.setAll (entry :: entries) = (settings.set entry.1 entry.2).setAll entries := rfl

/-- Of two strings that are put under one key, the later one stays. -/
theorem set_set_self (settings : Settings) (key value second : String) :
    (settings.set key value).set key second = settings.set key second := by
  simp only [set, Dict.insert_insert_self]

/-- Strings under different keys can be put in either order. -/
theorem set_comm (different : key ≠ other) (settings : Settings) (value second : String) :
    (settings.set key value).set other second = (settings.set other second).set key value := by
  simp only [set, Dict.insert_comm different]

/-- A key under which nothing is put keeps its value, or stays without one. -/
theorem value?_setAll_of_ne (untouched : ∀ entry ∈ entries, entry.1 ≠ key) :
    (settings.setAll entries).value? key = settings.value? key := by
  induction entries generalizing settings with
  | nil => rfl
  | cons entry others inductionHypothesis =>
      obtain ⟨different, behind⟩ := List.forall_mem_cons.mp untouched
      calc (settings.setAll (entry :: others)).value? key
        _ = (settings.set entry.1 entry.2).value? key := inductionHypothesis behind
        _ = settings.value? key := Dict.find?_insert_of_ne (Ne.symm different)

/-- A string is lost when another one is put under its key later. -/
theorem setAll_set (written : key ∈ entries.map (·.1)) (value : String) :
    (settings.set key value).setAll entries = settings.setAll entries := by
  induction entries generalizing settings with
  | nil => exact absurd written List.not_mem_nil
  | cons entry others inductionHypothesis =>
      rw [setAll_cons, setAll_cons]
      by_cases same : key = entry.1
      · rw [same, set_set_self]
      · have behind := (List.mem_cons.mp written).resolve_left same
        rw [set_comm same, inductionHypothesis behind]

/-- Nothing stays of entries whose keys are all written again later. -/
theorem setAll_setAll (written : entries.map (·.1) ⊆ later.map (·.1)) :
    (settings.setAll entries).setAll later = settings.setAll later := by
  induction entries generalizing settings with
  | nil => rfl
  | cons entry others inductionHypothesis =>
      obtain ⟨first, behind⟩ := List.cons_subset.mp written
      rw [setAll_cons, inductionHypothesis behind, setAll_set first]

/-! ### Themes -/

/-- A merge writes the entries of the theme and behind them those of its appearance. -/
theorem mergedWithTheme_eq (settings : Settings) (theme : Theme) :
    settings.mergedWithTheme theme =
      settings.setAll (theme.entries ++ (Appearance.ofTheme theme).entries) :=
  List.foldl_append.symm

/-- All themes write the same keys. -/
theorem map_fst_mergedEntries (theme next : Theme) :
    (theme.entries ++ (Appearance.ofTheme theme).entries).map (·.1) =
      (next.entries ++ (Appearance.ofTheme next).entries).map (·.1) := by
  simp [Theme.entries, Appearance.entries]

/-- Settings with a theme hold that theme and every entry of its appearance, and all other keys as
they were. A theme that is merged later replaces it without a trace. -/
theorem merging_overwrites_cleanly (settings : Settings) (theme next : Theme) :
    (settings.mergedWithTheme theme).theme = .ok theme ∧
      (∀ entry ∈ (Appearance.ofTheme theme).entries,
        (settings.mergedWithTheme theme).get? entry.1 = some entry.2) ∧
      (∀ key, (∀ role : Role, role.key ≠ key) →
        (∀ entry ∈ (Appearance.ofTheme theme).entries, entry.1 ≠ key) →
          (settings.mergedWithTheme theme).value? key = settings.value? key) ∧
      (settings.mergedWithTheme theme).mergedWithTheme next = settings.mergedWithTheme next := by
  refine ⟨theme_mergedWithTheme settings theme, fun entry member => ?held,
    fun key noRole noAppearance => ?untouched, ?overwritten⟩
  case held =>
    -- The appearance is written last, and each of its keys once.
    refine get?_setAll (fun other listed same => ?_) (.inl member)
    rw [List.inj_on_of_nodup_map (Appearance.nodup_map_fst_entries _) listed member same]
  case untouched =>
    rw [mergedWithTheme_eq]
    refine value?_setAll_of_ne fun entry member => ?_
    rcases List.mem_append.mp member with ofRole | ofAppearance
    · obtain ⟨role, -, rfl⟩ := List.mem_map.mp ofRole
      exact noRole role
    · exact noAppearance entry ofAppearance
  case overwritten =>
    simp only [mergedWithTheme_eq]
    refine setAll_setAll fun key written => ?_
    rwa [map_fst_mergedEntries theme next] at written

/-- A number under the key of a role gives way to the color, and one under another key stays. -/
theorem merging_overwrites_cleanly_of_numbers :
    let settings : Settings :=
      { values := [("comment_color", .integer 3), ("font_size", .integer 14)] }
    (∀ role : Role, role.key ≠ "font_size") ∧
      (∀ entry ∈ (Appearance.ofTheme .dark).entries, entry.1 ≠ "font_size") ∧
      (settings.mergedWithTheme .dark).theme = .ok .dark ∧
      (settings.mergedWithTheme .dark).value? "font_size" = some (.integer 14) := by
  intro settings
  have noRole : ∀ role : Role, role.key ≠ "font_size" := fun role => by cases role <;> decide
  have noAppearance : ∀ entry ∈ (Appearance.ofTheme .dark).entries, entry.1 ≠ "font_size" := by
    simp [Appearance.entries]
  have size : settings.value? "font_size" = some (.integer 14) := rfl
  obtain ⟨held, -, others, -⟩ := merging_overwrites_cleanly settings .dark .dark
  exact ⟨noRole, noAppearance, held, (others _ noRole noAppearance).trans size⟩

end Settings

end Highlighter
