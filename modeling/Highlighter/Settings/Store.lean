import Highlighter.Settings.Basic

/-!
# Settings stores

A store keeps settings from one session to the next. Saving gives the store as it is afterwards;
a store that refuses to save stays as it was.
-/

namespace Highlighter

/-- A place that keeps settings. -/
class SettingsStore (σ : Type) where
  /-- The settings that are kept. -/
  load : σ → Except Error Settings
  /-- The store that keeps other settings. -/
  save : σ → Settings → Except Error σ

/-- A store in memory. -/
structure MemoryStore where
  settings : Settings := {}
  /-- The number of completed saves. -/
  saves : Nat := 0

instance : SettingsStore MemoryStore where
  load store := .ok store.settings
  save store settings := .ok { settings, saves := store.saves + 1 }

/-- A store in a file of a file tree. -/
structure FileStore where
  files : FileTree
  path : String

namespace FileStore

/-- The settings in the file. A missing file holds none. -/
def load (store : FileStore) : Except Error Settings :=
  match store.files.read store.path with
  | .ok text => Settings.parse text
  | .error .notFound => .ok {}
  | .error cause => .error (.file cause)

/-- Write settings to the file. -/
def save (store : FileStore) (settings : Settings) : Except Error FileStore :=
  match store.files.write store.path settings.toToml with
  | .ok files => .ok { store with files }
  | .error cause => .error (.file cause)

instance : SettingsStore FileStore where
  load := load
  save := save

end FileStore

end Highlighter
