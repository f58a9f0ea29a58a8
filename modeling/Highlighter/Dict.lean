/-!
# Dictionaries

Values under text keys. The entries are kept in ascending order of their keys, each key once,
so two dictionaries with the same content are equal and listing the keys needs no sorting.
Keys compare character by character, which is also the order of their UTF-8 bytes.
-/

namespace Highlighter

/-- Entries in ascending order of their keys. -/
abbrev Dict (α : Type u) := List (String × α)

namespace Dict

/-- The value under a key. -/
def find? {α : Type u} (dict : Dict α) (key : String) : Option α :=
  dict.lookup key

/-- Whether there is a value under a key. -/
def contains {α : Type u} (dict : Dict α) (key : String) : Bool :=
  (dict.find? key).isSome

/-- Put a value under a key, in place of any value there before. -/
def insert {α : Type u} (dict : Dict α) (key : String) (value : α) : Dict α :=
  match dict with
  | [] => [(key, value)]
  | (other, held) :: entries =>
    if key < other then (key, value) :: (other, held) :: entries
    else if key = other then (key, value) :: entries
    else (other, held) :: insert entries key value

/-- The keys in ascending order. -/
def keys {α : Type u} (dict : Dict α) : List String :=
  dict.map (·.1)

end Dict

end Highlighter
