/-!
# Paths

A path is a text whose names are separated by slashes. Only the parts that other modules ask
for are read off it: its names, its file name and its extension.
-/

namespace Highlighter.Path

/-- The names between the slashes. -/
def segments : List Char → List (List Char)
  | [] => [[]]
  | c :: rest =>
    if c = '/' then [] :: segments rest
    else
      match segments rest with
      | [] => [[c]]
      | segment :: others => (c :: segment) :: others

/-- Whether a path starts at the root. -/
def isAbsolute (path : String) : Bool :=
  path.toList.head? == some '/'

/-- The components of a path. Empty names and single dots are no components, except that a
single dot at the very start of the path is one. -/
def components (path : String) : List (List Char) :=
  match segments path.toList with
  | ['.'] :: others => ['.'] :: others.filter isComponent
  | all => all.filter isComponent
where
  isComponent (segment : List Char) : Bool :=
    !segment.isEmpty && segment != ['.']

/-- The last component, unless it leads to the current or the parent directory. -/
def fileName? (path : String) : Option (List Char) :=
  (components path).getLast?.filter fun name => name != ['.'] && name != ['.', '.']

/-- What follows the last dot of a file name. A dot at the start of the name begins no
extension. -/
def extension? (path : String) : Option (List Char) :=
  (fileName? path).bind fun name =>
    match name.reverse.span (· != '.') with
    | (_, []) | (_, ['.']) => none
    | (extension, _) => some extension.reverse

/-- A name below a directory. -/
def join (directory name : String) : String :=
  match directory.toList.getLast? with
  | none | some '/' => directory ++ name
  | _ => directory ++ "/" ++ name

end Highlighter.Path
