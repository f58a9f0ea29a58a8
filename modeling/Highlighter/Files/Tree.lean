import Highlighter.Files.Path
import Highlighter.Text.Basic

/-!
# File trees

The files a command can see, as a value: reading gives a text or the reason why there is none,
and writing gives the tree as it is afterwards. The outer layer fills a tree from the disk and
brings the changes of a tree back to it.
-/

namespace Highlighter

/-- Why a file cannot be read or written. -/
inductive FileError where
  | notFound
  | notADirectory
  | isADirectory
  | nameTooLong
  /-- The file holds bytes that are no UTF-8 text. -/
  | notText
  /-- Any other reason, in the words of the system. -/
  | other (reason : String)
  deriving DecidableEq, Repr

/-- The wording of a file error. -/
def FileError.message : FileError → String
  | .notFound => "No such file or directory (os error 2)"
  | .notADirectory => "Not a directory (os error 20)"
  | .isADirectory => "Is a directory (os error 21)"
  | .nameTooLong => "File name too long (os error 36)"
  | .notText => "stream did not contain valid UTF-8"
  | .other reason => reason

/-- What a tree holds under a path. -/
inductive FileNode where
  | text (contents : Text)
  /-- A file whose bytes are no UTF-8 text. -/
  | binary
  | directory
  /-- Something that cannot be read, with the reason. -/
  | unreadable (error : FileError)
  deriving DecidableEq, Repr

/-- A location in a tree: the names on the way from the current directory or the root. Directories
around the current one have locations of their own, which begin with two dots. -/
abbrev Location := List (List Char)

/-- The name that begins the location of an absolute path. -/
def rootName : List Char := ['/']

/-- The name that leads to the enclosing directory. -/
def parentName : List Char := ['.', '.']

/-- Files and directories by location. The current directory, the directories around it and the
root are directories, and so is every location that lies on the way to an entry. -/
structure FileTree where
  entries : List (Location × FileNode) := []
  deriving DecidableEq, Repr

/-- The directory that encloses a location. The root encloses itself. -/
def Location.parent (location : Location) : Location :=
  if location.all (· == parentName) then location ++ [parentName]
  else if location = [rootName] then location
  else location.dropLast

namespace FileTree

/-- What is at a location. -/
def node? (tree : FileTree) (location : Location) : Option FileNode :=
  if location.all (· == parentName) ∨ location = [rootName] then some .directory
  else
    match tree.entries.lookup location with
    | some node => some node
    | none =>
      if tree.entries.any fun (other, _) => location.isPrefixOf other then some .directory
      else none

/-- The longest name that a file can have, in bytes. -/
def maxNameSize : Nat := 255

/-- The longest path that can be followed, in bytes. -/
def maxPathSize : Nat := 4095

/-- Go from a location to a name in it. Only a directory can be entered, be it to stay there or
to leave it again. An empty name, which stands between two slashes, leads nowhere else. -/
def step (tree : FileTree) (location : Location) (name : List Char) :
    Except FileError Location :=
  match tree.node? location with
  | none => .error .notFound
  | some .directory =>
    if name.isEmpty ∨ name = ['.'] then .ok location
    else if name = parentName then .ok location.parent
    else if (String.ofList name).utf8ByteSize > maxNameSize then .error .nameTooLong
    else .ok (location ++ [name])
  | some _ => .error .notADirectory

/-- Go from the root or the current directory through all names of a path. -/
def follow (tree : FileTree) (absolute : Bool) (names : List (List Char)) :
    Except FileError Location :=
  names.foldlM tree.step (if absolute then [rootName] else [])

/-- The location that a path leads to, where there may be nothing yet. The empty path leads
nowhere. -/
def locate (tree : FileTree) (path : String) : Except FileError Location :=
  if path.isEmpty then .error .notFound
  else if path.utf8ByteSize > maxPathSize then .error .nameTooLong
  else tree.follow (Path.isAbsolute path) (Path.segments path.toList)

/-- The text at a path. -/
def read (tree : FileTree) (path : String) : Except FileError Text := do
  match tree.node? (← tree.locate path) with
  | some (.text contents) => .ok contents
  | some .binary => .error .notText
  | some .directory => .error .isADirectory
  | some (.unreadable error) => .error error
  | none => .error .notFound

/-- Put a node at a location, in place of any node there before. -/
def place (tree : FileTree) (location : Location) (node : FileNode) : FileTree :=
  { entries := (location, node) :: tree.entries.filter (·.1 != location) }

/-- Remove what is at a location. -/
def remove (tree : FileTree) (location : Location) : FileTree :=
  { entries := tree.entries.filter (·.1 != location) }

/-- The location of the file that a path asks to write. A path that ends with a slash asks for a
directory, and only the way to its last name matters. -/
def locateFile (tree : FileTree) (path : String) : Except FileError Location :=
  match (Path.segments path.toList).reverse with
  | [] :: names@(_ :: _) =>
    if path.utf8ByteSize > maxPathSize then .error .nameTooLong
    else
      match tree.follow (Path.isAbsolute path) (names.dropWhile List.isEmpty).reverse with
      | .ok _ => .error .isADirectory
      | .error error => .error error
  | _ => tree.locate path

/-- Replace the text at a path, or create a file with that text in an existing directory. -/
def write (tree : FileTree) (path : String) (contents : Text) : Except FileError FileTree := do
  let location ← tree.locateFile path
  match tree.node? location with
  | some .directory => .error .isADirectory
  | some (.unreadable error) => .error error
  | _ => .ok (tree.place location (.text contents))

end FileTree

end Highlighter
