import Highlighter.Command

/-!
# The program

The outer layer of the command: it looks at the files that the arguments name, runs the command
on them, and brings what it wrote and printed into the world.
-/

namespace Highlighter.Program

/-- What the disk holds under a path, or nothing if there is nothing. -/
def probe (path : String) : IO (Option FileNode) := do
  try
    let bytes ← IO.FS.readBinFile path
    match String.fromUTF8? bytes with
    | some text => return some (.text text.toList)
    | none => return some .binary
  catch
    | .noFileOrDirectory .. => return none
    | problem =>
      let isDirectory ← try (← IO.FS.realPath path).isDir catch _ => pure false
      return some (if isDirectory then .directory else .unreadable (.other (toString problem)))

/-- Bring what a path leads to, and everything on the way to it, into a tree. -/
def look (tree : FileTree) (path : String) : IO FileTree := do
  let names := Path.segments path.toList
  (List.range names.length).foldlM (fun tree depth => do
    let way := String.ofList (['/'].intercalate (names.take (depth + 1)))
    match tree.locate way with
    | .error _ => return tree
    | .ok location =>
      match ← probe way with
      | some node => return tree.place location node
      | none => return tree) tree

/-- The paths whose files a run may read or write. -/
def paths (arguments : List String) (home : Option String) : List String :=
  match Command.parseArguments? arguments with
  | none => []
  | some parsed =>
    parsed.file :: (parsed.theme.toList ++ (Command.settingsPath? parsed home).toList)

/-- Write the files that a run changed. -/
def store (paths : List String) (before after : FileTree) : IO Unit := do
  for path in paths do
    match before.read path, after.read path with
    | old, .ok contents =>
      if old.toOption ≠ some contents then IO.FS.writeFile path (String.ofList contents)
    | _, _ => pure ()

/-- Run the command on the arguments, and give its exit code. -/
def run (arguments : List String) : IO UInt32 := do
  let home ← IO.getEnv "HOME"
  let paths := paths arguments home
  let files ← paths.foldlM look {}
  let outcome := Command.run arguments files home
  try
    store paths files outcome.files
  catch problem =>
    IO.eprintln ("Error: " ++ (Error.file (.other (toString problem))).message)
    return 1
  IO.print (String.ofList outcome.output)
  if let some error := outcome.error then IO.eprintln ("Error: " ++ error.message)
  return outcome.code.toUInt32

end Highlighter.Program

def main (arguments : List String) : IO UInt32 :=
  Highlighter.Program.run arguments
