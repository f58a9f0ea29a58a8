import Highlighter.Files.Tree

/-!
# A file that is written is read

Writing a file changes what is at its place and nothing on the way to it, so the same path leads to
the same place afterwards and gives the text that was written (`FileTree.read_of_write`).
-/

namespace Highlighter.FileTree

variable {tree : FileTree} {location place : Location} {contents : Text}

/-! ### The place of the file -/

/-- What is at a location is looked up without regard to other places. -/
theorem lookup_filter_ne (different : location ≠ place) (entries : List (Location × FileNode)) :
    (entries.filter (·.1 != place)).lookup location = entries.lookup location := by
  induction entries with
  | nil => rfl
  | cons entry others inductionHypothesis =>
      obtain ⟨other, node⟩ := entry
      by_cases same : other = place
      · subst same
        simp [List.lookup_cons, beq_false_of_ne different, inductionHypothesis]
      · simp [same, List.lookup_cons, inductionHypothesis]

/-- A location that lay on the way to an entry still does when a node is put in place. -/
theorem any_isPrefixOf_place (node : FileNode)
    (leads : tree.entries.any (fun (other, _) => location.isPrefixOf other) = true) :
    (tree.place place node).entries.any (fun (other, _) => location.isPrefixOf other) = true := by
  obtain ⟨⟨other, held⟩, member, before⟩ := List.any_eq_true.mp leads
  refine List.any_eq_true.mpr ?_
  by_cases same : other = place
  · exact ⟨(place, node), List.mem_cons_self, same ▸ before⟩
  · refine ⟨(other, held), List.mem_cons_of_mem _ ?_, before⟩
    exact List.mem_filter.mpr ⟨member, by simpa using same⟩

/-- Putting a node where no directory is keeps every directory. -/
theorem node?_place_of_directory (node : FileNode)
    (directory : tree.node? location = some .directory)
    (free : tree.node? place ≠ some .directory) :
    (tree.place place node).node? location = some .directory := by
  have different : location ≠ place := by
    rintro rfl
    exact free directory
  have kept : (tree.place place node).entries.lookup location = tree.entries.lookup location := by
    rw [FileTree.place, List.lookup_cons, beq_false_of_ne different]
    exact lookup_filter_ne different tree.entries
  rw [node?] at directory ⊢
  rw [kept]
  split
  next => rfl
  next special =>
    rw [if_neg special] at directory
    split at directory
    next held => exact directory
    next =>
      split at directory
      next leads => exact if_pos (any_isPrefixOf_place node leads)
      next => simp at directory

/-- A node is found at the place where it is put, if no directory is there. -/
theorem node?_place_self (node : FileNode) (free : tree.node? place ≠ some .directory) :
    (tree.place place node).node? place = some node := by
  rw [node?] at free ⊢
  split at free
  next => exact absurd rfl free
  next special =>
    rw [if_neg special, FileTree.place, List.lookup_cons, beq_self_eq_true]

/-! ### The way to the file -/

/-- A step that can be made can be made after a node is put where no directory is. -/
theorem step_place (node : FileNode) (free : tree.node? place ≠ some .directory)
    {name : List Char} {next : Location} (made : tree.step location name = .ok next) :
    (tree.place place node).step location name = .ok next := by
  rw [step] at made ⊢
  split at made
  next => simp at made
  next directory => rw [node?_place_of_directory node directory free, made]
  next => simp at made

/-- A path that leads somewhere leads there after a node is put where no directory is. -/
theorem foldlM_step_place (node : FileNode) (free : tree.node? place ≠ some .directory)
    {names : List (List Char)} {last : Location}
    (followed : names.foldlM tree.step location = .ok last) :
    names.foldlM (tree.place place node).step location = .ok last := by
  induction names generalizing location with
  | nil => exact followed
  | cons name others inductionHypothesis =>
      rw [List.foldlM_cons] at followed ⊢
      cases made : tree.step location name with
      | error cause => simp [made, Bind.bind, Except.bind] at followed
      | ok next =>
          rw [made] at followed
          rw [step_place node free made]
          exact inductionHypothesis followed

theorem locate_place (node : FileNode) (free : tree.node? place ≠ some .directory)
    {path : String} (located : tree.locate path = .ok location) :
    (tree.place place node).locate path = .ok location := by
  rw [locate] at located ⊢
  split at located
  next => simp at located
  next nonempty =>
    rw [if_neg nonempty]
    split at located
    next => simp at located
    next short =>
      rw [if_neg short]
      exact foldlM_step_place node free located

/-- The place that is written is the one to which the path leads. -/
theorem locate_of_locateFile {path : String} (located : tree.locateFile path = .ok location) :
    tree.locate path = .ok location := by
  rw [locateFile] at located
  split at located
  next =>
    split at located
    next => simp at located
    next => split at located <;> simp at located
  next => exact located

/-- A file that is written gives what was written. -/
theorem read_of_write {next : FileTree} {path : String}
    (written : tree.write path contents = .ok next) : next.read path = .ok contents := by
  rw [write] at written
  cases located : tree.locateFile path with
  | error cause => simp [located, Bind.bind, Except.bind] at written
  | ok location =>
      simp only [located, Bind.bind, Except.bind] at written
      have free : tree.node? location ≠ some .directory := by
        intro directory
        simp [directory] at written
      obtain rfl : tree.place location (.text contents) = next := by
        split at written
        next => simp at written
        next => simp at written
        next => simpa using written
      rw [read, locate_place (.text contents) free (locate_of_locateFile located)]
      simp only [Bind.bind, Except.bind, node?_place_self (.text contents) free]

end Highlighter.FileTree
