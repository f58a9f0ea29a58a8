import Highlighter.Pattern.Program
import Highlighter.Text.Cursor

/-!
# Searching for a pattern

A match is tried at one place by following all ways through the program side by side, in order
of preference. The first way to accept cuts off every way less preferred than itself, so the
match found is the preferred one, and no way is followed twice from one place: the time is
bounded by the length of the text times the number of nodes.
-/

namespace Highlighter

namespace Pattern

/-- The reading nodes that can be reached at one place, most preferred first, each as what it
reads and where it leads. `accepted` tells whether acceptance is reached after them; nodes less
preferred than that are left out. -/
structure Frontier where
  reads : List (CharSet × Nat) := []
  accepted : Bool := false
  deriving DecidableEq, Repr

/-- Follow the nodes of `pending` in order as far as they lead without reading, between the
characters `before` and `after`. No node is visited twice. Each step takes a node from `pending`
and each visit adds at most two, so `steps` equal to the number of pending nodes plus twice the
number of all nodes is always enough. -/
def explore (nodes : Nodes) (before after : Option Char) :
    (steps : Nat) → (pending visited : List Nat) → (reads : List (CharSet × Nat)) → Frontier
  | 0, _, _, reads => { reads := reads.reverse }
  | _, [], _, reads => { reads := reads.reverse }
  | steps + 1, node :: pending, visited, reads =>
    if visited.contains node then explore nodes before after steps pending visited reads
    else
      match nodes[node]? with
      | none => explore nodes before after steps pending (node :: visited) reads
      | some (.read set next) =>
        explore nodes before after steps pending (node :: visited) ((set, next) :: reads)
      | some (.check edge next) =>
        if edge.holds before after then
          explore nodes before after steps (next :: pending) (node :: visited) reads
        else explore nodes before after steps pending (node :: visited) reads
      | some (.fork first second) =>
        explore nodes before after steps (first :: second :: pending) (node :: visited) reads
      | some .accept => { reads := reads.reverse, accepted := true }

/-- What can be read next when the nodes of `pending` are entered between two characters. -/
def frontier (pattern : Pattern) (before after : Option Char) (pending : List Nat) : Frontier :=
  explore pattern.nodes before after (pending.length + 2 * pattern.nodes.size) pending [] []

/-- Run the program from the nodes of `pending`. `length` characters have been read, and `best`
is the length of the preferred match among the ways that have ended. -/
def run (pattern : Pattern) (pending : List Nat) (length : Nat) (best : Option Nat)
    (before : Option Char) : Text → Option Nat
  | [] =>
    if (pattern.frontier before none pending).accepted then some length else best
  | c :: rest =>
    let reached := pattern.frontier before (some c) pending
    let best := if reached.accepted then some length else best
    match reached.reads.filterMap fun (set, next) => if set.member c then some next else none with
    | [] => best
    | pending => run pattern pending (length + 1) best (some c) rest

/-- The length of the preferred match that starts right after `before`, if there is one. -/
def matchLength? (pattern : Pattern) (before : Option Char) (rest : Text) : Option Nat :=
  pattern.run [pattern.start] 0 none before rest

/-- The first place at or after the cursor where the pattern matches, with its preferred
match there. -/
def findFrom (pattern : Pattern) (offset : Nat) (before : Option Char) : Text → Option Extent
  | [] => (pattern.matchLength? before []).map fun length => ⟨offset, offset + length⟩
  | c :: rest =>
    match pattern.matchLength? before (c :: rest) with
    | some length => some ⟨offset, offset + length⟩
    | none => findFrom pattern (offset + 1) (some c) rest

/-- The leftmost match at or after the cursor. -/
def find? (pattern : Pattern) (cursor : Cursor) : Option Extent :=
  pattern.findFrom cursor.offset cursor.before cursor.rest

/-- The first place from which the preferred match is not empty, with that match. -/
def findNonemptyFrom (pattern : Pattern) (offset : Nat) (before : Option Char) :
    Text → Option Extent
  | [] => none
  | c :: rest =>
    match pattern.matchLength? before (c :: rest) with
    | some (length + 1) => some ⟨offset, offset + (length + 1)⟩
    | _ => findNonemptyFrom pattern (offset + 1) (some c) rest

/-- The first nonempty match at or after the cursor. Places where the pattern prefers the empty
match are stepped over. -/
def findNonempty? (pattern : Pattern) (cursor : Cursor) : Option Extent :=
  pattern.findNonemptyFrom cursor.offset cursor.before cursor.rest

end Pattern

end Highlighter
