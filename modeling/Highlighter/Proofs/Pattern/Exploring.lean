import Highlighter.Proofs.Pattern.Search
import Mathlib.Data.Finset.Card
import Mathlib.Data.Finset.Range
import Mathlib.Logic.Relation

/-!
# What a program accepts

`Nodes.Accepts` follows one way through a program at a time: from a node, the program accepts at an
offset of the text. Running a program follows all ways side by side, and it ends in a match exactly
if there is a way that accepts (`Pattern.accepts_of_run`, `Pattern.isSome_run`).
-/

namespace Highlighter

namespace Nodes

variable {nodes : Nodes} {before after : Option Char}

/-- One node leads to another one, between two characters and without reading. -/
inductive Leads (nodes : Nodes) (before after : Option Char) : Nat → Nat → Prop where
  | check {node next : Nat} {edge : Edge} (here : nodes[node]? = some (.check edge next))
      (holds : edge.holds before after = true) : Leads nodes before after node next
  | first {node first second : Nat} (here : nodes[node]? = some (.fork first second)) :
      Leads nodes before after node first
  | second {node first second : Nat} (here : nodes[node]? = some (.fork first second)) :
      Leads nodes before after node second

/-- One of the nodes `pending` leads, over any number of nodes and without reading, to a node of the
given form. -/
def Sees (nodes : Nodes) (before after : Option Char) (pending : List Nat) (form : Node) : Prop :=
  ∃ node ∈ pending, ∃ last, Relation.ReflTransGen (Leads nodes before after) node last ∧
    nodes[last]? = some form

/-- A way through a program, over `steps` nodes: from a node at the cursor it comes to accept at the
offset `stop`. -/
inductive Accepts (nodes : Nodes) : (steps node : Nat) → Cursor → (stop : Nat) → Prop where
  | accept {node : Nat} {cursor : Cursor} (here : nodes[node]? = some .accept) :
      Accepts nodes 0 node cursor cursor.offset
  | lead {steps node next stop : Nat} {cursor : Cursor}
      (leads : Leads nodes cursor.before cursor.rest.head? node next)
      (later : Accepts nodes steps next cursor stop) : Accepts nodes (steps + 1) node cursor stop
  | read {steps node next offset stop : Nat} {before : Option Char} {set : CharSet} {c : Char}
      {rest : Text} (here : nodes[node]? = some (.read set next)) (member : set.member c = true)
      (later : Accepts nodes steps next ⟨offset + 1, some c, rest⟩ stop) :
      Accepts nodes (steps + 1) node ⟨offset, before, c :: rest⟩ stop

/-! ### What can be seen -/

/-- What is seen from one of several nodes is seen from the first or from the others. -/
theorem sees_cons_iff {node : Nat} {pending : List Nat} {form : Node} :
    Sees nodes before after (node :: pending) form ↔
      Sees nodes before after [node] form ∨ Sees nodes before after pending form := by
  simp [Sees]

theorem Sees.mono {small large : List Nat} {form : Node} (sees : Sees nodes before after small form)
    (part : ∀ node ∈ small, node ∈ large) : Sees nodes before after large form := by
  obtain ⟨node, member, way⟩ := sees
  exact ⟨node, part node member, way⟩

/-- A node sees what the node sees that it leads to. -/
theorem Sees.lead {node next : Nat} {form : Node} (leads : Leads nodes before after node next)
    (sees : Sees nodes before after [next] form) : Sees nodes before after [node] form := by
  obtain ⟨start, member, last, way, here⟩ := sees
  obtain rfl := List.mem_singleton.mp member
  exact ⟨node, List.mem_singleton_self node, last, .head leads way, here⟩

theorem sees_self {node : Nat} {form : Node} (here : nodes[node]? = some form) :
    Sees nodes before after [node] form :=
  ⟨node, List.mem_singleton_self node, node, .refl, here⟩

/-- A way begins with nodes that do not read. Behind them it accepts at once, or reads the next
character. -/
theorem Accepts.sees {steps node stop : Nat} {cursor : Cursor}
    (accepts : Accepts nodes steps node cursor stop) :
    Sees nodes cursor.before cursor.rest.head? [node] .accept ∧ stop = cursor.offset ∨
      ∃ set next c rest later, Sees nodes cursor.before cursor.rest.head? [node] (.read set next) ∧
        cursor.rest = c :: rest ∧ set.member c = true ∧
          Accepts nodes later next ⟨cursor.offset + 1, some c, rest⟩ stop := by
  induction accepts with
  | accept here => exact .inl ⟨sees_self here, rfl⟩
  | lead leads later inductionHypothesis =>
      rcases inductionHypothesis with ⟨sees, same⟩ | ⟨set, next, c, rest, steps, sees, reading⟩
      · exact .inl ⟨sees.lead leads, same⟩
      · exact .inr ⟨set, next, c, rest, steps, sees.lead leads, reading⟩
  | @read steps node next _ _ _ set c rest here member later _ =>
      exact .inr ⟨set, next, c, rest, steps, sees_self here, rfl, member, later⟩

/-- What is seen in front of a way is the begin of a longer one. -/
theorem Accepts.of_reaches {steps node last stop : Nat} {cursor : Cursor}
    (accepts : Accepts nodes steps last cursor stop)
    (reaches : Relation.ReflTransGen (Leads nodes cursor.before cursor.rest.head?) node last) :
    ∃ more, Accepts nodes more node cursor stop := by
  induction reaches using Relation.ReflTransGen.head_induction_on with
  | refl => exact ⟨steps, accepts⟩
  | head leads _ inductionHypothesis =>
      obtain ⟨more, later⟩ := inductionHypothesis
      exact ⟨more + 1, .lead leads later⟩

end Nodes

namespace Pattern

open Nodes

variable {nodes : Nodes} {pattern : Pattern} {before after : Option Char}

/-! ### Exploring -/

/-- What an exploration has found is in the list `reads` that it began with, or can be seen from the
pending nodes. -/
structure Seen (nodes : Nodes) (before after : Option Char) (pending : List Nat)
    (reads : List (CharSet × Nat)) (found : Frontier) : Prop where
  reads : ∀ entry ∈ found.reads,
    entry ∈ reads ∨ Sees nodes before after pending (.read entry.1 entry.2)
  accepted : found.accepted = true → Sees nodes before after pending .accept

theorem Seen.widen {small large : List Nat} {reads : List (CharSet × Nat)} {found : Frontier}
    (seen : Seen nodes before after small reads found)
    (wider : ∀ form, Sees nodes before after small form → Sees nodes before after large form) :
    Seen nodes before after large reads found where
  reads entry member := (seen.reads entry member).imp_right (wider _)
  accepted accepts := wider _ (seen.accepted accepts)

/-- An exploration finds only what can be seen from the pending nodes. -/
theorem seen_explore (steps : Nat) (pending visited : List Nat) (reads : List (CharSet × Nat)) :
    Seen nodes before after pending reads
      (explore nodes before after steps pending visited reads) := by
  have others (node : Nat) (pending : List Nat) (form : Node)
      (sees : Sees nodes before after pending form) :
      Sees nodes before after (node :: pending) form :=
    sees.mono fun _ => List.mem_cons_of_mem _
  have here {node : Nat} {form : Node} (pending : List Nat) (shape : nodes[node]? = some form) :
      Sees nodes before after (node :: pending) form :=
    sees_cons_iff.mpr (.inl (sees_self shape))
  fun_induction explore nodes before after steps pending visited reads with
  | case1 => exact ⟨fun entry member => .inl (List.mem_reverse.mp member), nofun⟩
  | case2 => exact ⟨fun entry member => .inl (List.mem_reverse.mp member), nofun⟩
  | case3 steps node pending _ _ _ found => exact found.widen (others node pending)
  | case4 steps node pending _ _ _ _ found => exact found.widen (others node pending)
  | case5 steps node pending _ _ _ set next shape found =>
      have wider := found.widen (others node pending)
      refine ⟨fun entry member => ?_, wider.accepted⟩
      rcases wider.reads entry member with listed | sees
      · rcases List.mem_cons.mp listed with rfl | earlier
        · exact .inr (here pending shape)
        · exact .inl earlier
      · exact .inr sees
  | case6 steps node pending _ _ _ edge next shape holds found =>
      refine found.widen fun form sees => ?_
      rw [sees_cons_iff] at sees ⊢
      exact sees.imp_left (.lead (.check shape holds))
  | case7 steps node pending _ _ _ _ _ _ _ found => exact found.widen (others node pending)
  | case8 steps node pending _ _ _ first second shape found =>
      refine found.widen fun form sees => ?_
      rw [sees_cons_iff, @sees_cons_iff _ _ _ second] at sees
      rw [sees_cons_iff]
      rcases sees with left | right | behind
      · exact .inl (left.lead (.first shape))
      · exact .inl (right.lead (.second shape))
      · exact .inr behind
  | case9 steps node pending _ _ _ shape =>
      exact ⟨fun entry member => .inl (List.mem_reverse.mp member), fun _ => here pending shape⟩

/-- The number of nodes that are not visited yet. -/
def unvisited (nodes : Nodes) (visited : List Nat) : Nat :=
  (Finset.range nodes.size \ visited.toFinset).card

/-- Every visit leaves fewer nodes to visit. -/
theorem unvisited_cons_lt {visited : List Nat} {node : Nat} {form : Node}
    (shape : nodes[node]? = some form) (fresh : node ∉ visited) :
    unvisited nodes (node :: visited) < unvisited nodes visited := by
  obtain ⟨bounded, -⟩ := Array.getElem?_eq_some_iff.mp shape
  rw [unvisited, unvisited, List.toFinset_cons, Finset.sdiff_insert]
  refine Finset.card_erase_lt_of_mem ?_
  simpa [bounded] using fresh

theorem unvisited_cons_le (nodes : Nodes) (visited : List Nat) (node : Nat) :
    unvisited nodes (node :: visited) ≤ unvisited nodes visited := by
  rw [unvisited, unvisited, List.toFinset_cons, Finset.sdiff_insert]
  exact Finset.card_erase_le

/-- What the visited nodes read is in the list `reads`, none of them accepts, and where they lead is
visited or pending. -/
structure Explored (nodes : Nodes) (before after : Option Char) (visited pending : List Nat)
    (reads : List (CharSet × Nat)) : Prop where
  reads : ∀ node ∈ visited, ∀ set next, nodes[node]? = some (.read set next) → (set, next) ∈ reads
  waits : ∀ node ∈ visited, nodes[node]? ≠ some .accept
  leads : ∀ node ∈ visited, ∀ next, Leads nodes before after node next →
    next ∈ visited ∨ next ∈ pending

/-- When nothing is pending, what a visited node sees has been found. -/
theorem Explored.sees {visited : List Nat} {reads : List (CharSet × Nat)} {form : Node}
    (explored : Explored nodes before after visited [] reads)
    (sees : Sees nodes before after visited form) : ∃ last ∈ visited, nodes[last]? = some form := by
  obtain ⟨node, member, last, way, shape⟩ := sees
  refine ⟨last, ?_, shape⟩
  clear shape
  induction way with
  | refl => exact member
  | tail _ leads inductionHypothesis =>
      exact (explored.leads _ inductionHypothesis _ leads).resolve_right List.not_mem_nil

/-- A visit keeps this if it adds what the node reads and where the node leads. -/
theorem Explored.visit {visited pending ahead : List Nat} {reads more : List (CharSet × Nat)}
    {node : Nat} (explored : Explored nodes before after visited (node :: pending) reads)
    (kept : pending ⊆ ahead) (grown : reads ⊆ more) (waits : nodes[node]? ≠ some .accept)
    (readsHere : ∀ set next, nodes[node]? = some (.read set next) → (set, next) ∈ more)
    (leadsHere : ∀ next, Leads nodes before after node next → next ∈ ahead) :
    Explored nodes before after (node :: visited) ahead more where
  reads := List.forall_mem_cons.mpr
    ⟨readsHere, fun other member set next shape =>
      grown (explored.reads other member set next shape)⟩
  waits := List.forall_mem_cons.mpr ⟨waits, explored.waits⟩
  leads := by
    refine List.forall_mem_cons.mpr ⟨fun next leads => .inr (leadsHere next leads), ?_⟩
    intro other member next leads
    rcases explored.leads other member next leads with old | waiting
    · exact .inl (List.mem_cons_of_mem _ old)
    · rcases List.mem_cons.mp waiting with rfl | later
      · exact .inl List.mem_cons_self
      · exact .inr (kept later)

/-- A node that is visited already need not be visited again. -/
theorem Explored.skip {visited pending : List Nat} {reads : List (CharSet × Nat)} {node : Nat}
    (explored : Explored nodes before after visited (node :: pending) reads)
    (member : node ∈ visited) : Explored nodes before after visited pending reads where
  reads := explored.reads
  waits := explored.waits
  leads other held next leads := by
    rcases explored.leads other held next leads with old | waiting
    · exact .inl old
    · rcases List.mem_cons.mp waiting with rfl | later
      · exact .inl member
      · exact .inr later

/-- All that the visited and the pending nodes lead to has been reached, and what is read there is
in the list `reads`. -/
def ExploredAll (nodes : Nodes) (before after : Option Char) (visited pending : List Nat)
    (reads : List (CharSet × Nat)) : Prop :=
  ∃ reached, visited ⊆ reached ∧ pending ⊆ reached ∧ Explored nodes before after reached [] reads

/-- When nothing is pending, all has been reached. -/
theorem Explored.all {visited : List Nat} {reads : List (CharSet × Nat)}
    (explored : Explored nodes before after visited [] reads) :
    ExploredAll nodes before after visited [] reads.reverse :=
  ⟨visited, List.Subset.refl _, List.nil_subset _,
    { explored with
      reads := fun node member set next shape =>
        List.mem_reverse.mpr (explored.reads node member set next shape) }⟩

/-- What is reached behind a visit holds the node and all that was pending. -/
theorem ExploredAll.unvisit {visited pending ahead : List Nat} {reads : List (CharSet × Nat)}
    {node : Nat} (later : ExploredAll nodes before after (node :: visited) ahead reads)
    (kept : pending ⊆ ahead) : ExploredAll nodes before after visited (node :: pending) reads := by
  obtain ⟨reached, old, new, done⟩ := later
  obtain ⟨here, earlier⟩ := List.cons_subset.mp old
  exact ⟨reached, earlier, List.cons_subset.mpr ⟨here, List.Subset.trans kept new⟩, done⟩

/-- An exploration that does not come to accept has found all that can be seen. -/
theorem explored_explore (steps : Nat) (pending visited : List Nat) (reads : List (CharSet × Nat))
    (enough : pending.length + 2 * unvisited nodes visited ≤ steps)
    (explored : Explored nodes before after visited pending reads)
    (waits : (explore nodes before after steps pending visited reads).accepted = false) :
    ExploredAll nodes before after visited pending
      (explore nodes before after steps pending visited reads).reads := by
  fun_induction explore nodes before after steps pending visited reads with
  | case1 pending visited reads =>
      obtain rfl : pending = [] := List.eq_nil_of_length_eq_zero (by omega)
      exact explored.all
  | case2 => exact explored.all
  | case3 steps node pending visited reads seen inductionHypothesis =>
      have member : node ∈ visited := by simpa using seen
      obtain ⟨reached, old, new, done⟩ := inductionHypothesis
        (by rw [List.length_cons] at enough; omega) (explored.skip member) waits
      exact ⟨reached, old, List.cons_subset.mpr ⟨old member, new⟩, done⟩
  | case4 steps node pending visited reads fresh missing inductionHypothesis =>
      have fewer := unvisited_cons_le nodes visited node
      refine (inductionHypothesis (by rw [List.length_cons] at enough; omega)
        (explored.visit (List.Subset.refl _) (List.Subset.refl _) (by simp [missing])
          (by simp [missing]) ?_) waits).unvisit (List.Subset.refl _)
      intro next leads
      cases leads <;> simp_all
  | case5 steps node pending visited reads fresh set next shape inductionHypothesis =>
      have fewer := unvisited_cons_lt shape (by simpa using fresh)
      refine (inductionHypothesis (by rw [List.length_cons] at enough; omega)
        (explored.visit (List.Subset.refl _) (List.subset_cons_self _ _) (by simp [shape])
          (by simp +contextual [shape]) ?_) waits).unvisit (List.Subset.refl _)
      intro next leads
      cases leads <;> simp_all
  | case6 steps node pending visited reads fresh edge next shape holds inductionHypothesis =>
      have fewer := unvisited_cons_lt shape (by simpa using fresh)
      refine (inductionHypothesis (by rw [List.length_cons] at enough ⊢; omega)
        (explored.visit (List.subset_cons_self _ _) (List.Subset.refl _) (by simp [shape])
          (by simp [shape]) ?_) waits).unvisit (List.subset_cons_self _ _)
      intro next leads
      cases leads <;> simp_all
  | case7 steps node pending visited reads fresh edge next shape fails inductionHypothesis =>
      have fewer := unvisited_cons_lt shape (by simpa using fresh)
      refine (inductionHypothesis (by rw [List.length_cons] at enough; omega)
        (explored.visit (List.Subset.refl _) (List.Subset.refl _) (by simp [shape])
          (by simp [shape]) ?_) waits).unvisit (List.Subset.refl _)
      intro next leads
      cases leads <;> simp_all
  | case8 steps node pending visited reads fresh first second shape inductionHypothesis =>
      have fewer := unvisited_cons_lt shape (by simpa using fresh)
      have kept : pending ⊆ first :: second :: pending :=
        fun _ member => List.mem_cons_of_mem _ (List.mem_cons_of_mem _ member)
      refine (inductionHypothesis (by simp only [List.length_cons] at enough ⊢; omega)
        (explored.visit kept (List.Subset.refl _) (by simp [shape]) (by simp [shape]) ?_)
          waits).unvisit kept
      intro next leads
      cases leads <;> simp_all
  | case9 => cases waits

/-! ### The frontier -/

variable {pending : List Nat}

/-- Every entry of a frontier can be seen. -/
theorem sees_of_mem_frontier {entry : CharSet × Nat}
    (member : entry ∈ (pattern.frontier before after pending).reads) :
    Sees pattern.nodes before after pending (.read entry.1 entry.2) :=
  ((seen_explore _ _ _ _).reads entry member).resolve_left List.not_mem_nil

/-- Where a frontier does not accept, nothing else is seen. -/
theorem exists_explored_frontier
    (waits : (pattern.frontier before after pending).accepted = false) :
    ∃ reached, pending ⊆ reached ∧ Explored pattern.nodes before after reached []
      (pattern.frontier before after pending).reads := by
  obtain ⟨reached, -, new, explored⟩ := explored_explore
    (pending.length + 2 * pattern.nodes.size) pending [] []
    (by simp [unvisited]) ⟨nofun, nofun, nofun⟩ waits
  exact ⟨reached, new, explored⟩

/-- A frontier accepts exactly if acceptance can be seen. -/
theorem accepted_frontier_iff :
    (pattern.frontier before after pending).accepted = true ↔
      Sees pattern.nodes before after pending .accept := by
  refine ⟨(seen_explore _ _ _ _).accepted, fun sees => ?_⟩
  by_contra waits
  obtain ⟨reached, new, explored⟩ := exists_explored_frontier (Bool.eq_false_of_not_eq_true waits)
  obtain ⟨last, member, shape⟩ := explored.sees (sees.mono new)
  exact explored.waits last member shape

/-- A frontier that does not accept holds all that can be read. -/
theorem mem_frontier_of_sees {set : CharSet} {next : Nat}
    (waits : (pattern.frontier before after pending).accepted = false)
    (sees : Sees pattern.nodes before after pending (.read set next)) :
    (set, next) ∈ (pattern.frontier before after pending).reads := by
  obtain ⟨reached, new, explored⟩ := exists_explored_frontier waits
  obtain ⟨last, member, shape⟩ := explored.sees (sees.mono new)
  exact explored.reads last member set next shape

/-! ### Runs -/

/-- One of the nodes has a way that accepts at the offset `stop`. -/
def AcceptsFrom (pattern : Pattern) (pending : List Nat) (cursor : Cursor) (stop : Nat) : Prop :=
  ∃ node ∈ pending, ∃ steps, Accepts pattern.nodes steps node cursor stop

/-- Acceptance that can be seen is a way that accepts. -/
theorem acceptsFrom_of_sees {cursor : Cursor}
    (sees : Sees pattern.nodes cursor.before cursor.rest.head? pending .accept) :
    pattern.AcceptsFrom pending cursor cursor.offset := by
  obtain ⟨node, member, last, way, shape⟩ := sees
  exact ⟨node, member, (Accepts.accept shape).of_reaches way⟩

/-- A way that accepts behind a character that can be read is a way that accepts. -/
theorem acceptsFrom_of_read {set : CharSet} {next offset stop : Nat} {c : Char} {rest : Text}
    (sees : Sees pattern.nodes before (some c) pending (.read set next))
    (member : set.member c = true)
    (later : pattern.AcceptsFrom [next] ⟨offset + 1, some c, rest⟩ stop) :
    pattern.AcceptsFrom pending ⟨offset, before, c :: rest⟩ stop := by
  obtain ⟨node, pended, last, way, shape⟩ := sees
  obtain ⟨target, single, steps, accepts⟩ := later
  obtain rfl := List.mem_singleton.mp single
  exact ⟨node, pended, (Accepts.read shape member accepts).of_reaches way⟩

/-- The nodes that are pending behind the character `c`. -/
def behind (found : Frontier) (c : Char) : List Nat :=
  found.reads.filterMap fun (set, next) => if set.member c then some next else none

theorem mem_behind_iff {found : Frontier} {c : Char} {next : Nat} :
    next ∈ behind found c ↔ ∃ set, (set, next) ∈ found.reads ∧ set.member c = true := by
  simp [behind]

/-- A run over a character goes on with what is pending behind it, even if that is nothing. -/
theorem run_cons (pending : List Nat) (length : Nat) (best : Option Nat) (before : Option Char)
    (c : Char) (rest : Text) :
    pattern.run pending length best before (c :: rest) =
      if behind (pattern.frontier before (some c) pending) c = [] then
        if (pattern.frontier before (some c) pending).accepted then some length else best
      else
        pattern.run (behind (pattern.frontier before (some c) pending) c) (length + 1)
          (if (pattern.frontier before (some c) pending).accepted then some length else best)
          (some c) rest := by
  rw [run]
  dsimp only
  split
  next ended => exact (if_pos ended).symm
  next more => exact (if_neg more).symm

/-- A node that reads one character leads over it. -/
theorem run_of_read {set : CharSet} {node next : Nat} {c : Char}
    (waits : pattern.frontier before (some c) [node] = ⟨[(set, next)], false⟩)
    (member : set.member c = true) (length : Nat) (best : Option Nat) (rest : Text) :
    pattern.run [node] length best before (c :: rest) =
      pattern.run [next] (length + 1) best (some c) rest := by
  have further : behind ⟨[(set, next)], false⟩ c = [next] := by simp [behind, member]
  rw [run_cons, waits, further, if_neg (List.cons_ne_nil _ _), if_neg Bool.false_ne_true]

/-- A node that can be left, and that reads the characters of a set and comes back to itself, takes
all of them. -/
theorem run_of_cycle {set : CharSet} {again : Nat}
    (cycle : ∀ before after, pattern.frontier before after [again] = ⟨[(set, again)], true⟩)
    (length : Nat) (best : Option Nat) (before : Option Char) (rest : Text) :
    pattern.run [again] length best before rest =
      some (length + (rest.takeWhile set.member).length) := by
  induction rest generalizing length best before with
  | nil =>
      rw [run, cycle]
      rfl
  | cons c rest inductionHypothesis =>
      rw [run_cons, cycle]
      cases member : set.member c with
      | false => simp [behind, member]
      | true =>
          have further : behind ⟨[(set, again)], true⟩ c = [again] := by simp [behind, member]
          rw [further, if_neg (List.cons_ne_nil _ _), inductionHypothesis,
            List.takeWhile_cons_of_pos member, List.length_cons, Nat.add_right_comm, Nat.add_assoc]

/-- A run that ends in a match either had it before, or there is a way that accepts there. -/
theorem accepts_of_run {length found : Nat} {best : Option Nat} {rest : Text}
    (ends : pattern.run pending length best before rest = some found) :
    best = some found ∨ pattern.AcceptsFrom pending ⟨length, before, rest⟩ found := by
  induction rest generalizing pending length best before with
  | nil =>
      rw [run] at ends
      split at ends
      next accepts =>
        obtain rfl := Option.some.inj ends
        exact .inr (acceptsFrom_of_sees (accepted_frontier_iff.mp accepts))
      next => exact .inl ends
  | cons c rest inductionHypothesis =>
      have atOnce (ends : (if (pattern.frontier before (some c) pending).accepted then some length
            else best) = some found) :
          best = some found ∨ pattern.AcceptsFrom pending ⟨length, before, c :: rest⟩ found := by
        split at ends
        next accepts =>
          obtain rfl := Option.some.inj ends
          exact .inr (acceptsFrom_of_sees (accepted_frontier_iff.mp accepts))
        next => exact .inl ends
      rw [run_cons] at ends
      split at ends
      next => exact atOnce ends
      next =>
        rcases inductionHypothesis ends with earlier | ⟨next, pended, later⟩
        · exact atOnce earlier
        · obtain ⟨set, listed, member⟩ := mem_behind_iff.mp pended
          exact .inr (acceptsFrom_of_read (sees_of_mem_frontier listed) member
            ⟨next, List.mem_singleton_self next, later⟩)

/-- A run that has a match keeps one. -/
theorem isSome_run_of_isSome {length : Nat} {best : Option Nat} {rest : Text}
    (held : best.isSome = true) : (pattern.run pending length best before rest).isSome = true := by
  induction rest generalizing pending length best before with
  | nil =>
      rw [run]
      split
      · rfl
      · exact held
  | cons c rest inductionHypothesis =>
      have kept : (if (pattern.frontier before (some c) pending).accepted then some length
          else best).isSome = true := by
        split
        · rfl
        · exact held
      rw [run_cons]
      split
      · exact kept
      · exact inductionHypothesis kept

/-- Where there is a way that accepts, the run ends in a match. -/
theorem isSome_run {length stop : Nat} {best : Option Nat} {rest : Text}
    (accepts : pattern.AcceptsFrom pending ⟨length, before, rest⟩ stop) :
    (pattern.run pending length best before rest).isSome = true := by
  induction rest generalizing pending length best before with
  | nil =>
      obtain ⟨node, pended, steps, way⟩ := accepts
      rcases way.sees with ⟨sees, -⟩ | ⟨set, next, c, rest, -, -, shape, -⟩
      · have seen : (pattern.frontier before none pending).accepted = true :=
          accepted_frontier_iff.mpr (sees.mono (by simpa using pended))
        rw [run, if_pos seen]
        rfl
      · cases shape
  | cons c rest inductionHypothesis =>
      rw [run_cons]
      cases accepted : (pattern.frontier before (some c) pending).accepted with
      | true =>
          rw [if_pos rfl]
          split
          · rfl
          · exact isSome_run_of_isSome rfl
      | false =>
          obtain ⟨node, pended, steps, way⟩ := accepts
          rcases way.sees with ⟨sees, -⟩ | ⟨set, next, d, others, later, sees, shape, member, way⟩
          · have seen : (pattern.frontier before (some c) pending).accepted = true :=
              accepted_frontier_iff.mpr (sees.mono (by simpa using pended))
            rw [accepted] at seen
            cases seen
          · obtain ⟨rfl, rfl⟩ := List.cons.inj shape
            have listed := mem_frontier_of_sees accepted (sees.mono (by simpa using pended))
            have ahead := mem_behind_iff.mpr ⟨set, listed, member⟩
            rw [if_neg (List.ne_nil_of_mem ahead)]
            exact inductionHypothesis ⟨next, ahead, later, way⟩

end Pattern

end Highlighter
