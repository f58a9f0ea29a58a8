import Highlighter.Proofs.Pattern.Exploring

/-!
# What an expression means

`Expr.Matches` says of an expression which parts of a text it matches, without a program: from which
cursor it comes to which. The program of an expression accepts exactly these parts
(`Pattern.exists_matches_of_matchLength?`, `Pattern.isSome_matchLength?_iff`), whatever it prefers
among them.
-/

namespace Highlighter

theorem CharSet.member_single_iff {c other : Char} :
    (CharSet.single c).member other = true ↔ other = c := by
  rw [single, member, Bool.and_eq_true, decide_eq_true_eq, decide_eq_true_eq]
  constructor
  · rintro ⟨lower, upper⟩
    exact Char.toNat_inj.mp (Nat.le_antisymm upper lower)
  · rintro rfl
    exact ⟨Nat.le_refl _, Nat.le_refl _⟩

/-! ### Meanings -/

namespace Expr

/-- From a cursor to another one in `count` rounds of the same kind. -/
inductive Rounds (body : Cursor → Cursor → Prop) : Nat → Cursor → Cursor → Prop where
  | none {cursor : Cursor} : Rounds body 0 cursor cursor
  | round {count : Nat} {start middle stop : Cursor} (first : body start middle)
      (later : Rounds body count middle stop) : Rounds body (count + 1) start stop

/-- From a cursor to another one in as many rounds as `counts` admits. -/
def Repeats (body : Cursor → Cursor → Prop) (counts : Nat → Prop) (start stop : Cursor) : Prop :=
  ∃ count, counts count ∧ Rounds body count start stop

/-- Over one character of a set. -/
def Reads (set : CharSet) (start stop : Cursor) : Prop :=
  ∃ c rest, start.rest = c :: rest ∧ set.member c = true ∧ stop = ⟨start.offset + 1, some c, rest⟩

/-- The part of a text between two cursors matches the expression. A limit below the least number of
rounds admits the least number only. -/
def Matches : Expr → Cursor → Cursor → Prop
  | .empty => (· = ·)
  | .char set => Reads set
  | .edge condition => fun start stop =>
    condition.holds start.before start.rest.head? = true ∧ start = stop
  | .seq first second => Relation.Comp first.Matches second.Matches
  | .choice first second => fun start stop => first.Matches start stop ∨ second.Matches start stop
  | .group body => body.Matches
  | .repetition body least most _ =>
    Repeats body.Matches fun count => least ≤ count ∧ ∀ limit ∈ most, count ≤ max least limit

end Expr

open Highlighter.Expr

namespace Nodes

variable {nodes : Nodes} {node next steps stop : Nat} {cursor : Cursor}
  {body first second : Cursor → Cursor → Prop} {counts : Nat → Prop}

/-! ### Ways from a node of known form -/

theorem Accepts.stop_of_accept (here : nodes[node]? = some .accept)
    (accepts : Accepts nodes steps node cursor stop) : stop = cursor.offset := by
  cases accepts with
  | accept => rfl
  | lead leads => cases leads <;> simp_all
  | read shape => simp_all

theorem Accepts.of_read {set : CharSet} (here : nodes[node]? = some (.read set next))
    (accepts : Accepts nodes steps node cursor stop) :
    ∃ middle, ∃ fewer < steps, Reads set cursor middle ∧ Accepts nodes fewer next middle stop := by
  cases accepts with
  | accept shape => simp_all
  | lead leads => cases leads <;> simp_all
  | @read fewer _ after offset _ before read c rest shape member later =>
      obtain ⟨rfl, rfl⟩ : read = set ∧ after = next := by simpa [here, eq_comm] using shape
      exact ⟨_, fewer, Nat.lt_succ_self fewer, ⟨c, rest, rfl, member, rfl⟩, later⟩

theorem Accepts.of_check {edge : Edge} (here : nodes[node]? = some (.check edge next))
    (accepts : Accepts nodes steps node cursor stop) :
    edge.holds cursor.before cursor.rest.head? = true ∧
      ∃ fewer < steps, Accepts nodes fewer next cursor stop := by
  cases accepts with
  | accept shape => simp_all
  | @lead fewer _ after _ _ leads later =>
      cases leads with
      | @check _ other shape holds =>
          obtain ⟨rfl, rfl⟩ : other = edge ∧ after = next := by simpa [here, eq_comm] using shape
          exact ⟨holds, fewer, Nat.lt_succ_self fewer, later⟩
      | first shape => simp_all
      | second shape => simp_all
  | read shape => simp_all

theorem Accepts.of_fork {left right : Nat} (here : nodes[node]? = some (.fork left right))
    (accepts : Accepts nodes steps node cursor stop) : ∃ fewer < steps,
      Accepts nodes fewer left cursor stop ∨ Accepts nodes fewer right cursor stop := by
  cases accepts with
  | accept shape => simp_all
  | @lead fewer _ after _ _ leads later =>
      cases leads with
      | check shape => simp_all
      | first shape =>
          obtain rfl : after = left := by simp_all
          exact ⟨fewer, Nat.lt_succ_self fewer, .inl later⟩
      | second shape =>
          obtain rfl : after = right := by simp_all
          exact ⟨fewer, Nat.lt_succ_self fewer, .inr later⟩
  | read shape => simp_all

/-! ### Bridges -/

/-- Between two nodes a program goes from cursor to cursor as a relation says: a way from the node
`start` comes by the node `next`, with no longer a way from there, and a way from there can be
extended. -/
structure Bridges (nodes : Nodes) (start next : Nat) (relation : Cursor → Cursor → Prop) :
    Prop where
  sound : ∀ {steps stop cursor}, Accepts nodes steps start cursor stop →
    ∃ middle, ∃ fewer ≤ steps, relation cursor middle ∧ Accepts nodes fewer next middle stop
  complete : ∀ {steps stop cursor middle}, relation cursor middle →
    Accepts nodes steps next middle stop → ∃ more, Accepts nodes more start cursor stop

namespace Bridges

variable {start middle : Nat}

protected theorem refl (nodes : Nodes) (node : Nat) : Bridges nodes node node (· = ·) where
  sound accepts := ⟨_, _, Nat.le_refl _, rfl, accepts⟩
  complete := by
    rintro steps stop cursor _ rfl accepts
    exact ⟨steps, accepts⟩

/-- One bridge behind another one. -/
protected theorem comp (near : Bridges nodes start middle first)
    (far : Bridges nodes middle next second) :
    Bridges nodes start next (Relation.Comp first second) where
  sound accepts := by
    obtain ⟨between, fewer, le, passed, later⟩ := near.sound accepts
    obtain ⟨behind, least, least_le, further, last⟩ := far.sound later
    exact ⟨behind, least, Nat.le_trans least_le le, ⟨between, passed, further⟩, last⟩
  complete := by
    rintro steps stop cursor _ ⟨between, passed, further⟩ accepts
    obtain ⟨more, later⟩ := far.complete further accepts
    exact near.complete passed later

/-- The same bridge for an equivalent relation. -/
protected theorem congr (bridges : Bridges nodes start next first)
    (same : ∀ near far, first near far ↔ second near far) : Bridges nodes start next second := by
  obtain rfl : first = second := by
    ext
    exact same _ _
  exact bridges

end Bridges

theorem bridges_read {set : CharSet} (here : nodes[node]? = some (.read set next)) :
    Bridges nodes node next (Reads set) where
  sound accepts := by
    obtain ⟨middle, fewer, lt, reads, later⟩ := accepts.of_read here
    exact ⟨middle, fewer, Nat.le_of_lt lt, reads, later⟩
  complete := by
    rintro steps stop ⟨offset, before, _⟩ _ ⟨c, rest, rfl, member, rfl⟩ accepts
    exact ⟨steps + 1, .read here member accepts⟩

theorem bridges_check {edge : Edge} (here : nodes[node]? = some (.check edge next)) :
    Bridges nodes node next (Matches (.edge edge)) where
  sound accepts := by
    obtain ⟨holds, fewer, lt, later⟩ := accepts.of_check here
    exact ⟨_, fewer, Nat.le_of_lt lt, ⟨holds, rfl⟩, later⟩
  complete := by
    rintro steps stop cursor _ ⟨holds, rfl⟩ accepts
    exact ⟨steps + 1, .lead (.check here holds) accepts⟩

theorem bridges_fork {left right : Nat} (here : nodes[node]? = some (.fork left right))
    (near : Bridges nodes left next first) (far : Bridges nodes right next second) :
    Bridges nodes node next fun start stop => first start stop ∨ second start stop where
  sound accepts := by
    obtain ⟨fewer, lt, later | later⟩ := accepts.of_fork here
    · obtain ⟨middle, least, le, passed, last⟩ := near.sound later
      exact ⟨middle, least, by omega, .inl passed, last⟩
    · obtain ⟨middle, least, le, passed, last⟩ := far.sound later
      exact ⟨middle, least, by omega, .inr passed, last⟩
  complete := by
    rintro steps stop cursor middle (passed | passed) accepts
    · obtain ⟨more, later⟩ := near.complete passed accepts
      exact ⟨more + 1, .lead (.first here) later⟩
    · obtain ⟨more, later⟩ := far.complete passed accepts
      exact ⟨more + 1, .lead (.second here) later⟩

/-- What is preferred makes no difference to where a fork can lead. -/
theorem bridges_preferring {greedy : Bool} {inner outer : Nat}
    (here : nodes[node]? = some (preferring greedy inner outer))
    (near : Bridges nodes inner next first) (far : Bridges nodes outer next second) :
    Bridges nodes node next fun start stop => first start stop ∨ second start stop := by
  cases greedy with
  | true => exact bridges_fork here near far
  | false => exact (bridges_fork here far near).congr fun _ _ => or_comm

/-- What a fork leads to that a body comes back to, and that can be left: any number of rounds. -/
theorem bridges_again {greedy : Bool} {again start : Nat}
    (here : nodes[again]? = some (preferring greedy start next))
    (round : Bridges nodes start again body) :
    Bridges nodes again next (Repeats body fun _ => True) where
  sound {steps stop cursor} accepts := by
    induction steps using Nat.strongRecOn generalizing cursor with
    | _ steps inductionHypothesis =>
        have branches : ∃ fewer < steps,
            Accepts nodes fewer start cursor stop ∨ Accepts nodes fewer next cursor stop := by
          cases greedy with
          | true => exact accepts.of_fork here
          | false => simpa only [or_comm] using accepts.of_fork here
        obtain ⟨fewer, lt, inside | left⟩ := branches
        · obtain ⟨middle, rounds, le, passed, back⟩ := round.sound inside
          obtain ⟨last, least, least_le, ⟨count, -, further⟩, later⟩ :=
            inductionHypothesis rounds (by omega) back
          exact ⟨last, least, by omega, ⟨count + 1, trivial, .round passed further⟩, later⟩
        · exact ⟨cursor, fewer, Nat.le_of_lt lt, ⟨0, trivial, .none⟩, left⟩
  complete {steps stop cursor middle} := by
    rintro ⟨count, -, rounds⟩ accepts
    have branch {target : Nat} (possible : target = start ∨ target = next) {steps stop : Nat}
        {cursor : Cursor} (later : Accepts nodes steps target cursor stop) :
        ∃ more, Accepts nodes more again cursor stop := by
      refine ⟨steps + 1, .lead ?_ later⟩
      cases greedy <;> rcases possible with rfl | rfl
      · exact .second here
      · exact .first here
      · exact .first here
      · exact .second here
    induction rounds with
    | none => exact branch (.inr rfl) accepts
    | round passed _ inductionHypothesis =>
        obtain ⟨more, later⟩ := inductionHypothesis accepts
        obtain ⟨most, earlier⟩ := round.complete passed later
        exact branch (.inl rfl) earlier

end Nodes

namespace Expr

variable {body : Cursor → Cursor → Prop} {counts : Nat → Prop} {start stop : Cursor}

/-- No round at all. -/
theorem repeats_zero_iff : Repeats body (· = 0) start stop ↔ start = stop := by
  constructor
  · rintro ⟨_, rfl, rounds⟩
    cases rounds
    rfl
  · rintro rfl
    exact ⟨0, rfl, .none⟩

/-- A round in front of others is one more of them. -/
theorem comp_repeats_iff :
    Relation.Comp body (Repeats body counts) start stop ↔
      Repeats body (fun count => ∃ fewer, count = fewer + 1 ∧ counts fewer) start stop := by
  constructor
  · rintro ⟨middle, first, count, admitted, later⟩
    exact ⟨count + 1, ⟨count, rfl, admitted⟩, .round first later⟩
  · rintro ⟨_, ⟨count, rfl, admitted⟩, rounds⟩
    cases rounds with
    | round first later => exact ⟨_, first, count, admitted, later⟩

/-- A choice between numbers of rounds. -/
theorem repeats_or_iff {others : Nat → Prop} :
    Repeats body counts start stop ∨ Repeats body others start stop ↔
      Repeats body (fun count => counts count ∨ others count) start stop := by
  simp only [Repeats, or_and_right, exists_or]

theorem repeats_congr {others : Nat → Prop} (same : ∀ count, counts count ↔ others count) :
    Repeats body counts start stop ↔ Repeats body others start stop := by
  simp only [Repeats, same]

end Expr

namespace Nodes

/-! ### Layouts -/

/-- All nodes of `nodes` are at the same place in `more`. -/
def Extends (nodes more : Nodes) : Prop :=
  ∀ (place : Nat) (node : Node), nodes[place]? = some node → more[place]? = some node

/-- From the place `first` on, all nodes of `nodes` are at the same place in `whole`. -/
def Holds (whole : Nodes) (first : Nat) (nodes : Nodes) : Prop :=
  ∀ (place : Nat) (node : Node), first ≤ place → nodes[place]? = some node →
    whole[place]? = some node

theorem Extends.trans {nodes more most : Nodes} (first : Extends nodes more)
    (second : Extends more most) : Extends nodes most :=
  fun place node held => second place node (first place node held)

theorem Extends.size_le {nodes more : Nodes} (grown : Extends nodes more) :
    nodes.size ≤ more.size := by
  by_contra smaller
  have last := grown more.size _ (Array.getElem?_eq_getElem (by omega))
  simp at last

theorem extends_push (nodes : Nodes) (node : Node) : Extends nodes (nodes.push node) := by
  intro place other held
  obtain ⟨bounded, rfl⟩ := Array.getElem?_eq_some_iff.mp held
  simp [Array.getElem?_push, Nat.ne_of_lt bounded, bounded]

/-- The nodes laid out behind `nodes`, which make it up to `more`, are a bridge, whatever is laid
out around them. -/
structure Lays (nodes more : Nodes) (start next : Nat) (relation : Cursor → Cursor → Prop) :
    Prop where
  grown : Extends nodes more
  bridges : ∀ whole, Holds whole nodes.size more → Bridges whole start next relation

namespace Lays

variable {nodes more most : Nodes} {start middle next : Nat}
  {body first second : Cursor → Cursor → Prop} {counts : Nat → Prop}

/-- Nothing is laid out for the relation that stays where it is. -/
protected theorem refl (nodes : Nodes) (node : Nat) : Lays nodes nodes node node (· = ·) where
  grown _ _ held := held
  bridges whole _ := .refl whole node

protected theorem congr (lays : Lays nodes more start next first)
    (same : ∀ near far, first near far ↔ second near far) : Lays nodes more start next second where
  grown := lays.grown
  bridges whole holds := (lays.bridges whole holds).congr same

/-- What is laid out later does not change a bridge. -/
theorem later (lays : Lays nodes more start next first) (grown : Extends more most) :
    Lays nodes most start next first where
  grown := lays.grown.trans grown
  bridges whole holds := lays.bridges whole fun place node behind held =>
    holds place node behind (grown place node held)

/-- What was laid out earlier does not change a bridge. -/
theorem earlier (lays : Lays more most start next first) (grown : Extends nodes more) :
    Lays nodes most start next first where
  grown := grown.trans lays.grown
  bridges whole holds := lays.bridges whole fun place node behind held =>
    holds place node (Nat.le_trans grown.size_le behind) held

/-- A bridge that is laid out later, in front of another one. -/
protected theorem comp (far : Lays nodes more middle next second)
    (near : Lays more most start middle first) :
    Lays nodes most start next (Relation.Comp first second) where
  grown := far.grown.trans near.grown
  bridges whole holds := ((near.earlier far.grown).bridges whole holds).comp
    ((far.later near.grown).bridges whole holds)

/-- Nothing is laid out for no round at all. -/
theorem noRound (nodes : Nodes) (node : Nat) (body : Cursor → Cursor → Prop) :
    Lays nodes nodes node node (Repeats body (· = 0)) :=
  (Lays.refl nodes node).congr fun _ _ => repeats_zero_iff.symm

/-- A node that is laid out behind the others makes the bridge that it makes in any program. -/
theorem place {node : Node} (grown : Extends nodes more)
    (bridges : ∀ whole, whole[more.size]? = some node → Holds whole nodes.size more →
      Bridges whole more.size next first) :
    Lays nodes (more.push node) more.size next first where
  grown := grown.trans (extends_push more node)
  bridges whole holds := by
    refine bridges whole (holds _ _ grown.size_le (by simp)) fun place other behind held => ?_
    exact holds place other behind (extends_push more node place other held)

/-- A fork behind two bridges to the same node. -/
theorem fork {left right : Nat} (near : Lays nodes more left next first)
    (far : Lays nodes more right next second) :
    Lays nodes (more.push (.fork left right)) more.size next
      fun start stop => first start stop ∨ second start stop :=
  place near.grown fun whole here holds =>
    bridges_fork here (near.bridges whole holds) (far.bridges whole holds)

theorem preferring (near : Lays nodes more start next first) {left : Nat}
    (far : Lays nodes more left next second) (greedy : Bool) :
    Lays nodes (more.push (preferring greedy start left)) more.size next
      fun start stop => first start stop ∨ second start stop :=
  place near.grown fun whole here holds =>
    bridges_preferring here (near.bridges whole holds) (far.bridges whole holds)

end Lays

/-- A layout makes a bridge to any node. -/
def Layout.Means (layout : Layout) (relation : Cursor → Cursor → Prop) : Prop :=
  ∀ next nodes, Lays nodes (layout next nodes).2 (layout next nodes).1 next relation

namespace Layout.Means

variable {layout : Layout} {body : Cursor → Cursor → Prop} {counts : Nat → Prop}
  {nodes more : Nodes} {start next : Nat}

/-- A number of rounds in front of others. -/
theorem times (means : layout.Means body) (count : Nat)
    (lays : Lays nodes more start next (Repeats body counts)) :
    Lays nodes (Nodes.times layout count start more).2 (Nodes.times layout count start more).1 next
      (Repeats body fun rounds => ∃ fewer, rounds = fewer + count ∧ counts fewer) := by
  induction count generalizing start more counts with
  | zero => exact lays.congr fun _ _ => repeats_congr (by simp)
  | succ count inductionHypothesis =>
      have longer := (lays.comp (means start more)).congr fun _ _ => comp_repeats_iff
      refine (inductionHypothesis longer).congr fun _ _ => repeats_congr fun rounds => ?_
      constructor
      · rintro ⟨_, rfl, fewer, rfl, admitted⟩
        exact ⟨fewer, by omega, admitted⟩
      · rintro ⟨fewer, rfl, admitted⟩
        exact ⟨fewer + 1, by omega, fewer, rfl, admitted⟩

/-- Further rounds that can each be left out. -/
theorem upTo (means : layout.Means body) (greedy : Bool) (count : Nat) {most : Nat}
    (lays : Lays nodes more start next (Repeats body (· ≤ most))) :
    Lays nodes (Nodes.upTo layout greedy next count start more).2
      (Nodes.upTo layout greedy next count start more).1 next
      (Repeats body (· ≤ most + count)) := by
  induction count generalizing start more most with
  | zero => exact lays
  | succ count inductionHypothesis =>
      have inner := means start more
      have round := (lays.comp inner).congr fun _ _ => comp_repeats_iff
      have left := (Lays.noRound nodes next body).later (lays.grown.trans inner.grown)
      have oneMore : Lays nodes _ _ next (Repeats body (· ≤ most + 1)) :=
        (round.preferring left greedy).congr fun _ _ =>
          repeats_or_iff.trans (repeats_congr fun rounds => by
            constructor
            · rintro (⟨fewer, rfl, bounded⟩ | rfl) <;> omega
            · intro bounded
              cases rounds with
              | zero => exact .inr rfl
              | succ fewer => exact .inl ⟨fewer, rfl, by omega⟩)
      exact (inductionHypothesis oneMore).congr fun _ _ => repeats_congr fun rounds => by omega

/-- A body that leads back to a fork: any number of rounds from the fork, at least one from the
body. -/
theorem cycle (means : layout.Means body) (greedy : Bool) (next : Nat) (nodes : Nodes) :
    Lays nodes (Nodes.cycle layout greedy next nodes).2.2
        (Nodes.cycle layout greedy next nodes).1 next (Repeats body fun _ => True) ∧
      Lays nodes (Nodes.cycle layout greedy next nodes).2.2
        (Nodes.cycle layout greedy next nodes).2.1 next (Repeats body (1 ≤ ·)) := by
  have inner := means nodes.size (nodes.push .accept)
  rw [Nodes.cycle, Nodes.place]
  dsimp only
  revert inner
  generalize layout nodes.size (nodes.push .accept) = laid
  obtain ⟨start, more⟩ := laid
  intro inner
  dsimp only at inner ⊢
  have reserved : nodes.size < more.size := by
    have le := inner.grown.size_le
    rw [Array.size_push] at le
    omega
  have grown : Extends nodes
      (more.setIfInBounds nodes.size (Nodes.preferring greedy start next)) := by
    intro place node held
    obtain ⟨bounded, -⟩ := Array.getElem?_eq_some_iff.mp held
    rw [Array.getElem?_setIfInBounds_ne (by omega)]
    exact inner.grown place node (extends_push nodes .accept place node held)
  -- In any program that holds the block, the body leads back to the fork.
  have bridges (whole : Nodes) (holds : Holds whole nodes.size
      (more.setIfInBounds nodes.size (Nodes.preferring greedy start next))) :
      whole[nodes.size]? = some (Nodes.preferring greedy start next) ∧
        Bridges whole start nodes.size body := by
    refine ⟨holds _ _ (Nat.le_refl _) (Array.getElem?_setIfInBounds_self_of_lt reserved),
      inner.bridges whole fun place node behind held => ?_⟩
    rw [Array.size_push] at behind
    refine holds place node (by omega) ?_
    rwa [Array.getElem?_setIfInBounds_ne (by omega)]
  constructor
  · refine ⟨grown, fun whole holds => ?_⟩
    obtain ⟨here, round⟩ := bridges whole holds
    exact bridges_again here round
  · refine ⟨grown, fun whole holds => ?_⟩
    obtain ⟨here, round⟩ := bridges whole holds
    refine (round.comp (bridges_again here round)).congr fun _ _ =>
      comp_repeats_iff.trans (repeats_congr fun count => ?_)
    constructor
    · rintro ⟨fewer, rfl, -⟩
      omega
    · intro some
      exact ⟨count - 1, by omega, trivial⟩

/-- A repeated body. -/
theorem rounds (means : layout.Means body) (nullable : Bool) (least : Nat) (most : Option Nat)
    (greedy : Bool) : (Nodes.rounds layout nullable least most greedy).Means
      (Repeats body fun count => least ≤ count ∧ ∀ limit ∈ most, count ≤ max least limit) := by
  intro next nodes
  cases most with
  | none =>
      obtain ⟨again, inside⟩ := means.cycle greedy next nodes
      cases least with
      | zero =>
          rw [Nodes.rounds]
          dsimp only
          split
          · have left := (Lays.noRound nodes next body).later inside.grown
            refine (inside.preferring left greedy).congr
              fun _ _ => repeats_or_iff.trans (repeats_congr fun count => ?_)
            simp
            omega
          · exact again.congr fun _ _ => repeats_congr (by simp)
      | succ least =>
          refine (means.times least inside).congr fun _ _ => repeats_congr fun count => ?_
          constructor
          · rintro ⟨fewer, rfl, some⟩
            exact ⟨by omega, nofun⟩
          · rintro ⟨enough, -⟩
            exact ⟨count - least, by omega, by omega⟩
  | some most =>
      have left : Lays nodes nodes next next (Repeats body (· ≤ 0)) :=
        (Lays.noRound nodes next body).congr fun _ _ => repeats_congr fun _ => Nat.le_zero.symm
      have options := means.upTo greedy (most - least) left
      have shape : Nodes.rounds layout nullable least (some most) greedy next nodes =
          Nodes.times layout least
            (Nodes.upTo layout greedy next (most - least) next nodes).1
            (Nodes.upTo layout greedy next (most - least) next nodes).2 := by
        cases least <;> rfl
      rw [shape]
      refine (means.times least options).congr fun _ _ => repeats_congr fun count => ?_
      simp only [Option.mem_def, Option.some.injEq, forall_eq']
      constructor
      · rintro ⟨fewer, rfl, bounded⟩
        omega
      · rintro ⟨enough, bounded⟩
        exact ⟨count - least, by omega, by omega⟩

end Layout.Means

/-- The program of an expression goes from cursor to cursor as the expression matches. -/
theorem means_layOut (expr : Expr) : Layout.Means (layOut expr) expr.Matches := by
  induction expr with
  | empty => exact fun next nodes => .refl nodes next
  | char set =>
      exact fun next nodes => .place (fun _ _ held => held) fun whole here _ => bridges_read here
  | edge edge =>
      exact fun next nodes => .place (fun _ _ held => held) fun whole here _ => bridges_check here
  | seq first second near far =>
      exact fun next nodes => (far next nodes).comp (near _ _)
  | choice first second near far =>
      intro next nodes
      have otherwise := far next nodes
      have preferred := near next (layOut second next nodes).2
      exact (preferred.earlier otherwise.grown).fork (otherwise.later preferred.grown)
  | group body inductionHypothesis => exact inductionHypothesis
  | repetition body least most greedy inductionHypothesis =>
      exact inductionHypothesis.rounds body.nullable least most greedy

end Nodes

/-! ### Matches -/

namespace Pattern

/-- A way through the program of an expression leads over a part that the expression matches. -/
theorem accepts_ofExpr_iff (expr : Expr) {cursor : Cursor} {stop : Nat} :
    (ofExpr expr).AcceptsFrom [(ofExpr expr).start] cursor stop ↔
      ∃ last, expr.Matches cursor last ∧ last.offset = stop := by
  obtain ⟨grown, bridges⟩ := Nodes.means_layOut expr 0 #[.accept]
  have accept : (ofExpr expr).nodes[0]? = some .accept := grown 0 .accept rfl
  have bridge : Nodes.Bridges (ofExpr expr).nodes (ofExpr expr).start 0 expr.Matches :=
    bridges _ fun _ _ _ held => held
  constructor
  · rintro ⟨node, member, steps, way⟩
    obtain rfl := List.mem_singleton.mp member
    obtain ⟨last, _, _, matched, atEnd⟩ := bridge.sound way
    exact ⟨last, matched, (atEnd.stop_of_accept accept).symm⟩
  · rintro ⟨last, matched, rfl⟩
    exact ⟨_, List.mem_singleton_self _, bridge.complete matched (.accept accept)⟩

/-- A match of an expression is a part that the expression matches. -/
theorem exists_matches_of_matchLength? {expr : Expr} {before : Option Char} {rest : Text}
    {length : Nat} (found : (ofExpr expr).matchLength? before rest = some length) :
    ∃ last, expr.Matches ⟨0, before, rest⟩ last ∧ last.offset = length :=
  (accepts_ofExpr_iff expr).mp ((accepts_of_run found).resolve_left nofun)

/-- There is a match of an expression exactly where the expression matches some part. -/
theorem isSome_matchLength?_iff {expr : Expr} {before : Option Char} {rest : Text} :
    ((ofExpr expr).matchLength? before rest).isSome = true ↔
      ∃ last, expr.Matches ⟨0, before, rest⟩ last := by
  constructor
  · intro found
    obtain ⟨length, found⟩ := Option.isSome_iff_exists.mp found
    obtain ⟨last, matched, -⟩ := exists_matches_of_matchLength? found
    exact ⟨last, matched⟩
  · rintro ⟨last, matched⟩
    exact isSome_run ((accepts_ofExpr_iff expr).mpr ⟨last, matched, rfl⟩)

/-- What a text writes is the program of its expression, if that is small enough. -/
theorem compile?_eq_some_iff {text : String} {pattern : Pattern} :
    compile? text = some pattern ↔
      ∃ expr, Expr.ofText text.toList = .ok expr ∧ expr.fits = true ∧ pattern = ofExpr expr := by
  rw [compile?, compile]
  cases Expr.ofText text.toList with
  | error problem => exact iff_of_false nofun (by rintro ⟨_, ⟨⟩, -⟩)
  | ok expr =>
      change (if expr.fits then .ok (ofExpr expr) else .error PatternError.tooLarge :
        Except PatternError Pattern).toOption = some pattern ↔ _
      split
      next fits =>
        constructor
        · intro same
          exact ⟨expr, rfl, fits, (Option.some.inj same).symm⟩
        · rintro ⟨_, ⟨⟩, -, rfl⟩
          rfl
      next large =>
        refine iff_of_false nofun ?_
        rintro ⟨_, ⟨⟩, fits, -⟩
        exact large fits

/-! ### One character -/

variable {set : CharSet} {before : Option Char}

/-- One character matches right where it stands. -/
theorem matchLength?_char_of_member {c : Char} (member : set.member c = true) (rest : Text) :
    (ofExpr (.char set)).matchLength? before (c :: rest) = some 1 := by
  have found : ((ofExpr (.char set)).matchLength? before (c :: rest)).isSome = true :=
    isSome_matchLength?_iff.mpr ⟨⟨1, some c, rest⟩, c, rest, rfl, member, rfl⟩
  obtain ⟨length, found⟩ := Option.isSome_iff_exists.mp found
  obtain ⟨_, ⟨_, _, _, _, rfl⟩, rfl⟩ := exists_matches_of_matchLength? found
  exact found

/-- Nothing else matches one character. -/
theorem matchLength?_char_eq_none {rest : Text} (other : ∀ c ∈ rest.head?, set.member c = false) :
    (ofExpr (.char set)).matchLength? before rest = none := by
  cases found : (ofExpr (.char set)).matchLength? before rest with
  | none => rfl
  | some length =>
      obtain ⟨_, ⟨c, others, shape, member, -⟩, -⟩ := exists_matches_of_matchLength? found
      obtain rfl : rest = c :: others := shape
      have differs := other c rfl
      rw [member] at differs
      cases differs

/-- A search for one character finds the first one. -/
theorem findFrom_char {front rest : Text} {c : Char} (offset : Nat)
    (absent : ∀ other ∈ front, set.member other = false) (member : set.member c = true) :
    (ofExpr (.char set)).findFrom offset before (front ++ c :: rest) =
      some ⟨offset + front.length, offset + front.length + 1⟩ := by
  induction front generalizing offset before with
  | nil => simp [findFrom, matchLength?_char_of_member member]
  | cons other front inductionHypothesis =>
      obtain ⟨differs, others⟩ := List.forall_mem_cons.mp absent
      rw [List.cons_append, findFrom, matchLength?_char_eq_none (by simpa using differs)]
      rw [inductionHypothesis (offset + 1) others, List.length_cons]
      simp only [Nat.add_comm, Nat.add_left_comm]

/-- A search for one character finds nothing where it is absent. -/
theorem findFrom_char_eq_none {rest : Text} (offset : Nat)
    (absent : ∀ other ∈ rest, set.member other = false) :
    (ofExpr (.char set)).findFrom offset before rest = none := by
  induction rest generalizing offset before with
  | nil =>
      rw [findFrom, matchLength?_char_eq_none (by simp)]
      rfl
  | cons other rest inductionHypothesis =>
      obtain ⟨differs, others⟩ := List.forall_mem_cons.mp absent
      rw [findFrom, matchLength?_char_eq_none (by simpa using differs)]
      exact inductionHypothesis (offset + 1) others

end Pattern

end Highlighter
