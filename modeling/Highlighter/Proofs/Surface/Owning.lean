import Highlighter.Proofs.Surface.Carrying

/-!
# Whose range a character belongs to

Ranges that were put on a text follow it through every edit. `Surface.ownersAlong` says from the
edits alone to whose range each character belongs afterwards: a character that stays keeps its
owner, inserted characters get the owner that the two characters around them share, and the
characters of a replaced text have none. `Owned.run` shows that the surface agrees, whatever the
edits are. Operations on tags are outside of this module.
-/

namespace Highlighter.Surface

open TagRange

/-! ### Owners -/

section

variable {α : Type} [DecidableEq α]

/-- The owner that the characters before and behind a place share. -/
def sharedOwner (owners : List (Option α)) (place : Nat) : Option α :=
  if 0 < place ∧ owners[place - 1]? = owners[place]? then owners[place]?.join else none

/-- The owners after an edit that puts `count` characters in the place of `removed` ones. -/
def splicedOwners (owners : List (Option α)) (place removed count : Nat) : List (Option α) :=
  owners.take place ++ List.replicate count (sharedOwner owners place) ++
    owners.drop (place + removed)

/-- The owners of all characters after an operation on the text. -/
def ownersAfter (surface : Surface) (owners : List (Option α)) : Operation → List (Option α)
  | .insert position text => splicedOwners owners (surface.offsetOf position) 0 text.length
  | .delete start stop =>
    splicedOwners owners (surface.offsetOf start)
      (surface.offsetOf stop - surface.offsetOf start) 0
  | .setContent text => List.replicate text.length none
  | .setCursor _ | .tagAdd .. | .tagRemove .. | .tagDelete _ | .tagConfigure .. => owners

/-- The owners of all characters after a sequence of operations on the text. -/
def ownersAlong (surface : Surface) (owners : List (Option α)) :
    List Operation → List (Option α)
  | [] => owners
  | operation :: later =>
    (surface.apply operation).ownersAlong (surface.ownersAfter owners operation) later

/-- A shared owner is an owner. -/
theorem mem_of_sharedOwner {owners : List (Option α)} {place : Nat} {owner : α}
    (shared : sharedOwner owners place = some owner) : some owner ∈ owners := by
  rw [sharedOwner] at shared
  split at shared
  next => exact List.mem_of_getElem? (Option.join_eq_some_iff.mp shared)
  next => simp at shared

/-- An edit brings in no owner. -/
theorem mem_of_mem_splicedOwners {owners : List (Option α)} {place removed count : Nat}
    {owner : α} (member : some owner ∈ splicedOwners owners place removed count) :
    some owner ∈ owners := by
  simp only [splicedOwners, List.mem_append] at member
  rcases member with (front | middle) | back
  · exact List.mem_of_mem_take front
  · exact mem_of_sharedOwner (List.eq_of_mem_replicate middle).symm
  · exact List.mem_of_mem_drop back

/-- The owner of a character after an edit. -/
theorem getElem?_splicedOwners {owners : List (Option α)} {place : Nat}
    (bounded : place ≤ owners.length) (removed count index : Nat) :
    (splicedOwners owners place removed count)[index]? =
      if index < place then owners[index]?
      else if index < place + count then some (sharedOwner owners place)
      else owners[index - count + removed]? := by
  have front : (owners.take place).length = place := List.length_take_of_le bounded
  rw [splicedOwners, List.append_assoc]
  split
  next early => rw [List.getElem?_append_left (by omega), List.getElem?_take_of_lt early]
  next late =>
    rw [List.getElem?_append_right (by omega), front]
    split
    next within =>
      rw [List.getElem?_append_left (by simpa using by omega), List.getElem?_replicate,
        if_pos (by omega)]
    next behind =>
      rw [List.getElem?_append_right (by simpa using by omega), List.length_replicate,
        List.getElem?_drop]
      congr 1
      omega

/-- An edit changes the number of owners as it changes the number of characters. -/
theorem length_splicedOwners {owners : List (Option α)} {place removed : Nat}
    (bounded : place + removed ≤ owners.length) (count : Nat) :
    (splicedOwners owners place removed count).length + removed = owners.length + count := by
  simp only [splicedOwners, List.length_append, List.length_take, List.length_replicate,
    List.length_drop]
  omega

end

/-! ### Ranges that are told apart by their stamps -/

/-- Two ranges of one tag have different stamps. -/
def StampedApart (surface : Surface) : Prop :=
  ∀ tag ∈ surface.tags, ∀ {range other}, range ∈ tag.ranges → other ∈ tag.ranges →
    range.stamp = other.stamp → range = other

variable {surface : Surface}

theorem mem_holdersAt {position : Position} {name : String} {range : TagRange} :
    (name, range) ∈ surface.holdersAt position ↔
      ∃ tag ∈ surface.tags, tag.name = name ∧ range ∈ tag.ranges ∧ range.holds position = true := by
  simp only [holdersAt, Tag.holders, List.mem_flatMap, List.mem_map, List.mem_filter,
    Prod.mk.injEq]
  constructor
  · rintro ⟨tag, member, held, ⟨inTag, holds⟩, named, rfl⟩
    exact ⟨tag, member, named, inTag, holds⟩
  · rintro ⟨tag, member, named, inTag, holds⟩
    exact ⟨tag, member, range, ⟨inTag, holds⟩, named, rfl⟩

/-- Characters with one mark are held by one range. -/
theorem StampedApart.eq_of_mem_holdersAt (apart : surface.StampedApart) (valid : surface.Valid)
    {position place : Position} {name : String} {range other : TagRange}
    (held : (name, range) ∈ surface.holdersAt position)
    (otherHeld : (name, other) ∈ surface.holdersAt place) (same : range.stamp = other.stamp) :
    range = other := by
  obtain ⟨tag, member, named, inTag, -⟩ := mem_holdersAt.mp held
  obtain ⟨otherTag, otherMember, otherNamed, inOther, -⟩ := mem_holdersAt.mp otherHeld
  obtain rfl := List.inj_on_of_nodup_map valid.namesDistinct member otherMember
    (named.trans otherNamed.symm)
  exact apart tag member inTag inOther same

/-- The range of a character holds the characters from its start up to its stop. -/
theorem Valid.mem_holdersAt_positionOf (valid : surface.Valid) {position : Position}
    {name : String} {range : TagRange} (held : (name, range) ∈ surface.holdersAt position)
    (offset : Nat) :
    (name, range) ∈ surface.holdersAt (surface.positionOf offset) ↔
      surface.offsetOf range.start ≤ offset ∧ offset < surface.offsetOf range.stop := by
  obtain ⟨tag, member, named, inTag, -⟩ := mem_holdersAt.mp held
  obtain ⟨startInside, stopInside⟩ := valid.rangesInside tag member range inTag
  have holds := holds_positionOf valid.toLined range startInside stopInside offset
  rw [← Bool.and_eq_true_iff.trans (and_congr decide_eq_true_iff decide_eq_true_iff), ← holds]
  constructor
  · intro within
    obtain ⟨-, -, -, -, within⟩ := mem_holdersAt.mp within
    exact within
  · intro within
    exact mem_holdersAt.mpr ⟨tag, member, named, inTag, within⟩

/-- An edit keeps the stamps apart. -/
theorem StampedApart.replaceText (apart : surface.StampedApart) (valid : surface.Valid)
    {text : Text} {moveStart moveStop : Nat → Nat}
    (moves : Moves surface (surface.withText text) moveStart moveStop) (cursor : Nat) :
    (surface.replaceText text moveStart moveStop cursor).StampedApart := by
  intro edited member range other held otherHeld same
  rw [tags_replaceText valid.toLined valid.rangesInside moves cursor] at member
  obtain ⟨tag, old, rfl⟩ := List.mem_map.mp member
  obtain ⟨oldRange, oldHeld, moved⟩ := List.mem_filterMap.mp held
  obtain ⟨oldOther, oldOtherHeld, otherMoved⟩ := List.mem_filterMap.mp otherHeld
  obtain ⟨-, rfl⟩ := movedRange_eq_some_iff.mp moved
  obtain ⟨-, rfl⟩ := movedRange_eq_some_iff.mp otherMoved
  rw [apart tag old oldHeld oldOtherHeld same]

/-- Operations on the text. -/
def Operation.EditsText : Operation → Prop
  | .insert .. | .delete .. | .setContent _ | .setCursor _ => True
  | .tagAdd .. | .tagRemove .. | .tagDelete _ | .tagConfigure .. => False

instance (operation : Operation) : Decidable operation.EditsText :=
  match operation with
  | .insert .. | .delete .. | .setContent _ | .setCursor _ => .isTrue trivial
  | .tagAdd .. | .tagRemove .. | .tagDelete _ | .tagConfigure .. => .isFalse id

/-- An operation on the text keeps the stamps apart. -/
theorem StampedApart.apply (apart : surface.StampedApart) (valid : surface.Valid)
    {operation : Operation} (edits : operation.EditsText) :
    (surface.apply operation).StampedApart := by
  cases operation with
  | insert position text => exact apart.replaceText valid (insert_moves surface _ text) _
  | delete start stop =>
      rw [Surface.apply]
      by_cases ordered : surface.offsetOf start < surface.offsetOf stop
      · rw [delete_of_lt ordered]
        exact apart.replaceText valid
          (delete_moves surface _ (offsetOf_le_length valid.nonempty stop)) _
      · rwa [delete_of_le (Nat.not_lt.mp ordered)]
  | setContent text =>
      intro tag member range other held
      obtain ⟨old, -, rfl⟩ := List.mem_map.mp member
      simp at held
  | setCursor position => exact apart
  | tagAdd | tagRemove | tagDelete | tagConfigure => exact edits.elim

/-! ### The owners of ranges -/

/-- Every character is covered by the mark of its owner alone, or by nothing if it has none, and
owners are told apart by their marks. -/
structure Owned {α : Type} (surface : Surface) (mark : α → String × Nat)
    (owners : List (Option α)) : Prop where
  valid : surface.Valid
  apart : surface.StampedApart
  length : owners.length = surface.content.length
  marks : ∀ index, surface.marksAt (surface.positionOf index) =
    (owners[index]?.join.map mark).toList
  distinct : ∀ {owner other}, some owner ∈ owners → some other ∈ owners →
    mark owner = mark other → owner = other

section

variable {α : Type} {mark : α → String × Nat} {owners : List (Option α)}
  (owned : surface.Owned mark owners)

include owned

/-- The tags of a character are found through its owner. -/
theorem Owned.tagsAt_positionOf (index : Nat) :
    surface.tagsAt (surface.positionOf index) =
      (owners[index]?.join.map fun owner => (mark owner).1).toList := by
  rw [tagsAt_eq_map_marksAt owned.valid.separated, owned.marks]
  cases owners[index]?.join <;> rfl

/-- A character with an owner is held by one range alone, which carries the mark of the owner. -/
theorem Owned.exists_holdersAt_eq {index : Nat} {owner : α}
    (atIndex : owners[index]? = some (some owner)) :
    ∃ name range, surface.holdersAt (surface.positionOf index) = [(name, range)] ∧
      mark owner = (name, range.stamp) := by
  have marks := owned.marks index
  rw [atIndex, marksAt_eq_map_holdersAt] at marks
  obtain ⟨⟨name, range⟩, single, same⟩ := List.map_eq_singleton_iff.mp marks
  exact ⟨name, range, single, same.symm⟩

/-- A character without an owner is held by no range. -/
theorem Owned.holdersAt_eq_nil {index : Nat} (unowned : owners[index]?.join = none) :
    surface.holdersAt (surface.positionOf index) = [] := by
  have marks := owned.marks index
  rw [unowned, marksAt_eq_map_holdersAt] at marks
  exact List.map_eq_nil_iff.mp marks

/-- Two characters are held by one range exactly if they have one owner. -/
theorem Owned.mem_holdersAt_iff {place : Nat} {owner : α}
    (atPlace : owners[place]? = some (some owner)) {name : String} {range : TagRange}
    (held : (name, range) ∈ surface.holdersAt (surface.positionOf place)) (index : Nat) :
    (name, range) ∈ surface.holdersAt (surface.positionOf index) ↔
      owners[index]? = owners[place]? := by
  obtain ⟨_, _, single, ownMark⟩ := owned.exists_holdersAt_eq atPlace
  rw [single, List.mem_singleton] at held
  cases held
  rw [atPlace]
  constructor
  · intro within
    cases atIndex : owners[index]?.join with
    | none => simp [owned.holdersAt_eq_nil atIndex] at within
    | some other =>
        have otherAt := Option.join_eq_some_iff.mp atIndex
        obtain ⟨_, _, otherSingle, otherMark⟩ := owned.exists_holdersAt_eq otherAt
        rw [otherSingle, List.mem_singleton] at within
        cases within
        rw [otherAt, owned.distinct (List.mem_of_getElem? otherAt) (List.mem_of_getElem? atPlace)
          (otherMark.trans ownMark.symm)]
  · intro atIndex
    obtain ⟨_, otherRange, otherSingle, otherMark⟩ := owned.exists_holdersAt_eq atIndex
    obtain ⟨rfl, sameStamp⟩ := Prod.mk.inj (ownMark.symm.trans otherMark)
    have holds : (name, range) ∈ surface.holdersAt (surface.positionOf place) := by simp [single]
    have otherHolds : (name, otherRange) ∈ surface.holdersAt (surface.positionOf index) := by
      simp [otherSingle]
    rwa [owned.apart.eq_of_mem_holdersAt owned.valid holds otherHolds sameStamp]

/-- What reaches across a place is the range of the owner that the characters around it share. -/
theorem Owned.marksAcross_eq [DecidableEq α] (place : Nat) :
    surface.marksAcross place = ((sharedOwner owners place).map mark).toList := by
  rw [owned.valid.marksAcross_eq]
  cases behind : owners[place]?.join with
  | none => simp [sharedOwner, owned.holdersAt_eq_nil behind, behind]
  | some owner =>
      have atPlace := Option.join_eq_some_iff.mp behind
      obtain ⟨name, range, single, ownMark⟩ := owned.exists_holdersAt_eq atPlace
      have held : (name, range) ∈ surface.holdersAt (surface.positionOf place) := by simp [single]
      have reaches : surface.offsetOf range.start < place ↔
          0 < place ∧ owners[place - 1]? = owners[place]? := by
        have within := (owned.valid.mem_holdersAt_positionOf held place).mp held
        rw [← owned.mem_holdersAt_iff atPlace held,
          owned.valid.mem_holdersAt_positionOf held]
        omega
      rw [single, sharedOwner]
      by_cases early : surface.offsetOf range.start < place
      · rw [if_pos (reaches.mp early), behind]
        simp [early, ownMark]
      · rw [if_neg (mt reaches.mpr early)]
        simp [early]

variable {after : Surface} {place removed : Nat} {inserted : Text}

/-- An edit that carries the tags along splices the owners. -/
theorem Owned.carried [DecidableEq α]
    (carried : Carried surface after place removed inserted) (valid : after.Valid)
    (apart : after.StampedApart) :
    after.Owned mark (splicedOwners owners place removed inserted.length) := by
  have bounded := carried.bounded
  have length := carried.length_content
  have owners_length := owned.length
  refine
    { valid, apart
      length := ?length
      marks := ?marks
      distinct := fun member other =>
        owned.distinct (mem_of_mem_splicedOwners member) (mem_of_mem_splicedOwners other) }
  case length =>
    have spliced := length_splicedOwners (owners_length ▸ bounded) inserted.length
    omega
  case marks =>
    intro index
    rw [getElem?_splicedOwners (by omega), carried.marksAt_positionOf]
    split
    next front => exact owned.marks index
    next =>
      split
      next middle => exact owned.marksAcross_eq place
      next behind => exact owned.marks _

/-- An operation on the text changes the owners as `ownersAfter` says. -/
theorem Owned.apply [DecidableEq α] {operation : Operation} (edits : operation.EditsText) :
    (surface.apply operation).Owned mark (surface.ownersAfter owners operation) := by
  have apart := owned.apart.apply owned.valid edits
  cases operation with
  | insert position text =>
      exact owned.carried (owned.valid.carried_insert position text)
        (owned.valid.insert position text) apart
  | delete start stop =>
      by_cases ordered : surface.offsetOf start < surface.offsetOf stop
      · exact owned.carried (owned.valid.carried_delete ordered)
          (owned.valid.delete start stop) apart
      · have kept : surface.apply (.delete start stop) = surface := if_neg ordered
        have same : surface.ownersAfter owners (.delete start stop) = owners := by
          simp [ownersAfter, splicedOwners, Nat.sub_eq_zero_of_le (Nat.not_lt.mp ordered)]
        rw [kept, same]
        exact owned
  | setContent text =>
      refine
        { valid := owned.valid.setContent text
          apart
          length := by simp [ownersAfter, Surface.apply, setContent, content, Text.ofLines_lines]
          marks := ?_
          distinct := ?_ }
      · intro index
        have nothing : (surface.setContent text).marksAt
            ((surface.setContent text).positionOf index) = [] := by
          simp [marksAt, marksWhere, setContent, Tag.marks, List.flatMap_map]
        rw [ownersAfter, List.getElem?_replicate]
        refine nothing.trans ?_
        split <;> rfl
      · intro owner other member
        simp [ownersAfter] at member
  | setCursor position =>
      exact
        { valid := owned.valid.setCursor position
          apart
          length := owned.length
          marks := owned.marks
          distinct := owned.distinct }
  | tagAdd | tagRemove | tagDelete | tagConfigure => exact edits.elim

end

/-- A run of operations on the text changes the owners as `ownersAlong` says. -/
theorem Owned.run {α : Type} [DecidableEq α] {mark : α → String × Nat}
    {owners : List (Option α)} (owned : surface.Owned mark owners) {operations : List Operation}
    (edits : ∀ operation ∈ operations, operation.EditsText) :
    (surface.run operations).Owned mark (surface.ownersAlong owners operations) := by
  induction operations generalizing surface owners with
  | nil => exact owned
  | cons operation later inductionHypothesis =>
      rw [List.forall_mem_cons] at edits
      exact inductionHypothesis (owned.apply edits.1) edits.2

end Highlighter.Surface
