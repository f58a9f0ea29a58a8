import Highlighter.Proofs.Theme.Table
import Highlighter.Proofs.Token.Kind

/-!
# The nearest kind with a style

`Theme.Resolves` says which style a kind has in terms of names alone: its own row, or else that of
the longest name in the table that the kind continues behind a dot. A resolution follows it for
every name (`Theme.resolve_takes_nearest`).
-/

namespace Highlighter

/-- The name continues the name `outer` behind a dot. -/
def TokenKind.Encloses (outer : String) (kind : TokenKind) : Prop :=
  outer.toList ++ ['.'] <+: kind.name.toList

/-- Two enclosing names of the same length are equal. -/
theorem TokenKind.Encloses.eq_of_length_eq {kind : TokenKind} {left right : String}
    (leftEncloses : Encloses left kind) (rightEncloses : Encloses right kind)
    (same : left.length = right.length) : left = right := by
  rw [← String.length_toList, ← String.length_toList] at same
  have ordered := List.prefix_of_prefix_length_le leftEncloses rightEncloses (by simp [same])
  have equal := ordered.eq_of_length (by simp [same])
  exact String.toList_injective (List.append_cancel_right equal)

namespace StyleTable

variable {name : String} {row other : StyleRow}

/-- A row that is found is a row of the table under the name that was looked up. -/
theorem of_find?_eq_some (found : find? name = some row) : row ∈ rows ∧ row.kind = name :=
  ⟨List.mem_of_find?_eq_some found, by simpa using List.find?_some found⟩

/-- A kind outside of the table is not found. -/
theorem find?_eq_none_iff : find? name = none ↔ name ∉ kinds := by
  simp [find?, kinds]

/-- No two rows of the table are for one kind. -/
theorem eq_of_kind_eq (listed : row ∈ rows) (otherListed : other ∈ rows)
    (same : row.kind = other.kind) : row = other := by
  have found := find?_of_mem listed
  rw [same, find?_of_mem otherListed] at found
  exact (Option.some.inj found).symm

end StyleTable

namespace Theme

open TokenKind

/-- What the style of a kind is. -/
inductive Resolves (theme : Theme) (kind : TokenKind) : Resolution → Prop where
  /-- A kind of the table has the directive of its row. -/
  | exact {row : StyleRow} (listed : row ∈ StyleTable.rows) (same : row.kind = kind.name) :
      Resolves theme kind (.exact (row.directive theme))
  /-- Any other kind has that of the longest name in the table that encloses it. -/
  | inherited {row : StyleRow} (absent : kind.name ∉ StyleTable.kinds)
      (listed : row ∈ StyleTable.rows) (encloses : Encloses row.kind kind)
      (longest : ∀ other ∈ StyleTable.kinds, Encloses other kind →
        other.length ≤ row.kind.length) :
      Resolves theme kind (.inherited row.kind (row.directive theme))
  /-- Without such a name it has none. -/
  | unstyled (absent : kind.name ∉ StyleTable.kinds)
      (alone : ∀ other ∈ StyleTable.kinds, ¬Encloses other kind) :
      Resolves theme kind .unstyled

variable {theme : Theme} {kind : TokenKind} {resolution other : Resolution}

/-- The names decide the style. -/
theorem Resolves.unique (resolves : theme.Resolves kind resolution)
    (otherwise : theme.Resolves kind other) : resolution = other := by
  have present {row : StyleRow} (listed : row ∈ StyleTable.rows) :
      row.kind ∈ StyleTable.kinds := List.mem_map_of_mem listed
  cases resolves with
  | exact listed same =>
      cases otherwise with
      | exact otherListed otherSame =>
          rw [StyleTable.eq_of_kind_eq listed otherListed (same.trans otherSame.symm)]
      | inherited absent => exact absurd (same ▸ present listed) absent
      | unstyled absent => exact absurd (same ▸ present listed) absent
  | inherited absent listed encloses longest =>
      cases otherwise with
      | exact otherListed otherSame => exact absurd (otherSame ▸ present otherListed) absent
      | inherited _ otherListed otherEncloses otherLongest =>
          have sameLength := Nat.le_antisymm
            (otherLongest _ (present listed) encloses)
            (longest _ (present otherListed) otherEncloses)
          have sameKind := encloses.eq_of_length_eq otherEncloses sameLength
          rw [StyleTable.eq_of_kind_eq listed otherListed sameKind]
      | unstyled _ alone => exact absurd encloses (alone _ (present listed))
  | unstyled absent alone =>
      cases otherwise with
      | exact otherListed otherSame => exact absurd (otherSame ▸ present otherListed) absent
      | inherited _ otherListed otherEncloses =>
          exact absurd otherEncloses (alone _ (present otherListed))
      | unstyled => rfl

/-- A resolution gives the style that the names decide. -/
theorem resolves_resolve (theme : Theme) (kind : TokenKind) :
    theme.Resolves kind (theme.resolve kind) := by
  rw [resolve]
  cases own : StyleTable.find? kind.name with
  | some row =>
      obtain ⟨listed, same⟩ := StyleTable.of_find?_eq_some own
      exact .exact listed same
  | none =>
      have absent := StyleTable.find?_eq_none_iff.mp own
      cases inherited : kind.ancestors.findSome? StyleTable.find? with
      | none =>
          refine .unstyled absent fun other listed encloses => ?_
          have missing := List.findSome?_eq_none_iff.mp inherited other
            (mem_ancestors_iff.mpr encloses)
          exact StyleTable.find?_eq_none_iff.mp missing listed
      | some row =>
          obtain ⟨nearer, name, farther, split, found, passed⟩ :=
            List.findSome?_eq_some_iff.mp inherited
          obtain ⟨listed, rfl⟩ := StyleTable.of_find?_eq_some found
          have encloses : Encloses row.kind kind :=
            mem_ancestors_iff.mp (split ▸ List.mem_append_right _ List.mem_cons_self)
          refine .inherited absent listed encloses fun other otherListed otherEncloses => ?_
          -- An ancestor before the one found has no row, and those behind it are shorter.
          have member := mem_ancestors_iff.mpr otherEncloses
          rw [split] at member
          rcases List.mem_append.mp member with near | far
          · exact absurd otherListed (StyleTable.find?_eq_none_iff.mp (passed other near))
          · have ordered := (List.pairwise_cons.mp (pairwise_length_ancestors kind)).2
            rw [split] at ordered
            rcases List.mem_cons.mp far with rfl | later
            · exact Nat.le_refl _
            · exact Nat.le_of_lt ((List.pairwise_cons.mp
                (List.pairwise_append.mp ordered).2.1).1 other later)

/-- For every name, a kind takes the style of its own row or else that of its longest enclosing name
in the table. The enclosing kinds are what taking the parent again and again leads to, each shorter
than the one before, and a kind lies within exactly these and itself. -/
theorem resolve_takes_nearest (theme : Theme) (kind : TokenKind) :
    (∀ resolution, theme.resolve kind = resolution ↔ theme.Resolves kind resolution) ∧
      (∀ index, kind.ancestors[index]? =
        (((fun kind? : Option TokenKind => kind?.bind parent?)^[index + 1]) (some kind)).map
          (·.name)) ∧
      (kind.name :: kind.ancestors).Pairwise (fun near far => far.length < near.length) ∧
      ∀ other, kind.isWithin other = true ↔ other = kind.name ∨ other ∈ kind.ancestors := by
  refine ⟨fun resolution => ⟨?_, ?_⟩, getElem?_ancestors kind, pairwise_length_ancestors kind,
    isWithin_iff kind⟩
  · rintro rfl
    exact resolves_resolve theme kind
  · exact (resolves_resolve theme kind).unique

/-- A dot at the end makes a name of its own, which the table does not hold. -/
example : Theme.dark.resolve ⟨"Keyword.Type."⟩ =
    .inherited "Keyword.Type" { foreground := some ⟨0xC6, 0x78, 0xDD⟩ } := by
  decide

end Theme

end Highlighter
