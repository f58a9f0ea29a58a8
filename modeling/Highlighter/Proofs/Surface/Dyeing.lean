import Highlighter.Proofs.Surface.Free
import Highlighter.Proofs.Surface.LineStyles
import Mathlib.Data.List.Induction

/-!
# Lines in any styles

Tags can give the characters of a line any styles: each character is tagged with a tag of its own
(`dyeing`), and the surface after this run has these styles on the line (`lineStyles_run_dyeing`).
-/

namespace Highlighter.Surface

open TagRange

variable {text letters : Text} {line : Nat} {styles : List StyleDirective}

/-- The name of the tag of a column. Names of different columns differ in their length. -/
def columnName (column : Nat) : String :=
  String.ofList (List.replicate column '#')

theorem columnName_injective : Function.Injective columnName := by
  intro left right same
  have letters := congrArg String.toList same
  simpa [columnName] using congrArg List.length letters

/-- The operations that give the character at a column its style. -/
def dyeingAt (line column : Nat) (style : StyleDirective) : List Operation :=
  [.tagConfigure (columnName column) style,
    .tagAdd (columnName column) ⟨line, column⟩ ⟨line, column + 1⟩]

/-- The operations that give the characters at the start of a line their styles. -/
def dyeing (line : Nat) (styles : List StyleDirective) : List Operation :=
  (styles.mapIdx (dyeingAt line)).flatten

/-- The tag that gives the character at a column its style. -/
def columnTag (line column : Nat) (style : StyleDirective) : Tag where
  name := columnName column
  directive := some style
  ranges := [⟨⟨line, column⟩, ⟨line, column + 1⟩, column⟩]

/-- The tag of a column lays its style over the character there and over no other. -/
theorem layOver_columnTag (line column : Nat) (style : StyleDirective) (position : Position)
    (lower : StyleDirective) :
    (columnTag line column style).layOver position lower =
      if position = ⟨line, column⟩ then lower.mergedWith style else lower := by
  have nonempty : (⟨line, column⟩ : Position) < ⟨line, column + 1⟩ :=
    Position.lt_iff.mpr (.inr ⟨rfl, Nat.lt_add_one column⟩)
  have ascending : Ascending (columnTag line column style).ranges :=
    ⟨by simpa [columnTag] using nonempty, List.pairwise_singleton _ _⟩
  have covers : (columnTag line column style).covers position =
      decide (position = ⟨line, column⟩) := by
    obtain ⟨positionLine, positionColumn⟩ := position
    rw [Tag.covers_eq_any_of_ascending ascending, Bool.eq_iff_iff]
    simp only [columnTag, List.any_cons, List.any_nil, Bool.or_false, TagRange.holds_iff,
      Position.le_iff, Position.lt_iff, decide_eq_true_eq, Position.mk.injEq]
    omega
  rw [Tag.layOver, covers]
  simp [columnTag]

/-- A column whose tag is missing gets its tag as the newest one. -/
theorem tags_run_dyeingAt {surface : Surface} {column : Nat}
    (atLine : surface.line? line = some letters) (within : column < letters.length)
    (stamp : surface.nextStamp = column)
    (absent : columnName column ∉ surface.tags.map (·.name)) (style : StyleDirective) :
    (surface.run (dyeingAt line column style)).tags =
      surface.tags ++ [columnTag line column style] := by
  have configured : (surface.tagConfigure (columnName column) style).tags =
      surface.tags ++ [{ name := columnName column, directive := some style }] :=
    updateTag_of_absent absent
  have ordered : (⟨line, column⟩ : Position) < ⟨line, column + 1⟩ :=
    Position.lt_iff.mpr (.inr ⟨rfl, Nat.lt_add_one column⟩)
  have inside : ∀ place ≤ column + 1,
      (surface.tagConfigure (columnName column) style).Inside ⟨line, place⟩ :=
    fun place bounded => ⟨letters, atLine, Nat.le_trans bounded within⟩
  rw [dyeingAt, run, List.foldl_cons, List.foldl_cons, List.foldl_nil, apply, apply,
    tags_tagAdd _ (inside _ (Nat.le_succ column)) (inside _ (Nat.le_refl _)) ordered, configured,
    updateTag_append absent, updateTag, if_pos rfl]
  subst stamp
  rfl

/-- After the run, the line has a tag for each of its columns. -/
theorem tags_run_dyeing (atLine : (ofText text).line? line = some letters)
    (within : styles.length ≤ letters.length) :
    let dyed := (ofText text).run (dyeing line styles)
    dyed.tags = styles.mapIdx (columnTag line) ∧ dyed.lines = (ofText text).lines ∧
      dyed.nextStamp = styles.length := by
  induction styles using List.reverseRecOn with
  | nil => exact ⟨rfl, rfl, rfl⟩
  | append_singleton styles style inductionHypothesis =>
      rw [List.length_append, List.length_singleton] at within
      obtain ⟨tags, lines, stamp⟩ := inductionHypothesis (Nat.le_of_succ_le within)
      have last : (ofText text).run (dyeing line (styles ++ [style])) =
          ((ofText text).run (dyeing line styles)).run (dyeingAt line styles.length style) := by
        simp [dyeing, run, List.mapIdx_append]
      rw [last]
      generalize (ofText text).run (dyeing line styles) = dyed at tags lines stamp
      have absent : columnName styles.length ∉ dyed.tags.map (·.name) := by
        rw [tags]
        intro member
        obtain ⟨column, bounded, same⟩ : ∃ column, column < styles.length ∧
            columnName column = columnName styles.length := by
          simpa [columnTag, List.mem_mapIdx] using member
        exact Nat.ne_of_lt bounded (columnName_injective same)
      have dyedLine : dyed.line? line = some letters := by
        rw [line?_congr lines, atLine]
      refine ⟨?_, lines, ?_⟩
      · rw [tags_run_dyeingAt dyedLine within stamp absent, tags, List.mapIdx_append]
        simp
      · simpa [dyeingAt, run, apply, tagAdd, tagConfigure] using stamp

/-- Tags of single columns give each column its own style. -/
theorem styleAt_of_columnTags {surface : Surface}
    (tags : surface.tags = styles.mapIdx (columnTag line)) (column : Nat) :
    surface.styleAt ⟨line, column⟩ = (styles[column]?).getD .empty := by
  rw [styleAt_eq_foldl, tags]
  clear tags
  induction styles using List.reverseRecOn with
  | nil => rfl
  | append_singleton styles style inductionHypothesis =>
      rw [List.mapIdx_append, List.foldl_append, inductionHypothesis]
      simp only [List.mapIdx_cons, List.mapIdx_nil, List.foldl_cons, List.foldl_nil,
        layOver_columnTag, Position.mk.injEq, true_and, Nat.zero_add]
      by_cases here : column = styles.length
      · simp [here]
      · rcases Nat.lt_or_gt_of_ne here with before | behind
        · simp [here, List.getElem?_append_left before]
        · rw [if_neg here, List.getElem?_eq_none (by omega), List.getElem?_eq_none (by simp; omega)]

/-- After the run, the line has the styles. -/
theorem lineStyles_run_dyeing (atLine : (ofText text).line? line = some letters)
    (exact : styles.length = letters.length) :
    ((ofText text).run (dyeing line styles)).lineStyles line = styles := by
  obtain ⟨tags, lines, -⟩ := tags_run_dyeing atLine (Nat.le_of_eq exact)
  have orderly := (Valid.ofText text).orderly.run (dyeing line styles)
  generalize (ofText text).run (dyeing line styles) = dyed at tags lines orderly
  have length : dyed.lineLength line = styles.length := by
    rw [lineLength, line?_congr lines, atLine, exact]
    rfl
  rw [lineStyles_eq_map_styleAt orderly, length]
  ext1 column
  rw [List.getElem?_map]
  simp only [styleAt_of_columnTags tags]
  by_cases within : column < styles.length <;> simp [within]

end Highlighter.Surface
