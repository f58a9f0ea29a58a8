import Highlighter.Proofs.Dict
import Highlighter.Proofs.Toml.Scalars

/-!
# Flat documents are read as they were written

A table of scalars is written line by line, one entry to a line. Each line is read as one statement
(`readStatement_entryLine`), and the statements put the entries back in their order
(`parse?_toText`).
-/

namespace Highlighter.Toml

/-- A table that holds scalars only. -/
structure Flat (table : Table) : Prop where
  ascending : table.Ascending
  scalar : ∀ entry ∈ table, entry.2.Scalar

/-! ### Lines -/

section Lines

variable {value : Value} {rest : List Char}

/-- No scalar has a header of its own. -/
theorem Value.Scalar.hasHeader_eq_false (scalar : value.Scalar) : value.hasHeader = false := by
  cases scalar <;> rfl

/-- The line of an entry is read as one statement. -/
theorem readStatement_entryLine (key : String) (scalar : value.Scalar) (rest : List Char) :
    readStatement (entryLine key value ++ rest) = some (.assign [key] value, rest) := by
  have line : entryLine key value ++ rest =
      keyPartText key ++ ' ' :: '=' :: ' ' :: (value.toText ++ '\n' :: rest) := by
    simp [entryLine]
  have noSpace : skipBlanks (' ' :: (value.toText ++ '\n' :: rest)) =
      value.toText ++ '\n' :: rest := by
    rw [skipBlanks, List.dropWhile_cons_of_pos (by decide)]
    exact skipBlanks_toText scalar _
  have lineEnd : readLineEnd ('\n' :: rest) = some rest := by
    simp [readLineEnd, skipBlanks, isBlank, skipComment, readNewline]
  obtain ⟨c, later, shape, begins⟩ := exists_keyPartText_eq_cons key
  have noBracket := begins.of_ne '[' (by decide) (by decide) (by decide)
  have readsKey := readKey_keyPartText key (' ' :: (value.toText ++ '\n' :: rest))
  rw [line]
  rw [shape, List.cons_append] at readsKey ⊢
  rw [readStatement, readsKey]
  · simp [readChar, noSpace, readValue_toText scalar, lineEnd]
  · rintro text same
    exact noBracket (List.cons.inj same).1
  · rintro text same
    exact noBracket (List.cons.inj same).1

/-- A line begins with its key, not with blanks, a comment or an end of a line. -/
theorem skipTrivia_entryLine (key : String) (value : Value) (rest : List Char) :
    skipTrivia false (entryLine key value ++ rest) = entryLine key value ++ rest := by
  obtain ⟨c, later, shape, begins⟩ := exists_keyPartText_eq_cons key
  have noNewline := begins.of_ne '\n' (by decide) (by decide) (by decide)
  have noReturn := begins.of_ne '\r' (by decide) (by decide) (by decide)
  have noSpace := begins.of_ne ' ' (by decide) (by decide) (by decide)
  have noTab := begins.of_ne '\t' (by decide) (by decide) (by decide)
  have noHash := begins.of_ne '#' (by decide) (by decide) (by decide)
  simp only [entryLine, shape, List.cons_append]
  rw [skipTrivia]
  · simp [isBlank, noSpace, noTab, noHash]
  · exact noNewline
  · exact fun _ same => absurd same noReturn

/-- A table of scalars is written line by line. -/
theorem toText_eq_flatMap {table : Table} (scalar : ∀ entry ∈ table, entry.2.Scalar) :
    Table.toText table = table.flatMap fun entry => entryLine entry.1 entry.2 := by
  have noBlocks : Value.entryBlocks [] table = [] := by
    induction table with
    | nil => rfl
    | cons entry others inductionHypothesis =>
        obtain ⟨first, later⟩ := List.forall_mem_cons.mp scalar
        simp [Value.entryBlocks, first.hasHeader_eq_false, inductionHypothesis later]
  have all : entryLines table = table.flatMap fun entry => entryLine entry.1 entry.2 := by
    rw [entryLines, List.filter_eq_self.mpr fun entry member => by
      simp [(scalar entry member).hasHeader_eq_false]]
  rw [Table.toText, noBlocks, all, List.append_nil]
  split
  next empty => simpa [joinBlocks] using empty
  next => rfl

end Lines

/-! ### Statements -/

/-- The lines of scalars are read one by one. -/
theorem readStatements_flatMap {entries : List (String × Value)}
    (scalar : ∀ entry ∈ entries, entry.2.Scalar) {steps : Nat}
    (enough : (entries.flatMap fun entry => entryLine entry.1 entry.2).length < steps) :
    Document.readStatements steps (entries.flatMap fun entry => entryLine entry.1 entry.2) =
      some (entries.map fun entry => .assign [entry.1] entry.2) := by
  induction entries generalizing steps with
  | nil =>
      obtain ⟨further, rfl⟩ : ∃ further, steps = further + 1 := ⟨steps - 1, by omega⟩
      simp [Document.readStatements, skipTrivia]
  | cons entry others inductionHypothesis =>
      obtain ⟨first, later⟩ := List.forall_mem_cons.mp scalar
      rw [List.flatMap_cons, List.length_append] at enough
      have nonempty : 0 < (entryLine entry.1 entry.2).length := by simp [entryLine]
      obtain ⟨further, rfl⟩ : ∃ further, steps = further + 1 := ⟨steps - 1, by omega⟩
      have fewer : (others.flatMap fun entry => entryLine entry.1 entry.2).length < further := by
        omega
      have rest := inductionHypothesis later fewer
      have reads := readStatement_entryLine entry.1 first
        (others.flatMap fun entry => entryLine entry.1 entry.2)
      have starts := skipTrivia_entryLine entry.1 entry.2
        (others.flatMap fun entry => entryLine entry.1 entry.2)
      obtain ⟨c, line, shape⟩ := List.exists_cons_of_length_pos nonempty
      rw [List.flatMap_cons, Document.readStatements, starts]
      rw [shape, List.cons_append] at reads ⊢
      simp [reads, rest]

/-- Every statement of a flat document puts an entry behind the ones before it. -/
theorem foldlM_step {front back : Table} (ascending : Dict.Ascending (front ++ back)) :
    (back.map fun entry => Statement.assign [entry.1] entry.2).foldlM Document.State.step
        { root :=
          { origin := .header
            entries := front.map fun entry => (entry.1, .value entry.2) } } =
      some { root :=
        { origin := .header
          entries := (front ++ back).map fun entry => (entry.1, .value entry.2) } } := by
  induction back generalizing front with
  | nil => simp
  | cons entry others inductionHypothesis =>
      have behind : ∀ held ∈ front.map fun entry => (entry.1, Entry.value entry.2),
          held.1 < entry.1 := by
        intro held member
        obtain ⟨old, oldMember, rfl⟩ := List.mem_map.mp member
        exact (List.pairwise_append.mp ascending).2.2 old oldMember entry List.mem_cons_self
      have grown : Dict.Ascending ((front ++ [entry]) ++ others) := by simpa using ascending
      have next := inductionHypothesis grown
      rw [List.map_cons, List.foldlM_cons]
      simp only [Document.State.step, Section.update, Section.assign, Section.putNew,
        List.getLast?_singleton, List.dropLast_singleton, List.isEmpty_nil, Bool.not_true,
        Dict.contains_eq_false behind, Dict.insert_eq_append behind]
      simpa using next

/-- The entries of a section that holds values only are the entries of its table. -/
theorem toValues_map_value (entries : List (String × Value)) :
    Entry.toValues (entries.map fun entry => (entry.1, .value entry.2)) = entries := by
  induction entries with
  | nil => rfl
  | cons entry others inductionHypothesis =>
      rw [List.map_cons, Entry.toValues, inductionHypothesis, Entry.toValue]

/-- No document that is written begins with a byte order mark. -/
theorem statements?_flatMap {entries : List (String × Value)}
    (scalar : ∀ entry ∈ entries, entry.2.Scalar) :
    Document.statements? (entries.flatMap fun entry => entryLine entry.1 entry.2) =
      some (entries.map fun entry => .assign [entry.1] entry.2) := by
  have reads := readStatements_flatMap scalar (Nat.lt_add_one _)
  cases entries with
  | nil => exact reads
  | cons entry others =>
      obtain ⟨c, later, shape, begins⟩ := exists_keyPartText_eq_cons entry.1
      have noMark : ¬c.toNat = 0xFEFF := by
        intro mark
        refine begins.of_ne (Char.ofNat 0xFEFF) (by decide) (by decide) (by decide) ?_
        rw [← mark, Char.ofNat_toNat]
      simp only [List.flatMap_cons, entryLine, shape, List.cons_append] at reads ⊢
      rw [Document.statements?, if_neg noMark]
      exact reads

/-- A flat table is read back from the document that writes it. -/
theorem parse?_toText {table : Table} (flat : Flat table) :
    parse? (Table.toText table) = some table := by
  have steps := @foldlM_step [] table flat.ascending
  rw [List.map_nil, List.nil_append] at steps
  rw [parse?, toText_eq_flatMap flat.scalar, statements?_flatMap flat.scalar, Option.bind_some,
    Document.table?]
  show ((table.map fun entry => Statement.assign [entry.1] entry.2).foldlM Document.State.step
    { root := { origin := .header, entries := [] } }).map _ = _
  rw [steps, Option.map_some, Section.toTable, toValues_map_value]

end Highlighter.Toml
