import Highlighter.Theme.Table

/-!
# The style table

Every kind stands in the style table once, so a kind of the table finds its own row
(`Theme.directive?_of_mem`).
-/

namespace Highlighter

namespace StyleTable

/-- The kinds of the table in order. -/
def kinds : List String :=
  rows.map (·.kind)

/-- No kind stands in the table twice. -/
theorem nodup_kinds : kinds.Nodup := by decide

/-- A kind of the table has the row that it was put in with. -/
theorem find?_of_mem {row : StyleRow} (member : row ∈ rows) : find? row.kind = some row := by
  obtain ⟨front, back, split⟩ := List.append_of_mem member
  have distinct := nodup_kinds
  rw [kinds, split, List.map_append, List.map_cons, List.nodup_append] at distinct
  rw [find?, split, List.find?_eq_some_iff_append]
  refine ⟨by simp, front, back, rfl, ?_⟩
  intro other early
  have different := distinct.2.2 other.kind (List.mem_map_of_mem early) row.kind
    List.mem_cons_self
  simpa using different

end StyleTable

/-- A kind of the style table has the directive of its row. -/
theorem Theme.directive?_of_mem (theme : Theme) {row : StyleRow}
    (member : row ∈ StyleTable.rows) :
    theme.directive? ⟨row.kind⟩ = some (row.directive theme) := by
  rw [directive?, resolve, StyleTable.find?_of_mem member]
  rfl

end Highlighter
