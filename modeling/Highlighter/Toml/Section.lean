import Highlighter.Toml.Value

/-!
# Tables under construction

While a document is read, each table remembers how it came about, since that decides whether it
may be extended: a table with a header is closed to dotted keys, and a table made by dotted keys
can get no header.
-/

namespace Highlighter.Toml

/-- How a table came about. -/
inductive Origin where
  /-- By a header of its own, or as the root or an array element. -/
  | header
  /-- On the way to the table of some header. -/
  | implied
  /-- By a dotted key. -/
  | dotted
  deriving DecidableEq, Repr

/-- What a table under construction holds under a key. -/
inductive Entry where
  | value (value : Value)
  | table (origin : Origin) (entries : List (String × Entry))
  /-- An array of tables, of which the last can still be extended. -/
  | tables (earlier : List (List (String × Entry))) (last : List (String × Entry))

/-- A table under construction. -/
structure Section where
  origin : Origin
  entries : Dict Entry

namespace Section

/-- The table in which a document starts. -/
def root : Section :=
  { origin := .header, entries := [] }

/-- Change the table that a path leads to from a table. Tables that are missing on the way are
made, and of an array of tables the last one is entered. A path of dotted keys does not enter a
table that has a header. -/
def update (dotted : Bool) : (path : List String) → Section → (Section → Option Section) →
    Option Section
  | [], table, change => change table
  | key :: path, table, change =>
    let put (entry : Entry) : Section :=
      { table with entries := table.entries.insert key entry }
    match table.entries.find? key with
    | none => do
      let origin := if dotted then .dotted else .implied
      let inner ← update dotted path { origin, entries := [] } change
      return put (.table inner.origin inner.entries)
    | some (.table origin entries) =>
      if dotted && origin = .header then none
      else do
        let inner ← update dotted path { origin, entries } change
        return put (.table inner.origin inner.entries)
    | some (.tables earlier last) => do
      let inner ← update dotted path { origin := .header, entries := last } change
      return put (.tables earlier inner.entries)
    | some (.value _) => none

/-- Put a value under a key that is not in use. A key with dots before it belongs to a table
made by dotted keys, and a key without dots does not. -/
def putNew (key : String) (value : Value) (isDotted : Bool) (table : Section) :
    Option Section :=
  if (table.origin == .dotted) != isDotted then none
  else if table.entries.contains key then none
  else some { table with entries := table.entries.insert key (.value value) }

/-- Put a value under a dotted key of a table. -/
def assign (table : Section) (key : List String) (value : Value) : Option Section :=
  match key.getLast? with
  | none => none
  | some last =>
    let path := key.dropLast
    update true path table (putNew last value !path.isEmpty)

/-- Begin the table of a header, in the table that encloses it. A table that is only implied
so far is taken over with what it holds. -/
def beginTable (key : String) (table : Section) : Option Section :=
  match table.entries.find? key with
  | none => some { table with entries := table.entries.insert key (.table .header []) }
  | some (.table .implied entries) =>
    some { table with entries := table.entries.insert key (.table .header entries) }
  | some _ => none

/-- Begin the next element of an array of tables, in the table that encloses the array. -/
def beginElement (key : String) (table : Section) : Option Section :=
  match table.entries.find? key with
  | none => some { table with entries := table.entries.insert key (.tables [] []) }
  | some (.tables earlier last) =>
    some { table with entries := table.entries.insert key (.tables (earlier ++ [last]) []) }
  | some _ => none

end Section

mutual

/-- The value of an entry. -/
def Entry.toValue : Entry → Value
  | .value plain => plain
  | .table _ entries => .table (Entry.toValues entries)
  | .tables earlier last => .array (Entry.toTables earlier ++ [.table (Entry.toValues last)])

/-- The values of the entries of a table. -/
def Entry.toValues : List (String × Entry) → List (String × Value)
  | [] => []
  | (key, entry) :: entries => (key, entry.toValue) :: Entry.toValues entries

/-- The values of the elements of an array of tables. -/
def Entry.toTables : List (List (String × Entry)) → List Value
  | [] => []
  | entries :: others => .table (Entry.toValues entries) :: Entry.toTables others

end

/-- The finished table. -/
def Section.toTable (table : Section) : Table :=
  Entry.toValues table.entries

end Highlighter.Toml
