import RowQuery.Plan.Estimate
import RowQuery.Store.Table

/-!
# Indexes

An index keeps the rows of a table ordered by some columns and, where these agree, by the numbers of
the rows. The rows themselves are kept in the order of their numbers, which is the index without
columns.

* `Declaration.indexes` are the indexes of a table, the rows themselves first.
* `Index.places` is what an index is ordered by.
* `Index.repeats` estimates how many rows agree in the first places of an index.
-/

namespace RowQuery.Plan

/-- What an index may be ordered by. -/
inductive Place where
  | number
  | column (index : Nat)
deriving DecidableEq

/-- An index, given by the positions of its columns. -/
structure Index where
  key : List Nat
deriving DecidableEq

namespace Index

/-- The rows in the order of their numbers. -/
def rows : Index := ⟨[]⟩

/-- Whether the index is that of the rows themselves. -/
def isRows (index : Index) : Bool := index.key.isEmpty

/-- What the index is ordered by. -/
def places (index : Index) : List Place := index.key.map Place.column ++ [.number]

/-- The estimated number of rows of a table. -/
def allRows : Estimate := 200

/-- The numbers of rows that are taken to agree in one column of an index, in two, and so on. -/
def usualRepeats : List Estimate := [33, 32, 30, 28, 26]

/-- How many rows are estimated to agree in the first places; one if the places are the key. -/
def repeats (index : Index) (places : Nat) : Estimate :=
  if places = 0 then allRows
  else if index.key.length ≤ places then 0
  else usualRepeats.getD (places - 1) 23

/-- Whether the columns of the index have the columns needed. -/
def covers (index : Index) (needed : List Nat) : Bool := needed.all index.key.contains

/-- Whether a place is among those that the index has. -/
def has (index : Index) (place : Place) : Bool := index.places.contains place

end Index

end RowQuery.Plan

namespace RowQuery.Declaration

open Plan

/-- The column at a position or the number of the row, if a name stands for one of them. -/
def place? (table : Declaration) (name : String) : Option Place :=
  match table.source name with
  | .column index _ => some (.column index)
  | .rowNumber => some .number
  | .literal _ => none

/-- The indexes of a table: the rows themselves, and one for each set of columns whose values may
not repeat. -/
def indexes (table : Declaration) : List Index :=
  .rows :: table.uniqueKeys.map fun key => ⟨key.filterMap table.columnIndex?⟩

/-- The size that a column is taken to have. -/
def columnSize (column : Column) : Nat :=
  match column.type.storage with
  | .text => 5
  | .integer => 1

/-- The size of the column at a position. -/
def sizeAt (table : Declaration) (index : Nat) : Nat := table.columns[index]?.elim 0 columnSize

/-- The width of a row. -/
def width (table : Declaration) : Estimate :=
  .ofNat (4 * table.columns.foldl (fun total column => total + columnSize column) 1)

/-- The width of an entry of an index. -/
def indexWidth (table : Declaration) (index : Index) : Estimate :=
  if index.isRows then 3
  else .ofNat (4 * index.key.foldl (fun total place => total + table.sizeAt place) 1)

/-- Whether the column at a position may be null. -/
def mayBeNull (table : Declaration) (index : Nat) : Bool :=
  table.columns[index]?.any fun column => !column.notNull

/-- Whether there is at most one row for all values of the key of an index, null included. -/
def strict (table : Declaration) (index : Index) : Bool := !index.key.any table.mayBeNull

end RowQuery.Declaration
