import RowQuery.Json.Basic

/-!
# Logical types

The store keeps integers and text only. Which of its columns mean a truth value or a document, and
which tables carry a stamp of their last change, is told by a schema.

* `Schema.traits` looks a table up; a table that is not known has no special columns.
* `Schema.build` puts a schema together from three listings.
-/

namespace RowQuery

/-- What is special about a table. -/
structure Traits where
  /-- Columns that hold truth values, stored as 0 and 1. -/
  booleans : List String
  /-- Columns that hold documents, stored as text. -/
  documents : List String
  /-- Whether the table has a stamp of its last change. -/
  stamped : Bool
deriving DecidableEq

/-- The column that holds the stamp of a row's last change. -/
def stampColumn : String := "updated_at"

/-- Nothing is special. -/
def Traits.plain : Traits := ⟨[], [], false⟩

/-- The traits of the tables that have some. -/
structure Schema where
  tables : List (String × Traits)
deriving DecidableEq

namespace Schema

/-- The traits of a table. -/
def traits (schema : Schema) (table : String) : Traits :=
  ((schema.tables.find? (·.1 = table)).map (·.2)).getD .plain

/-- Whether the schema lists a table. -/
def knows (schema : Schema) (table : String) : Bool := schema.tables.any (·.1 = table)

/-- Whether a column holds truth values. -/
def isBoolean (schema : Schema) (table column : String) : Bool :=
  (schema.traits table).booleans.contains column

/-- Whether a column holds documents. -/
def isDocument (schema : Schema) (table column : String) : Bool :=
  (schema.traits table).documents.contains column

/-- The schema of the tables that three listings mention: the boolean columns by table, the
document columns by table, and the stamped tables. -/
def build (booleans documents : List (String × List String)) (stamped : List String) : Schema :=
  let names := (booleans.map (·.1) ++ documents.map (·.1) ++ stamped).eraseDups
  let listed (listing : List (String × List String)) (name : String) :=
    ((listing.find? (·.1 = name)).map (·.2)).getD []
  ⟨names.map fun name =>
    (name, ⟨listed booleans name, listed documents name, stamped.contains name⟩)⟩

end Schema

end RowQuery
