import RowQuery.Text.Blank

/-!
# Names in statements

A name of a table or a column is written between double quotes, and a double quote in it twice. So
every text is a name, whatever it holds. A query asks for columns by one text, names separated by
commas.

* `Sql.quoteName` writes a name.
* `Projection.ofColumns` reads the text that asks for columns. Blanks around a name do not count, an
  empty name is none, and a star stands for all columns; so does a text that is empty or absent.
* `Projection.chars` writes the columns in a statement.
-/

namespace RowQuery.Sql

/-- The characters of a name between its quotes. -/
def escapeName (name : List Char) : List Char :=
  name.flatMap fun c => if c = '"' then ['"', '"'] else [c]

/-- A name with its quotes. -/
def nameChars (name : String) : List Char := '"' :: escapeName name.toList ++ ['"']

/-- A name as it is written in a statement. -/
def quoteName (name : String) : String := String.ofList (nameChars name)

/-! ### Columns asked for -/

/-- One entry of a list of columns. -/
inductive Selection where
  | all
  | column (name : String)
deriving DecidableEq

/-- The columns a statement yields. -/
abbrev Projection := List Selection

/-- The entry that a name between commas stands for. -/
def Selection.ofName (name : List Char) : Selection :=
  if name = ['*'] then .all else .column (String.ofList name)

/-- The text of an entry. -/
def Selection.chars : Selection → List Char
  | .all => ['*']
  | .column name => nameChars name

namespace Projection

/-- The columns that a text asks for. -/
def ofText (columns : String) : Projection :=
  (((Text.splitOn ',' columns.toList).map Text.trim).filter (· ≠ [])).map Selection.ofName

/-- The columns that a query asks for. -/
def ofColumns : Option String → Projection
  | none => [.all]
  | some columns => if columns = "" then [.all] else ofText columns

/-- The columns as they are written in a statement. -/
def chars (projection : Projection) : List Char :=
  Text.joinWith [',', ' '] (projection.map Selection.chars)

end Projection

end RowQuery.Sql
