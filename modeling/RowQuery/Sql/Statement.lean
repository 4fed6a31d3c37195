import RowQuery.Sql.Condition
import RowQuery.Sql.Name
import RowQuery.Request.Basic

/-!
# Statements

The statements that requests are turned into. A statement holds its values; its text has a
placeholder for each.

* `Statement.text` is the text of a statement, `Statement.params` its parameters in the order of
  the placeholders.
-/

namespace RowQuery.Sql

/-- A statement for the engine. -/
inductive Statement where
  | select (projection : Projection) (table : String) (conditions : List Condition)
      (order : List OrderTerm) (limit : Option Int)
  | insert (table : String) (values : Fields)
  | update (table : String) (values : Fields) (conditions : List Condition)
  | delete (table : String) (conditions : List Condition)
deriving DecidableEq

/-- The text of an order term. -/
def orderChars (term : OrderTerm) : List Char :=
  nameChars term.column ++ (if term.ascending then " ASC" else " DESC").toList

/-- A text with a blank before it, unless it is empty. -/
def clause (chars : List Char) : List Char := if chars.isEmpty then [] else ' ' :: chars

namespace Statement

/-- The text of a statement, as characters. -/
def chars : Statement → List Char
  | select projection table conditions order limit =>
    "SELECT ".toList ++ projection.chars ++ " FROM ".toList ++ nameChars table ++
      clause (whereChars conditions) ++
      (if order.isEmpty then []
        else " ORDER BY ".toList ++ Text.joinWith [',', ' '] (order.map orderChars)) ++
      (if limit.isNone then [] else " LIMIT ?".toList)
  | insert table values =>
    "INSERT INTO ".toList ++ nameChars table ++ " (".toList ++
      Text.joinWith [',', ' '] (values.map fun field => nameChars field.1) ++
      ") VALUES (".toList ++ Text.joinWith [',', ' '] (values.map fun _ => ['?']) ++ [')']
  | update table values conditions =>
    "UPDATE ".toList ++ nameChars table ++ " SET ".toList ++
      Text.joinWith [',', ' '] (values.map fun field => nameChars field.1 ++ " = ?".toList) ++
      clause (whereChars conditions)
  | delete table conditions =>
    "DELETE FROM ".toList ++ nameChars table ++ clause (whereChars conditions)

/-- The text of a statement. -/
def text (statement : Statement) : String := String.ofList statement.chars

/-- The parameters of a statement. -/
def params : Statement → List Json
  | select _ _ conditions _ limit => whereParams conditions ++ limit.toList.map Json.integer
  | insert _ values => values.map (·.2)
  | update _ values conditions => values.map (·.2) ++ whereParams conditions
  | delete _ conditions => whereParams conditions

end Statement

end RowQuery.Sql
