import RowQuery.Sql.Name
import RowQuery.Filter.Comparison
import RowQuery.Json.Basic

/-!
# Conditions

The conditions that a statement puts on rows. A condition holds its values; its text has a
placeholder for each of them, and the values go beside the text as parameters, in order.

* `Condition.chars` and `Condition.params` are the two parts of a condition.
* `whereChars` joins conditions, all of which have to hold.
-/

namespace RowQuery.Sql

/-- A column compared with a value. -/
structure Term where
  column : String
  comparison : Comparison
  value : Json
deriving DecidableEq

/-- A condition on rows. -/
inductive Condition where
  | compare (term : Term)
  | oneOf (column : String) (values : List Json)
  | never
  | isNull (column : String)
  | notNull (column : String)
  | like (column pattern : String)
  | anyOf (terms : List Term)
deriving DecidableEq

/-- The function that lower-cases text inside statements. -/
def lowerFunction : String := "unicode_lower"

/-- The text of a comparison. -/
def Term.chars (term : Term) : List Char :=
  nameChars term.column ++ ' ' :: term.comparison.sign.toList ++ [' ', '?']

namespace Condition

/-- The text of a condition. -/
def chars : Condition → List Char
  | compare term => term.chars
  | oneOf column values =>
    nameChars column ++ " IN (".toList ++
      Text.joinWith [',', ' '] (values.map fun _ => ['?']) ++ [')']
  | never => "1 = 0".toList
  | isNull column => nameChars column ++ " IS NULL".toList
  | notNull column => nameChars column ++ " IS NOT NULL".toList
  | like column _ =>
    lowerFunction.toList ++ '(' :: nameChars column ++ ") LIKE ".toList ++
      lowerFunction.toList ++ "(?)".toList
  | anyOf terms => '(' :: Text.joinWith " OR ".toList (terms.map Term.chars) ++ [')']

/-- The values of a condition. -/
def params : Condition → List Json
  | compare term => [term.value]
  | oneOf _ values => values
  | never | isNull _ | notNull _ => []
  | like _ pattern => [.string pattern]
  | anyOf terms => terms.map (·.value)

end Condition

/-- The text that restricts a statement to the rows where all conditions hold; empty without any. -/
def whereChars (conditions : List Condition) : List Char :=
  if conditions.isEmpty then []
  else "WHERE ".toList ++ Text.joinWith " AND ".toList (conditions.map Condition.chars)

/-- The values of all conditions. -/
def whereParams (conditions : List Condition) : List Json := conditions.flatMap Condition.params

end RowQuery.Sql
