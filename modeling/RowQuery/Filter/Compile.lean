import RowQuery.Filter.Basic
import RowQuery.Filter.Alternatives
import RowQuery.Coercion
import RowQuery.Sql.Condition

/-!
# Filters as conditions

* `Filter.condition?` is the condition that a filter puts on the rows of a table. Alternatives
  without any segment put none, and a list without values cannot be met.
* `Filter.conditions` are the conditions of a list of filters.

Values compared with a column of truth values are stored first; the texts of alternatives are
compared as they are.
-/

namespace RowQuery.Filter

open Sql

/-- The condition of a filter. -/
def condition? (schema : Schema) (table : String) : Filter → Option Condition
  | equals column value => some (.compare ⟨column, .eq, schema.filterValue table column value⟩)
  | oneOf column values =>
    if values.isEmpty then some .never
    else some (.oneOf column (values.map (schema.filterValue table column)))
  | isNull column => some (.isNull column)
  | matchesPattern column pattern => some (.like column pattern)
  | notNull column => some (.notNull column)
  | differs column _ value => some (.compare ⟨column, .ne, schema.filterValue table column value⟩)
  | anyOf text =>
    match Alternatives.parse text with
    | [] => none
    | alternatives => some (.anyOf (alternatives.map fun alternative =>
        ⟨alternative.column, alternative.comparison, .string alternative.value⟩))

/-- The conditions of filters, in order. -/
def conditions (schema : Schema) (table : String) (filters : List Filter) : List Condition :=
  filters.filterMap (condition? schema table)

end RowQuery.Filter
