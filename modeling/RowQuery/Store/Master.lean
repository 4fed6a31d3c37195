import RowQuery.Store.Database

/-!
# Tables that describe a database

Besides its own tables a database has some that can only be read. They tell what tables and indexes
there are, and how the connection is set up.

* `Database.master` lists the tables and the indexes of a database.
* `Database.readOnly?` finds such a table by its name.

## Design notes

These are the master tables and the settings that are told by one value. The store has further
tables of this kind, which are left out: the parts of a document (`json_each` and `json_tree`) and
the settings that are told by a list, such as `pragma_table_list`. Their names count as those of no
table.
-/

namespace RowQuery

namespace Catalog

/-- What the master table is declared to be. -/
def master (name : String) : Declaration where
  name
  columns := [text "type", text "name", text "tbl_name", integer "rootpage", text "sql"]

/-- What the table of a setting is declared to be, given the name of its value and the value. -/
def setting (name value : String) (cell : Cell) : Declaration where
  name
  columns := [match cell with
    | .text _ => text value
    | _ => integer value]

end Catalog

namespace Declaration

/-- The statement of a declaration as the store keeps it, one line for each part. -/
def kept (table : Declaration) : String :=
  let line := "\n" ++ String.ofList (List.replicate 12 ' ')
  let parts := table.columns.map Column.text ++
    table.uniqueTogether.map fun columns => "UNIQUE (" ++ Text.join ", " columns ++ ")"
  "CREATE TABLE " ++ table.name ++ " (" ++ line ++ Text.join ("," ++ line) parts ++
    "\n" ++ String.ofList (List.replicate 8 ' ') ++ ")"

/-- The names of the indexes of a table, that of the key declared first in front. -/
def indexNames (table : Declaration) : List String :=
  table.uniqueKeys.mapIdx fun i _ => "sqlite_autoindex_" ++ table.name ++ "_" ++ toString (i + 1)

end Declaration

namespace Database

/-- The pages on which tables and indexes begin, in the order in which they are created. The first
page, and the pages left out, are those of the master table itself. -/
def rootPages : List Nat :=
  ((List.range 28).map (· + 2)).filter fun page => page ≠ 25 && page ≠ 28

/-- The cells of the master table that describe a table and its indexes, without their pages. -/
def masterEntries (table : Declaration) : List (Cell × Cell × Cell × Cell) :=
  (.text "table", .text table.name, .text table.name, .text table.kept) ::
    table.indexNames.map fun name => (.text "index", .text name, .text table.name, .null)

/-- The master table: every table and, behind it, its indexes. -/
def master (db : Database) : Table where
  declaration := Catalog.master "sqlite_master"
  rows :=
    ((db.tables.flatMap fun table => masterEntries table.declaration).zip rootPages).mapIdx
      fun i ((type, name, table, text), page) =>
        ⟨(i + 1 : Nat), [type, name, table, .integer page, text]⟩

/-- The master table of what is kept for one connection only; there is nothing. -/
def temporaryMaster : Table := .empty (Catalog.master "sqlite_temp_master")

/-- The settings of a connection that can be read like a table, each with the name of its value.
All but the first are as they are without anyone having set them. -/
def settings (enforced : Bool) : List (String × String × Cell) := [
  ("foreign_keys", "foreign_keys", .integer (if enforced then 1 else 0)),
  ("analysis_limit", "analysis_limit", .integer 0),
  ("application_id", "application_id", .integer 0),
  ("auto_vacuum", "auto_vacuum", .integer 0),
  ("automatic_index", "automatic_index", .integer 1),
  ("busy_timeout", "timeout", .integer 5000),
  ("cache_size", "cache_size", .integer (-2000)),
  ("defer_foreign_keys", "defer_foreign_keys", .integer 0),
  ("encoding", "encoding", .text "UTF-8"),
  ("freelist_count", "freelist_count", .integer 0),
  ("ignore_check_constraints", "ignore_check_constraints", .integer 0),
  ("integrity_check", "integrity_check", .text "ok"),
  ("legacy_alter_table", "legacy_alter_table", .integer 0),
  ("locking_mode", "locking_mode", .text "normal"),
  ("page_size", "page_size", .integer 4096),
  ("query_only", "query_only", .integer 0),
  ("quick_check", "quick_check", .text "ok"),
  ("read_uncommitted", "read_uncommitted", .integer 0),
  ("recursive_triggers", "recursive_triggers", .integer 0),
  ("reverse_unordered_selects", "reverse_unordered_selects", .integer 0),
  ("synchronous", "synchronous", .integer 2),
  ("temp_store", "temp_store", .integer 0),
  ("threads", "threads", .integer 0),
  ("trusted_schema", "trusted_schema", .integer 1),
  ("user_version", "user_version", .integer 0),
  ("writable_schema", "writable_schema", .integer 0)]

/-- The table of a setting, by its name. -/
def setting? (enforced : Bool) (name : String) : Option Table :=
  (settings enforced).findSome? fun (setting, value, cell) =>
    let full := "pragma_" ++ setting
    if sameName name full then some ⟨Catalog.setting full value cell, [⟨1, [cell]⟩]⟩ else none

/-- The table with a name that can only be read. -/
def readOnly? (db : Database) (enforced : Bool) (name : String) : Option Table :=
  if ["sqlite_master", "sqlite_schema"].any (sameName name) then some db.master
  else if ["sqlite_temp_master", "sqlite_temp_schema"].any (sameName name) then
    some temporaryMaster
  else setting? enforced name

end Database

end RowQuery
