import RowQuery.Catalog.Table

/-!
# The tables

The tables of the store: people, their families and their records.

* `Catalog.tables` lists them in the order in which they are created.
* `Catalog.schema` holds their logical types.
-/

namespace RowQuery.Catalog

/-! ### Columns that recur -/

/-- The identifier of a row. -/
def id : Column := { name := "id", type := .text, primaryKey := true }

/-- A column of text. -/
def text (name : String) : Column := { name, type := .text }

/-- A column of text that may not be null. -/
def requiredText (name : String) : Column := { name, type := .text, notNull := true }

/-- A column of text that has a value from the beginning. -/
def presetText (name value : String) : Column :=
  { name, type := .text, notNull := true, default := some (.text value) }

/-- A column of integers. -/
def integer (name : String) : Column := { name, type := .integer }

/-- A column of truth values that has a value from the beginning. -/
def flag (name : String) (preset : Bool) : Column :=
  { name, type := .boolean, notNull := true, default := some (.integer (if preset then 1 else 0)) }

/-- A reference to a row without which this row can do. -/
def link (name table : String) : Column :=
  { name, type := .text, references := some (table, .setNull) }

/-- A reference to a row with which this row goes. -/
def owner (name table : String) : Column :=
  { name, type := .text, references := some (table, .cascade) }

/-- A reference to a row with which this row goes and which it must have. -/
def requiredOwner (name table : String) : Column :=
  { name, type := .text, notNull := true, references := some (table, .cascade) }

/-- The stamp of a row's creation. -/
def created : Column := text "created_at"

/-- The stamp of a row's last change. -/
def updated : Column := text stampColumn

/-! ### The tables -/

def profiles : Declaration where
  name := "profiles"
  columns := [id, { name := "email", type := .text, unique := true }, text "full_name",
    presetText "role" "viewer", created, updated]

def people : Declaration where
  name := "people"
  columns := [id, { name := "handle", type := .text, unique := true }, requiredText "display_name",
    integer "gender", integer "generation", integer "birth_year", integer "death_year",
    flag "is_living" true, flag "is_patrilineal" true, text "notes", created, updated]

def families : Declaration where
  name := "families"
  columns := [id, link "father_id" "people", link "mother_id" "people", text "marriage_date",
    text "notes", created, updated]

def children : Declaration where
  name := "children"
  columns := [id, requiredOwner "family_id" "families", requiredOwner "person_id" "people",
    { name := "sort_order", type := .integer, default := some (.integer 0) }, created]
  uniqueTogether := [["family_id", "person_id"]]

def events : Declaration where
  name := "events"
  columns := [id, requiredText "title", text "event_date", owner "person_id" "people",
    flag "recurring" false, created]

def media : Declaration where
  name := "media"
  columns := [id, owner "person_id" "people", requiredText "url", text "caption",
    flag "is_primary" false, created]

def achievements : Declaration where
  name := "achievements"
  columns := [id, owner "person_id" "people", requiredText "title", text "description",
    integer "year", flag "is_featured" false, created, updated]

def clanArticles : Declaration where
  name := "clan_articles"
  columns := [id, requiredText "title", text "content", text "category", flag "is_featured" false,
    created, updated]

def contributions : Declaration where
  name := "contributions"
  columns := [id, text "author_id", text "target_person", requiredText "change_type",
    { name := "changes", type := .document }, presetText "status" "pending", created]

def pools : Declaration where
  name := "cau_duong_pools"
  columns := [id, requiredText "name", text "description", flag "is_active" true, created, updated]

def assignments : Declaration where
  name := "cau_duong_assignments"
  columns := [id, requiredOwner "pool_id" "cau_duong_pools", requiredOwner "person_id" "people",
    { name := "year", type := .integer, notNull := true }, presetText "status" "scheduled",
    created, updated]
  uniqueTogether := [["pool_id", "year"]]

/-- All tables, in the order in which they are created. -/
def tables : List Declaration := [profiles, people, families, children, events, media, achievements,
  clanArticles, contributions, pools, assignments]

/-- The logical types of the tables that have some. -/
def schema : Schema :=
  ⟨(tables.map fun table => (table.name, table.traits)).filter (·.2 ≠ .plain)⟩

end RowQuery.Catalog
