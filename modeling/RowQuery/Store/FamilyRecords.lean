import RowQuery.Kinship.Consultation
import RowQuery.Store.Database

/-!
# Families in a database

* `Database.familyGraph` is the family graph that two tables record.
* `Database.records` are the records that a search consults; without the tables its first question
  fails.
-/

namespace RowQuery.Database

/-- The name of the table that says who the parents of a family are. -/
def familiesTable : String := "families"

/-- The name of the table that says who its children are. -/
def childrenTable : String := "children"

/-- A cell as an identity. -/
def identity : Cell → Identity
  | .text s => some s
  | _ => none

/-- The parents of the families that a table records; someone who is both parents is so once. -/
def parentPairs (table : Table) : List (String × Identity) :=
  table.rows.flatMap fun row =>
    let family := identity (table.cell row "id")
    let parents := [identity (table.cell row "father_id"), identity (table.cell row "mother_id")]
    (parents.filterMap fun parent => parent).eraseDups.map fun parent => (parent, family)

/-- The children in the families that a table records. -/
def childPairs (table : Table) : List (String × Identity) :=
  table.rows.filterMap fun row =>
    (identity (table.cell row "family_id")).map fun family =>
      (family, identity (table.cell row "person_id"))

/-- The family graph of a database. -/
def familyGraph (db : Database) : FamilyGraph where
  parents := ((db.table? familiesTable).map parentPairs).getD []
  children := ((db.table? childrenTable).map childPairs).getD []

/-- The records of a database. -/
def records (db : Database) : Records where
  graph := db.familyGraph
  fault := match db.table? familiesTable with
    | some _ => none
    | none => some (1, (StoreFault.noTable familiesTable).fault)

end RowQuery.Database
