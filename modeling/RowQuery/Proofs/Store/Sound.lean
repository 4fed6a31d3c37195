import RowQuery.Proofs.Store.Success
import Mathlib.Data.List.Forall2

/-!
# Sound databases

What holds of a database whatever statements have been run on it with references enforced.

* `Table.Sound` — the rows are in the order of their numbers, and no key repeats.
* `Database.Sound` — the tables are the declared ones and sound, and every reference leads to a row.
* `Database.Obeys` — every cell is as a rule says for its column. Which rules are handed on is said
  by `Rule.Natural` and `Assignments.Heed`.
* `Table.mem_insertRow` and `Table.mem_replaceRow` tell what rows a changed table has.

## Design notes

Soundness says nothing of single cells. A statement about cells is a rule for columns, so that it is
proved of an insert, an update and a removal once, and not once for each such statement.
-/

namespace RowQuery

/-! ### Declarations -/

namespace Declaration

/-- Whether a table has a reference to the table of a name. -/
def refersTo (declaration : Declaration) (name : String) : Bool :=
  declaration.columns.any fun column => column.references.any (·.1 = name)

theorem refersTo_of_mem {declaration : Declaration} {column : Column} {target : String}
    {action : DeleteAction} (mem : column ∈ declaration.columns)
    (refers : column.references = some (target, action)) : declaration.refersTo target = true := by
  refine List.any_eq_true.mpr ⟨column, mem, ?_⟩
  rw [refers]
  exact decide_eq_true rfl

end Declaration

namespace Catalog

/-- The first column of every table is its identifier. -/
theorem head?_columns : ∀ declaration ∈ tables, declaration.columns.head? = some id := by
  decide +kernel

theorem exists_columns {declaration : Declaration} (declared : declaration ∈ tables) :
    ∃ rest, declaration.columns = id :: rest := by
  have first := head?_columns _ declared
  cases listed : declaration.columns with
  | nil =>
    rw [listed] at first
    cases first
  | cons column rest =>
    rw [listed] at first
    cases first
    exact ⟨rest, rfl⟩

theorem id_mem {declaration : Declaration} (declared : declaration ∈ tables) :
    id ∈ declaration.columns := by
  obtain ⟨rest, columns⟩ := exists_columns declared
  exact columns ▸ List.mem_cons_self

/-- Identifiers do not repeat. -/
theorem id_unique : ∀ declaration ∈ tables, ["id"] ∈ declaration.uniqueKeys := by
  decide +kernel

/-- Tables differ in their names, letter case aside. -/
theorem names_distinct : tables.Pairwise fun a b => sameName a.name b.name = false := by
  decide +kernel

/-- The columns of a table differ in their names, letter case aside. -/
theorem columns_distinct : ∀ declaration ∈ tables,
    declaration.columns.Pairwise fun a b => sameName a.name b.name = false := by
  decide +kernel

/-- A table refers neither to itself nor to a table after it. -/
theorem references_back : (∀ declaration ∈ tables, declaration.refersTo declaration.name = false) ∧
    tables.Pairwise fun a b => a.refersTo b.name = false := by
  decide +kernel

end Catalog

theorem sameName_self (name : String) : sameName name name = true := by simp [sameName]

/-! ### Sound tables -/

namespace Table

variable {table : Table} {row other : Row}

/-- The identifier stands first. -/
theorem index_id (declared : table.declaration ∈ Catalog.tables) : table.index "id" = 0 := by
  obtain ⟨rest, columns⟩ := Catalog.exists_columns declared
  rw [index, Declaration.columnIndex?, columns]
  rfl

/-- Two rows repeat no key if they are different; a row that is compared with itself does not
matter. -/
structure Sound (table : Table) : Prop where
  numbered : table.rows.Pairwise fun a b => a.number < b.number
  distinct : ∀ key ∈ table.declaration.uniqueKeys,
    table.rows.Pairwise fun a b => table.agree key a b = false

theorem agree_iff {key : List String} : table.agree key row other = true ↔
    ∀ name ∈ key, table.cell row name ≠ .null ∧ table.cell row name = table.cell other name := by
  simp [agree, Cell.isNull]

theorem agree_comm (table : Table) (key : List String) (a b : Row) :
    table.agree key a b = table.agree key b a := by
  have swap (a b : Row) (h : table.agree key a b = true) : table.agree key b a = true := by
    rw [agree_iff] at h ⊢
    intro name mem
    obtain ⟨filled, same⟩ := h name mem
    exact ⟨same ▸ filled, same.symm⟩
  exact Bool.eq_iff_iff.mpr ⟨swap a b, swap b a⟩

/-- All that is looked at when a row is added. -/
theorem checkRow_ok {u : Unit} (h : table.checkRow row = .ok u) :
    (∀ other ∈ table.rows, other.number ≠ row.number) ∧
      ∀ key ∈ table.declaration.uniqueKeys, ∀ other ∈ table.rows,
        table.agree key row other = false := by
  rw [checkRow] at h
  split at h
  · cases h
  · split at h
    · cases h
    · next fresh =>
      split at h
      · cases h
      · next free =>
        refine ⟨fun other mem same => fresh ?_, fun key mem other member => ?_⟩
        · exact List.any_eq_true.mpr ⟨other, mem, decide_eq_true same⟩
        · have none := List.find?_eq_none.mp free key mem
          exact Bool.eq_false_iff.mpr fun agreed =>
            none (List.any_eq_true.mpr ⟨other, member, agreed⟩)

/-! ### A further row -/

theorem insertOrdered_perm (row : Row) (rows : List Row) :
    (insertOrdered row rows).Perm (row :: rows) := by
  induction rows with
  | nil => exact .refl _
  | cons other rest ih =>
    rw [insertOrdered]
    split
    · exact .refl _
    · exact (ih.cons other).trans (.swap row other rest)

theorem mem_insertRow : other ∈ (table.insertRow row).rows ↔ other = row ∨ other ∈ table.rows := by
  show other ∈ insertOrdered row table.rows ↔ _
  rw [(insertOrdered_perm row table.rows).mem_iff, List.mem_cons]

theorem pairwise_insertOrdered {rows : List Row}
    (numbered : rows.Pairwise fun a b => a.number < b.number)
    (fresh : ∀ other ∈ rows, other.number ≠ row.number) :
    (insertOrdered row rows).Pairwise fun a b => a.number < b.number := by
  induction rows with
  | nil => simp [insertOrdered]
  | cons first rest ih =>
    obtain ⟨before, ordered⟩ := List.pairwise_cons.mp numbered
    rw [insertOrdered]
    split
    · next lt =>
      refine List.pairwise_cons.mpr ⟨fun other mem => ?_, numbered⟩
      rcases List.mem_cons.mp mem with rfl | mem
      · exact lt
      · have := before other mem
        omega
    · next ge =>
      have differ := fresh first List.mem_cons_self
      have fresh' : ∀ other ∈ rest, other.number ≠ row.number := fun other mem =>
        fresh other (List.mem_cons_of_mem _ mem)
      refine List.pairwise_cons.mpr ⟨fun other mem => ?_, ih ordered fresh'⟩
      rcases List.mem_cons.mp ((insertOrdered_perm row rest).mem_iff.mp mem) with rfl | mem
      · omega
      · exact before other mem

theorem Sound.insertRow {u : Unit} (sound : table.Sound) (checked : table.checkRow row = .ok u) :
    (table.insertRow row).Sound := by
  obtain ⟨fresh, free⟩ := checkRow_ok checked
  refine ⟨pairwise_insertOrdered sound.numbered fresh, fun key mem => ?_⟩
  have symmetric : ∀ {a b : Row}, table.agree key a b = false → table.agree key b a = false :=
    fun h => (table.agree_comm key _ _).trans h
  show (insertOrdered row table.rows).Pairwise fun a b => table.agree key a b = false
  rw [(insertOrdered_perm row table.rows).pairwise_iff symmetric]
  exact List.pairwise_cons.mpr ⟨free key mem, sound.distinct key mem⟩

/-! ### A row replaced -/

theorem Sound.eraseRow (sound : table.Sound) (number : Int) : (table.eraseRow number).Sound :=
  ⟨sound.numbered.filter _, fun key mem => (sound.distinct key mem).filter _⟩

theorem mem_replaceRow {number : Int} (h : other ∈ (table.replaceRow number row).rows) :
    other = row ∨ other ∈ table.rows := by
  rw [replaceRow] at h
  split at h
  · obtain ⟨old, mem, rfl⟩ := List.mem_map.mp h
    split
    · exact .inl rfl
    · exact .inr mem
  · rcases mem_insertRow.mp h with rfl | mem
    · exact .inl rfl
    · exact .inr (List.mem_of_mem_filter mem)

theorem Sound.replaceRow {u : Unit} {number : Int} (sound : table.Sound)
    (checked : (table.eraseRow number).checkRow row = .ok u) :
    (table.replaceRow number row).Sound := by
  rw [Table.replaceRow]
  split
  · next same =>
    obtain ⟨-, free⟩ := checkRow_ok checked
    refine ⟨?_, fun key mem => ?_⟩
    · refine List.pairwise_map.mpr (sound.numbered.imp fun {a b} lt => ?_)
      -- No number changes, since the new row has that of the old one.
      have kept (other : Row) :
          (if other.number = number then row else other).number = other.number := by
        split
        · next here => rw [same, here]
        · rfl
      rw [kept, kept]
      exact lt
    · have rest {other : Row} (mem : other ∈ table.rows) (differs : other.number ≠ number) :
          other ∈ (table.eraseRow number).rows :=
        List.mem_filter.mpr ⟨mem, decide_eq_true differs⟩
      have pairs := sound.numbered.and (sound.distinct key mem)
      refine List.pairwise_map.mpr (pairs.imp_of_mem fun {a b} ha hb pair => ?_)
      obtain ⟨lt, apart⟩ := pair
      show table.agree key _ _ = false
      by_cases left : a.number = number
      · have right : b.number ≠ number := by omega
        rw [if_pos left, if_neg right]
        exact free key mem b (rest hb right)
      · rw [if_neg left]
        split
        · rw [agree_comm]
          exact free key mem a (rest ha left)
        · exact apart
  · exact (sound.eraseRow number).insertRow checked

/-! ### Rows assigned to -/

theorem Sound.update {assignments : Assignments} {rows : List Row} {changed : Table}
    (sound : table.Sound) (h : table.update assignments rows = .ok changed) : changed.Sound := by
  refine update_induction (motive := fun _ between => between.Sound) sound ?_ h
  intro row rest between next held replaced
  obtain ⟨new, -, checked, rfl⟩ := updateRow_ok replaced
  exact held.replaceRow checked

end Table

/-! ### Rules for cells -/

/-- A rule says of a column which cells may stand in it. -/
abbrev Rule := Column → Cell → Prop

/-- Every cell of a row is as a rule says for its column. A row has a cell for each column. -/
def Row.Obeys (rule : Rule) (declaration : Declaration) (row : Row) : Prop :=
  List.Forall₂ rule declaration.columns row.cells

/-- Every row of a table obeys a rule. -/
def Table.Obeys (rule : Rule) (table : Table) : Prop :=
  ∀ row ∈ table.rows, row.Obeys rule table.declaration

/-- An emptied reference obeys the rule. -/
abbrev Rule.Emptied (rule : Rule) : Prop :=
  ∀ declaration ∈ Catalog.tables, ∀ column ∈ declaration.columns,
    column.references.isSome → rule column .null

/-- A rule that no declaration breaks by itself: the values that columns take when they are left out
obey it, and so does an emptied reference. -/
structure Rule.Natural (rule : Rule) : Prop where
  preset : ∀ declaration ∈ Catalog.tables, ∀ column ∈ declaration.columns,
    rule column ((Table.defaultCell column.default).keep column.type.storage)
  emptied : rule.Emptied

/-- Of the values that are assigned to the columns of a table, those that count obey a rule as they
are kept. Which value counts where there are several is left open. -/
def Assignments.Heed (rule : Rule) (declaration : Declaration) (counts : List Cell → Option Cell)
    (assignments : Assignments) : Prop :=
  ∀ column ∈ declaration.columns, ∀ value ∈ counts (assignments.valuesFor column.name),
    rule column (value.keep column.type.storage)

/-- A column of text holds texts and nulls only, since numbers are kept as texts there. -/
def Column.Admits : Rule := fun column cell =>
  column.type.storage = .text → cell = .null ∨ ∃ s, cell = .text s

theorem Column.admits_keep (column : Column) (cell : Cell) :
    column.Admits (cell.keep column.type.storage) := by
  intro text
  rw [text]
  cases cell with
  | null => exact .inl rfl
  | integer n => exact .inr ⟨_, rfl⟩
  | real x => exact .inr ⟨_, rfl⟩
  | text s => exact .inr ⟨s, rfl⟩

theorem Rule.natural_admits : Rule.Natural Column.Admits :=
  ⟨fun _ _ column _ => column.admits_keep _, fun _ _ _ _ _ _ => .inl rfl⟩

namespace Row.Obeys

variable {rule : Rule} {declaration : Declaration}

theorem length_eq {row : Row} (obeys : row.Obeys rule declaration) :
    row.cells.length = declaration.columns.length := (List.Forall₂.length_eq obeys).symm

/-- What a column holds obeys the rule. -/
theorem cell {row : Row} {column : Column} {index : Nat} (obeys : row.Obeys rule declaration)
    (here : declaration.columns[index]? = some column) : rule column (row.cell index) := by
  obtain ⟨lt, rfl⟩ := List.getElem?_eq_some_iff.mp here
  have lt' : index < row.cells.length := obeys.length_eq ▸ lt
  rw [Row.cell, List.getD_eq_getElem?_getD, List.getElem?_eq_getElem lt']
  exact List.Forall₂.get obeys lt lt'

/-- A row whose cells are changed column by column. -/
theorem map_zip {columns : List Column} {cells : List Cell} {change : Column × Cell → Cell}
    (obeys : List.Forall₂ rule columns cells)
    (changes : ∀ column ∈ columns, ∀ cell, rule column cell → rule column (change (column, cell))) :
    List.Forall₂ rule columns ((columns.zip cells).map change) := by
  induction obeys with
  | nil => exact .nil
  | @cons column cell columns cells first rest ih =>
    refine .cons (changes column List.mem_cons_self cell first) (ih ?_)
    exact fun other mem => changes other (List.mem_cons_of_mem _ mem)

/-- The cells of a new row. -/
theorem new {assignments : Assignments} (natural : rule.Natural)
    (declared : declaration ∈ Catalog.tables)
    (heed : assignments.Heed rule declaration List.head?) :
    List.Forall₂ rule declaration.columns (Table.newCells declaration assignments) := by
  rw [Table.newCells, List.forall₂_map_right_iff, List.forall₂_same]
  intro column mem
  rw [List.headD_eq_head?_getD]
  cases given : (assignments.valuesFor column.name).head? with
  | none => exact natural.preset declaration declared column mem
  | some value => exact heed column mem value given

/-- The cells of a row that is assigned to. -/
theorem assigned {assignments : Assignments} {row : Row} (obeys : row.Obeys rule declaration)
    (heed : assignments.Heed rule declaration List.getLast?) :
    List.Forall₂ rule declaration.columns
      (Table.assignedCells declaration assignments row.cells) := by
  refine map_zip obeys fun column mem cell held => ?_
  dsimp only
  cases given : (assignments.valuesFor column.name).getLast? with
  | none => exact held
  | some value => exact heed column mem value given

end Row.Obeys

namespace Table

variable {rule : Rule} {table : Table}

/-- The cells of a row that is assigned to. -/
theorem assignRow_ok {declaration : Declaration} {assignments : Assignments} {row new : Row}
    (h : assignRow declaration assignments row = .ok new) :
    new.cells = assignedCells declaration assignments row.cells := by
  rw [assignRow] at h
  split at h
  · next cell _ =>
    cases read : rowNumber cell with
    | error fault =>
      rw [read] at h
      cases h
    | ok number =>
      rw [read] at h
      cases h
      rfl
  · cases h
    rfl

/-- The cells and the check of a row that is added. -/
theorem newRow_ok {assignments : Assignments} {row : Row}
    (h : table.newRow assignments = .ok row) :
    row.cells = newCells table.declaration assignments ∧ table.checkRow row = .ok () := by
  rw [newRow] at h
  cases numbered : table.newNumber assignments with
  | error fault =>
    rw [numbered] at h
    cases h
  | ok number =>
    rw [numbered] at h
    change (table.checkRow _ >>= _) = _ at h
    cases checked : table.checkRow ⟨number, newCells table.declaration assignments⟩ with
    | error fault =>
      rw [checked] at h
      cases h
    | ok u =>
      rw [checked] at h
      cases h
      exact ⟨rfl, checked⟩

theorem Obeys.insertRow {row : Row} (obeys : table.Obeys rule)
    (new : row.Obeys rule table.declaration) : (table.insertRow row).Obeys rule := by
  intro other mem
  rcases mem_insertRow.mp mem with rfl | mem
  · exact new
  · exact obeys other mem

theorem Obeys.update {assignments : Assignments} {rows : List Row} {changed : Table}
    (obeys : table.Obeys rule) (subset : rows ⊆ table.rows)
    (heed : assignments.Heed rule table.declaration List.getLast?)
    (h : table.update assignments rows = .ok changed) : changed.Obeys rule := by
  -- The rows that are assigned to are those of the table as it was before.
  let motive (rest : List Row) (between : Table) : Prop :=
    rest ⊆ table.rows ∧ between.declaration = table.declaration ∧ between.Obeys rule
  have kept : motive [] changed := by
    refine update_induction ⟨subset, rfl, obeys⟩ ?_ h
    rintro row rest between next ⟨subset, declared, held⟩ replaced
    obtain ⟨mem, subset⟩ := List.cons_subset.mp subset
    obtain ⟨new, assigned, -, rfl⟩ := updateRow_ok replaced
    refine ⟨subset, (declaration_replaceRow _ _ _).trans declared, fun other member => ?_⟩
    rw [declaration_replaceRow]
    rcases mem_replaceRow member with rfl | member
    · have cells := assignRow_ok assigned
      rw [declared] at cells ⊢
      have assigned := (obeys row mem).assigned heed
      rw [← cells] at assigned
      exact assigned
    · exact held other member
  exact kept.2.2

end Table

end RowQuery
