import RowQuery.Proofs.Store.Selection

/-!
# What goes with what

The rows that go when some rows are picked are the least set that has these rows and, with a row,
every row that refers to it by a column that cascades.

* `Database.Falls` is this set, and `Database.without` the tables without it.
* `Database.Sound.leaves_iff_falls` — the rows that a removal takes away are those of this set.
* `Database.Sound.remove_eq` — a removal leaves the tables without this set, and changes nothing
  else.
* `Database.Sound.without_people` — what that means for people.

## Design notes

A removal visits each table once. That is enough since a table refers to tables before it only: when
a table is visited, all that its rows can refer to has been visited already.
-/

namespace RowQuery

/-- The columns of a table with the cells of a row. -/
theorem Table.zip_cells {table : Table} {row : Row}
    (declared : table.declaration ∈ Catalog.tables)
    (shaped : row.cells.length = table.declaration.columns.length) :
    table.declaration.columns.zip row.cells =
      table.declaration.columns.map fun column => (column, table.cell row column.name) := by
  refine List.ext_getElem (by simp [shaped]) fun index lt lt' => ?_
  have inside : index < table.declaration.columns.length := by simpa using lt'
  have found := Catalog.columnIndex?_eq declared (List.getElem?_eq_getElem inside)
  rw [List.getElem_zip, List.getElem_map, Table.cell, Table.index, found]
  exact congrArg (Prod.mk _) (List.getElem_eq_getD Cell.null)

namespace Database

/-! ### The least set -/

section Falling

variable (db : Database) (picks : Table → Row → Prop)

/-- The rows that go when rows are picked: these rows, and every row that refers to a row that goes
by a column that cascades. -/
inductive Falls : Table → Row → Prop where
  | picked {table : Table} {row : Row} (mem : table ∈ db.tables) (inside : row ∈ table.rows)
    (picked : picks table row) : Falls table row
  | follows {owner table : Table} {lost row : Row} (fallen : Falls owner lost)
    (mem : table ∈ db.tables) (inside : row ∈ table.rows)
    (refers : (owner.name, .cascade, owner.cell lost "id") ∈ references table.declaration row) :
    Falls table row

/-- Whether a cell refers to a row that goes, by a column that is emptied then. -/
def Clears (column : Column) (cell : Cell) : Prop :=
  ∃ owner lost, db.Falls picks owner lost ∧ column.references = some (owner.name, .setNull) ∧
    cell = owner.cell lost "id"

open Classical in
/-- A row that stays: its references to rows that go are emptied, and the other cells are as they
were. -/
noncomputable def keptRow (table : Table) (row : Row) : Row where
  number := row.number
  cells := table.declaration.columns.map fun column =>
    if db.Clears picks column (table.cell row column.name) then .null
    else table.cell row column.name

open Classical in
/-- The tables without the rows that go. -/
noncomputable def without : Database where
  tables := db.tables.map fun table =>
    ⟨table.declaration,
      (table.rows.filter fun row => ¬db.Falls picks table row).map (db.keptRow picks table)⟩

end Falling

variable {db : Database} {picks : Table → Row → Prop} {table : Table} {row : Row}

theorem Falls.mem (h : db.Falls picks table row) : table ∈ db.tables ∧ row ∈ table.rows := by
  cases h with
  | picked mem inside => exact ⟨mem, inside⟩
  | follows _ mem inside => exact ⟨mem, inside⟩

/-- What goes depends on which rows of the tables are picked only. -/
theorem Falls.congr {others : Table → Row → Prop} (h : db.Falls picks table row)
    (same : ∀ table ∈ db.tables, ∀ row ∈ table.rows, picks table row → others table row) :
    db.Falls others table row := by
  induction h with
  | picked mem inside picked => exact .picked mem inside (same _ mem _ inside picked)
  | follows _ mem inside refers ih => exact .follows ih mem inside refers

theorem without_congr {others : Table → Row → Prop}
    (same : ∀ table ∈ db.tables, ∀ row ∈ table.rows, picks table row ↔ others table row) :
    db.without picks = db.without others := by
  have falls : db.Falls picks = db.Falls others := by
    funext table row
    refine propext ⟨fun h => h.congr ?_, fun h => h.congr ?_⟩
    · exact fun table mem row inside => (same table mem row inside).mp
    · exact fun table mem row inside => (same table mem row inside).mpr
  have clears : db.Clears picks = db.Clears others := by
    funext column cell
    rw [Clears, Clears, falls]
  have kept : db.keptRow picks = db.keptRow others := by
    funext table row
    rw [keptRow, keptRow, clears]
  rw [without, without, kept, falls]

/-! ### Rows that stay -/

/-- A row that stays is released from rows that go as it should be: what it loses are references
that are emptied, since with the others it would go itself. -/
theorem release_eq (declared : table.declaration ∈ Catalog.tables)
    (shaped : row.cells.length = table.declaration.columns.length) {gone : Gone}
    (told : ∀ target id, (target, id) ∈ gone ↔
      ∃ owner lost, db.Falls picks owner lost ∧ owner.name = target ∧ owner.cell lost "id" = id)
    (stays : goesWith gone table.declaration row = false) :
    release gone table.declaration row = db.keptRow picks table row := by
  refine congrArg (Row.mk row.number) ?_
  have pairs := Table.zip_cells declared shaped
  rw [pairs, List.map_map]
  refine List.map_congr_left fun column listed => ?_
  have mem : (column, table.cell row column.name) ∈ table.declaration.columns.zip row.cells := by
    rw [pairs]
    exact List.mem_map_of_mem listed
  show released gone column (table.cell row column.name) = _
  generalize table.cell row column.name = cell at mem
  rw [released]
  cases refers : column.references with
  | none =>
    refine (if_neg fun clears => ?_).symm
    obtain ⟨owner, lost, -, through, -⟩ := clears
    rw [refers] at through
    cases through
  | some reference =>
    obtain ⟨target, action⟩ := reference
    dsimp only
    by_cases lost : (target, cell) ∈ gone
    · rw [if_pos (List.contains_iff_mem.mpr lost)]
      cases action with
      | setNull =>
        obtain ⟨owner, other, falls, rfl, rfl⟩ := (told target cell).mp lost
        exact (if_pos ⟨owner, other, falls, refers, rfl⟩).symm
      | cascade =>
        -- The cell is null already, or else the row would go.
        have empty : cell = .null := by
          by_contra filled
          have goes := goesWith_iff.mpr
            ⟨target, cell, references_mem.mpr ⟨column, mem, refers, filled⟩, lost⟩
          rw [stays] at goes
          cases goes
        rw [empty, ite_self]
    · rw [if_neg (mt List.contains_iff_mem.mp lost)]
      refine (if_neg fun clears => lost ?_).symm
      obtain ⟨owner, other, falls, through, rfl⟩ := clears
      rw [refers] at through
      cases through
      exact (told _ _).mpr ⟨owner, other, falls, rfl, rfl⟩

/-! ### Removals -/

namespace Sound

variable (sound : db.Sound) {gone : Gone} {goes : Table → Row → Bool}

include sound

/-- The rows that a removal takes away, all that is gone being known, are the least set of rows that
has those that are picked and all that go with them. -/
theorem leaves_iff_falls
    (told : ∀ target id, (target, id) ∈ gone ↔ ∃ table ∈ db.tables, table.name = target ∧
      ∃ row ∈ table.rows, table.leaves goes gone row ∧ table.cell row "id" = id)
    (mem : table ∈ db.tables) (inside : row ∈ table.rows) :
    table.leaves goes gone row = true ↔
      db.Falls (fun table row => goes table row = true) table row := by
  constructor
  · -- Along the tables: a row goes with rows of tables before its own.
    obtain ⟨index, lt, rfl⟩ := List.getElem_of_mem mem
    intro left
    induction index using Nat.strongRecOn generalizing row with
    | ind index ih =>
      rcases Bool.or_eq_true_iff.mp left with picked | goes
      · exact .picked mem inside picked
      · obtain ⟨target, id, refers, lost⟩ := goesWith_iff.mp goes
        obtain ⟨owner, there, rfl, other, inside', left', rfl⟩ := (told target id).mp lost
        obtain ⟨place, lt', rfl⟩ := List.getElem_of_mem there
        have refersTo := refersTo_of_references refers
        have before : place < index := by
          obtain ⟨pairs, own⟩ := sound.forward
          by_contra late
          rcases Nat.lt_or_eq_of_le (Nat.le_of_not_lt late) with after | rfl
          · have := List.pairwise_iff_getElem.mp pairs index place lt lt' after
            rw [refersTo] at this
            cases this
          · rw [own _ mem] at refersTo
            cases refersTo
        exact .follows (ih place before lt' there inside' left') mem inside refers
  · intro falls
    induction falls with
    | picked _ _ picked => exact Bool.or_eq_true_iff.mpr (.inl picked)
    | follows fallen _ _ refers ih =>
      obtain ⟨there, inside'⟩ := fallen.mem
      have lost := (told _ _).mpr ⟨_, there, rfl, _, inside', ih there inside', rfl⟩
      exact Bool.or_eq_true_iff.mpr (.inr (goesWith_iff.mpr ⟨_, _, refers, lost⟩))

open Classical in
/-- A removal takes from a table the rows that go, and from the others their references to rows that
go. -/
theorem swept_eq
    (told : ∀ target id, (target, id) ∈ gone ↔ ∃ table ∈ db.tables, table.name = target ∧
      ∃ row ∈ table.rows, table.leaves goes gone row ∧ table.cell row "id" = id)
    (mem : table ∈ db.tables) (shaped : ∀ row ∈ table.rows,
      row.cells.length = table.declaration.columns.length) :
    table.swept goes gone = ⟨table.declaration,
      (table.rows.filter fun row => ¬db.Falls (goes · ·) table row).map
        (db.keptRow (goes · ·) table)⟩ := by
  have falls {table : Table} {row : Row} (mem : table ∈ db.tables) (inside : row ∈ table.rows) :=
    sound.leaves_iff_falls told mem inside
  have lost (target : String) (id : Cell) : (target, id) ∈ gone ↔ ∃ owner lost,
      db.Falls (goes · ·) owner lost ∧ owner.name = target ∧ owner.cell lost "id" = id := by
    rw [told]
    constructor
    · rintro ⟨owner, there, named, lost, inside, left, same⟩
      exact ⟨owner, lost, (falls there inside).mp left, named, same⟩
    · rintro ⟨owner, lost, fallen, named, same⟩
      obtain ⟨there, inside⟩ := fallen.mem
      exact ⟨owner, there, named, lost, inside, (falls there inside).mpr fallen, same⟩
  have stays (row : Row) (inside : row ∈ table.rows) :
      (!table.leaves goes gone row) = decide (¬db.Falls (goes · ·) table row) := by
    rw [Bool.eq_iff_iff, decide_eq_true_iff, ← falls mem inside, Bool.not_eq_true',
      Bool.not_eq_true]
  refine congrArg (Table.mk table.declaration) ?_
  rw [List.filter_congr stays]
  refine List.map_congr_left fun row listed => ?_
  obtain ⟨inside, kept⟩ := List.mem_filter.mp listed
  rw [← stays row inside, Bool.not_eq_true'] at kept
  exact release_eq (sound.declared_of_mem mem) (shaped row inside) lost
    (Bool.or_eq_false_iff.mp kept).2

/-- **A removal leaves the tables without the rows that go**, and changes nothing but references to
them. -/
theorem remove_eq (shaped : ∀ table ∈ db.tables, ∀ row ∈ table.rows,
      row.cells.length = table.declaration.columns.length) (name : String) (goes : Row → Bool) :
    db.remove name goes = db.without fun table row => table.name = name ∧ goes row = true := by
  obtain ⟨gone, swept, told⟩ := sound.exists_gone name goes
  have same : (fun (table : Table) row => table.name = name ∧ goes row = true) =
      fun table row => (decide (table.name = name) && goes row) = true := by
    funext table row
    simp
  rw [same]
  refine congrArg Database.mk (swept.trans (List.map_congr_left fun table mem => ?_))
  exact sound.swept_eq told mem (shaped table mem)

end Sound

end Database

/-! ### People -/

namespace Catalog

/-- The tables of what goes with a person. -/
def followers : List Declaration := [children, events, media, achievements, assignments]

/-- Nothing refers to a table of which the rows go with others. -/
theorem unreferred : ∀ declaration ∈ tables, ∀ column ∈ declaration.columns,
    column.references.any (·.2 = .cascade) = true →
      ∀ other ∈ tables, other.refersTo declaration.name = false := by
  decide +kernel

/-- What goes with a person names the person. -/
theorem person_id_of_cascade : ∀ declaration ∈ tables, ∀ column ∈ declaration.columns,
    column.references = some (people.name, .cascade) →
      declaration ∈ followers ∧ column.name = "person_id" := by
  decide +kernel

theorem exists_person_id : ∀ declaration ∈ followers, ∃ column ∈ declaration.columns,
    column.name = "person_id" ∧ column.references = some (people.name, .cascade) := by
  decide +kernel

/-- Families name the parents, and can do without them. -/
theorem setNull_people_iff : ∀ declaration ∈ tables, ∀ column ∈ declaration.columns,
    column.references = some (people.name, .setNull) ↔
      declaration = families ∧ column.name ∈ ["father_id", "mother_id"] := by
  decide +kernel

end Catalog

namespace Table

variable {people table : Table} {picked : Row → Prop} {row : Row}

/-- Whether a cell names one of the people who are picked. -/
def Names (people : Table) (picked : Row → Prop) (cell : Cell) : Prop :=
  cell ≠ .null ∧ ∃ person ∈ people.rows, picked person ∧ people.cell person "id" = cell

open Classical in
/-- The rows of a table when the people who are picked have gone: what goes with one of them has
gone too, and of families the places of parents are emptied. -/
noncomputable def bereft (people : Table) (picked : Row → Prop) (table : Table) : List Row :=
  if table = people then people.rows.filter fun row => ¬picked row
  else if table.declaration ∈ Catalog.followers then
    table.rows.filter fun row => ¬people.Names picked (table.cell row "person_id")
  else if table.declaration = Catalog.families then
    table.rows.map fun row => ⟨row.number, table.declaration.columns.map fun column =>
      if column.name ∈ ["father_id", "mother_id"] ∧
          people.Names picked (table.cell row column.name) then .null
      else table.cell row column.name⟩
  else table.rows

/-- The cells of a row, by the names of the columns. -/
theorem map_cell (declared : table.declaration ∈ Catalog.tables)
    (shaped : row.cells.length = table.declaration.columns.length) :
    (table.declaration.columns.map fun column => table.cell row column.name) = row.cells := by
  have pairs := congrArg (List.map Prod.snd) (zip_cells declared shaped)
  rw [List.map_snd_zip (Nat.le_of_eq shaped), List.map_map] at pairs
  exact pairs.symm

end Table

namespace Database

variable {db : Database} {people table : Table} {picked : Row → Prop} {row : Row}

theorem mem_references_iff (declared : table.declaration ∈ Catalog.tables)
    (shaped : row.cells.length = table.declaration.columns.length) {target : String}
    {action : DeleteAction} {id : Cell} :
    (target, action, id) ∈ references table.declaration row ↔
      ∃ column ∈ table.declaration.columns, column.references = some (target, action) ∧
        table.cell row column.name = id ∧ id ≠ .null := by
  rw [references_mem, Table.zip_cells declared shaped]
  constructor
  · rintro ⟨column, mem, refers, filled⟩
    obtain ⟨other, listed, same⟩ := List.mem_map.mp mem
    cases same
    exact ⟨column, listed, refers, rfl, filled⟩
  · rintro ⟨column, listed, refers, rfl, filled⟩
    exact ⟨column, List.mem_map_of_mem listed, refers, filled⟩

namespace Sound

variable (sound : db.Sound)

include sound

/-- Of the rows that go with people, only the people themselves are referred to. -/
theorem picked_of_falls {owner : Table} {lost : Row}
    (falls : db.Falls (fun table row => table = people ∧ picked row) owner lost)
    {declaration : Declaration} (declared : declaration ∈ Catalog.tables)
    (refers : declaration.refersTo owner.name = true) : owner = people ∧ picked lost := by
  cases falls with
  | picked _ _ picked => exact picked
  | follows _ mem _ through =>
    obtain ⟨column, pair, cascades, -⟩ := references_mem.mp through
    have alone := Catalog.unreferred _ (sound.declared_of_mem mem) column (List.of_mem_zip pair).1
      (by rw [cascades]; rfl) declaration declared
    have named : owner.declaration.name = owner.name := rfl
    rw [named, refers] at alone
    cases alone

/-- The rows that go with people are these people and what names one of them as its own. -/
theorem falls_people_iff (shaped : ∀ table ∈ db.tables, ∀ row ∈ table.rows,
      row.cells.length = table.declaration.columns.length)
    (mem : people ∈ db.tables) (declares : people.declaration = Catalog.people)
    (mem' : table ∈ db.tables) (inside : row ∈ table.rows) :
    db.Falls (fun table row => table = people ∧ picked row) table row ↔
      table = people ∧ picked row ∨
        table.declaration ∈ Catalog.followers ∧
          people.Names picked (table.cell row "person_id") := by
  have declared := sound.declared_of_mem mem'
  have name : people.name = Catalog.people.name := congrArg Declaration.name declares
  constructor
  · intro falls
    cases falls with
    | picked _ _ picked => exact .inl picked
    | follows fallen _ _ refers =>
      obtain ⟨rfl, chosen⟩ := sound.picked_of_falls fallen declared (refersTo_of_references refers)
      obtain ⟨column, listed, cascades, same, filled⟩ :=
        (mem_references_iff declared (shaped table mem' row inside)).mp refers
      rw [name] at cascades
      obtain ⟨follower, named⟩ := Catalog.person_id_of_cascade _ declared column listed cascades
      rw [named] at same
      exact .inr ⟨follower, same ▸ filled, _, fallen.mem.2, chosen, same.symm⟩
  · rintro (picked | ⟨follower, filled, person, known, chosen, same⟩)
    · exact .picked mem' inside picked
    · obtain ⟨column, listed, named, cascades⟩ := Catalog.exists_person_id _ follower
      refine .follows (.picked mem known ⟨rfl, chosen⟩) mem' inside ?_
      rw [mem_references_iff declared (shaped table mem' row inside), name, same]
      exact ⟨column, listed, cascades, named ▸ rfl, filled⟩

open Classical in
/-- Only families lose references to people, and only those of the parents. -/
theorem keptRow_people (declares : people.declaration = Catalog.people) (mem : people ∈ db.tables)
    (mem' : table ∈ db.tables) (row : Row) :
    db.keptRow (fun table row => table = people ∧ picked row) table row =
      ⟨row.number, table.declaration.columns.map fun column =>
        if table.declaration = Catalog.families ∧ column.name ∈ ["father_id", "mother_id"] ∧
          people.Names picked (table.cell row column.name) then .null
        else table.cell row column.name⟩ := by
  have declared := sound.declared_of_mem mem'
  have name : people.name = Catalog.people.name := congrArg Declaration.name declares
  refine congrArg (Row.mk row.number) (List.map_congr_left fun column listed => ?_)
  generalize table.cell row column.name = cell
  by_cases empty : cell = .null
  · rw [empty, ite_self, ite_self]
  · refine if_congr ?_ rfl rfl
    constructor
    · rintro ⟨owner, lost, fallen, refers, same⟩
      have refersTo := Declaration.refersTo_of_mem listed refers
      obtain ⟨rfl, chosen⟩ := sound.picked_of_falls fallen declared refersTo
      rw [name] at refers
      obtain ⟨family, parent⟩ :=
        (Catalog.setNull_people_iff _ declared column listed).mp refers
      exact ⟨family, parent, empty, lost, fallen.mem.2, chosen, same.symm⟩
    · rintro ⟨family, parent, -, person, known, chosen, same⟩
      refine ⟨people, person, .picked mem known ⟨rfl, chosen⟩, ?_, same.symm⟩
      rw [name]
      exact (Catalog.setNull_people_iff _ declared column listed).mpr ⟨family, parent⟩

/-- Of other tables than families the rows that stay are as they were. -/
theorem map_keptRow_people (shaped : ∀ row ∈ table.rows,
      row.cells.length = table.declaration.columns.length)
    (declares : people.declaration = Catalog.people) (mem : people ∈ db.tables)
    (mem' : table ∈ db.tables) (other : table.declaration ≠ Catalog.families) {rows : List Row}
    (inside : rows ⊆ table.rows) :
    rows.map (db.keptRow (fun table row => table = people ∧ picked row) table) = rows := by
  refine (List.map_congr_left fun row listed => ?_).trans (List.map_id _)
  have cells := Table.map_cell (sound.declared_of_mem mem') (shaped row (inside listed))
  rw [sound.keptRow_people declares mem mem']
  simp only [other, false_and, if_false, cells]
  rfl

/-- **What is left when people go.** -/
theorem without_people (shaped : ∀ table ∈ db.tables, ∀ row ∈ table.rows,
      row.cells.length = table.declaration.columns.length)
    (mem : people ∈ db.tables) (declares : people.declaration = Catalog.people) :
    db.without (fun table row => table = people ∧ picked row) =
      ⟨db.tables.map fun table => ⟨table.declaration, people.bereft picked table⟩⟩ := by
  classical
  refine congrArg Database.mk (List.map_congr_left fun table mem' => ?_)
  refine congrArg (Table.mk table.declaration) ?_
  have apart : Catalog.people ∉ Catalog.followers := by decide
  have falls (row : Row) (inside : row ∈ table.rows) :
      db.Falls (fun table row => table = people ∧ picked row) table row ↔
        table = people ∧ picked row ∨ table.declaration ∈ Catalog.followers ∧
          people.Names picked (table.cell row "person_id") :=
    sound.falls_people_iff shaped mem declares mem' inside
  have kept (other : table.declaration ≠ Catalog.families) {rows : List Row}
      (inside : rows ⊆ table.rows) :
      rows.map (db.keptRow (fun table row => table = people ∧ picked row) table) = rows :=
    sound.map_keptRow_people (shaped table mem') declares mem mem' other inside
  rw [Table.bereft]
  by_cases same : table = people
  · subst same
    have other : table.declaration ≠ Catalog.families := by
      rw [declares]
      decide
    rw [kept other List.filter_sublist.subset, if_pos rfl]
    refine List.filter_congr fun row inside => ?_
    simp [falls row inside, declares, apart]
  rw [if_neg same]
  by_cases follower : table.declaration ∈ Catalog.followers
  · have other : table.declaration ≠ Catalog.families := fun family => by
      rw [family] at follower
      exact absurd follower (by decide)
    rw [kept other List.filter_sublist.subset, if_pos follower]
    refine List.filter_congr fun row inside => ?_
    simp [falls row inside, same, follower]
  rw [if_neg follower]
  have all : table.rows.filter (fun row =>
      ¬db.Falls (fun table row => table = people ∧ picked row) table row) = table.rows :=
    List.filter_eq_self.mpr fun row inside => by simp [falls row inside, same, follower]
  rw [all]
  by_cases family : table.declaration = Catalog.families
  · rw [if_pos family]
    refine List.map_congr_left fun row _ => ?_
    rw [sound.keptRow_people declares mem mem']
    simp only [family, true_and]
  · rw [if_neg family]
    exact kept family (List.Subset.refl _)

end Sound

end Database

end RowQuery
