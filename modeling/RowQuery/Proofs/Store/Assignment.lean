import RowQuery.Proofs.Store.Breach

/-!
# Rows that are assigned to

An assignment that leaves the numbers of rows alone changes the rows that it is about and no others.

* `Table.rows_updateRow` — one row is assigned to, in its place.
* `Table.update_eq` — the rows that are picked are assigned to, and every other row stays.
* `Table.update_perm` — so it is for any assignment, the places of the rows aside.
* `Database.Sound.tables_update` — so does every other table.

## Design notes

Rows are assigned to one after the other, so that a later one meets a table in which earlier ones
are changed already. Since no number changes and no number repeats, each row is met once, and as it
was in the beginning.
-/

namespace RowQuery

namespace Table

variable {table changed : Table} {assignments : Assignments}

/-- A row after an assignment that leaves its number alone. -/
def assigned (declaration : Declaration) (assignments : Assignments) (row : Row) : Row :=
  ⟨row.number, assignedCells declaration assignments row.cells⟩

theorem assignRow_eq {declaration : Declaration} (unnumbered : assignments.numbers declaration = [])
    (row : Row) :
    assignRow declaration assignments row = .ok (assigned declaration assignments row) := by
  rw [assignRow, unnumbered]
  rfl

/-- The rows with one of them assigned to, which is told by its number. -/
def assignAt (declaration : Declaration) (assignments : Assignments) (other row : Row) : Row :=
  if other.number = row.number then assigned declaration assignments row else other

/-- One row is assigned to, in its place. -/
theorem rows_updateRow (unnumbered : assignments.numbers table.declaration = []) {row : Row}
    (h : updateRow assignments table row = .ok changed) :
    changed.rows = table.rows.map (assignAt table.declaration assignments · row) := by
  obtain ⟨new, written, -, rfl⟩ := updateRow_ok h
  rw [assignRow_eq unnumbered] at written
  cases written
  have stays : (assigned table.declaration assignments row).number = row.number := rfl
  rw [replaceRow, if_pos stays]
  rfl

/-- Rows are assigned to one after the other. -/
theorem rows_update (unnumbered : assignments.numbers table.declaration = []) {rows : List Row}
    (h : table.update assignments rows = .ok changed) :
    changed.rows = table.rows.map fun other =>
      rows.foldl (assignAt table.declaration assignments) other := by
  -- What the rows come to in the end does not change while fewer and fewer are still to come.
  let motive (rest : List Row) (between : Table) : Prop :=
    between.declaration = table.declaration ∧
      between.rows.map (rest.foldl (assignAt table.declaration assignments)) =
        table.rows.map (rows.foldl (assignAt table.declaration assignments))
  have done : motive [] changed := by
    refine update_induction ⟨rfl, rfl⟩ ?_ h
    rintro row rest between next ⟨same, told⟩ replaced
    have placed := rows_updateRow (same.symm ▸ unnumbered) replaced
    obtain ⟨new, -, -, rfl⟩ := updateRow_ok replaced
    refine ⟨(declaration_replaceRow _ _ _).trans same, ?_⟩
    rw [placed, same, List.map_map, ← told]
    rfl
  exact (List.map_id _).symm.trans done.2

variable {declaration : Declaration}

/-- A row stays if no row with its number is assigned to. -/
theorem foldl_assignAt_of_not {rows : List Row} {other : Row}
    (none : ∀ row ∈ rows, row.number ≠ other.number) :
    rows.foldl (assignAt declaration assignments) other = other := by
  induction rows with
  | nil => rfl
  | cons row rest ih =>
    obtain ⟨differs, none⟩ := List.forall_mem_cons.mp none
    rw [List.foldl_cons, assignAt, if_neg differs.symm, ih none]

/-- A row that is among those that are assigned to is assigned to once. -/
theorem foldl_assignAt_of_mem {rows : List Row} {other : Row}
    (numbered : rows.Pairwise fun a b => a.number < b.number) (mem : other ∈ rows) :
    rows.foldl (assignAt declaration assignments) other =
      assigned declaration assignments other := by
  induction rows with
  | nil => cases mem
  | cons row rest ih =>
    obtain ⟨before, numbered⟩ := List.pairwise_cons.mp numbered
    rw [List.foldl_cons]
    -- Either the row is first, and later ones have greater numbers, or the first leaves it alone.
    rcases List.mem_cons.mp mem with rfl | later
    · have once : assignAt declaration assignments other other =
          assigned declaration assignments other := if_pos rfl
      rw [once]
      refine foldl_assignAt_of_not fun row mem same => ?_
      have lt := before row mem
      have kept : (assigned declaration assignments other).number = other.number := rfl
      omega
    · have lt := before other later
      rw [assignAt, if_neg (by omega), ih numbered later]

theorem Sound.eq_of_number (sound : table.Sound) {row other : Row} (mem : row ∈ table.rows)
    (mem' : other ∈ table.rows) (same : row.number = other.number) : row = other := by
  have symmetric : Std.Symm fun a b : Row => a.number ≠ b.number := ⟨fun _ _ apart => apart.symm⟩
  by_contra differ
  have apart : table.rows.Pairwise fun a b => a.number ≠ b.number :=
    sound.numbered.imp fun lt => Int.ne_of_lt lt
  exact apart.forall mem mem' differ same

/-- The table with some of its rows assigned to. -/
def assignWhere (table : Table) (assignments : Assignments) (picks : Row → Bool) : Table :=
  ⟨table.declaration, table.rows.map fun row =>
    if picks row then assigned table.declaration assignments row else row⟩

/-- **The rows that are picked are assigned to, and every other row stays.** -/
theorem update_eq (sound : table.Sound) (unnumbered : assignments.numbers table.declaration = [])
    {picks : Row → Bool} (h : table.update assignments (table.rows.filter picks) = .ok changed) :
    changed = table.assignWhere assignments picks := by
  have rows : changed.rows = (table.assignWhere assignments picks).rows := by
    rw [rows_update unnumbered h]
    refine List.map_congr_left fun other mem => ?_
    split
    · next picked =>
      exact foldl_assignAt_of_mem (sound.numbered.filter _) (List.mem_filter.mpr ⟨mem, picked⟩)
    · next unpicked =>
      refine foldl_assignAt_of_not fun row found same => unpicked ?_
      obtain ⟨inside, picked⟩ := List.mem_filter.mp found
      rw [← sound.eq_of_number inside mem same]
      exact picked
  have declared := declaration_update h
  cases changed
  cases rows
  cases declared
  rfl

/-- A column that nothing is assigned to keeps its cell. -/
theorem cell_of_assignRow {row new : Row} {column : String}
    (h : assignRow table.declaration assignments row = .ok new)
    (shaped : row.cells.length = table.declaration.columns.length)
    (untouched : ∀ assignment ∈ assignments, sameName assignment.1 column = false) :
    table.cell new column = table.cell row column := by
  have cells := assignRow_ok h
  have lengths : new.cells.length = table.declaration.columns.length := by
    simp [cells, assignedCells, shaped]
  rw [cell, cell, Row.cell, Row.cell, List.getD_eq_getElem?_getD, List.getD_eq_getElem?_getD]
  refine congrArg (Option.getD · Cell.null) ?_
  rw [Table.index]
  cases found : table.declaration.columnIndex? column with
  | none =>
    rw [Option.getD_none, List.getElem?_eq_none (Nat.le_of_eq lengths),
      List.getElem?_eq_none (Nat.le_of_eq shaped)]
  | some index =>
    obtain ⟨inside, like, -⟩ := List.findIdx?_eq_some_iff_getElem.mp found
    have inside' : index < row.cells.length := shaped ▸ inside
    -- What is assigned to the column would be assigned to one with that name.
    have none : assignments.valuesFor table.declaration.columns[index].name = [] := by
      rw [Assignments.valuesFor, List.map_eq_nil_iff, List.filter_eq_nil_iff]
      intro assignment mem alike
      have clash := sameName_trans alike like
      rw [untouched assignment mem] at clash
      cases clash
    have pair : (table.declaration.columns.zip row.cells)[index]? =
        some (table.declaration.columns[index], row.cells[index]) :=
      List.getElem?_zip_eq_some.mpr
        ⟨List.getElem?_eq_getElem inside, List.getElem?_eq_getElem inside'⟩
    rw [Option.getD_some, List.getElem?_eq_getElem inside', cells, assignedCells,
      List.getElem?_map, pair, Option.map_some]
    simp only [none, List.getLast?_nil]

/-! ### Rows that may get other numbers -/

/-- A row takes the place of another one, wherever it stands. -/
theorem replaceRow_perm (sound : table.Sound) {row new : Row} {others : List Row}
    (perm : table.rows.Perm (row :: others)) :
    (table.replaceRow row.number new).rows.Perm (new :: others) := by
  have symmetric : ∀ {a b : Row}, a.number ≠ b.number → b.number ≠ a.number := Ne.symm
  have apart : (row :: others).Pairwise fun a b => a.number ≠ b.number :=
    (perm.pairwise_iff symmetric).mp (sound.numbered.imp fun lt => Int.ne_of_lt lt)
  obtain ⟨unlike, -⟩ := List.pairwise_cons.mp apart
  rw [replaceRow]
  split
  · -- It is put where the other one was.
    refine (perm.map _).trans ?_
    rw [List.map_cons, if_pos rfl]
    refine .cons _ (.of_eq ?_)
    refine (List.map_congr_left fun other mem => ?_).trans (List.map_id _)
    exact if_neg (unlike other mem).symm
  · -- It is put where its own number belongs.
    refine (insertOrdered_perm _ _).trans (.cons _ ((perm.filter _).trans (.of_eq ?_)))
    refine (List.filter_cons_of_neg (by simp)).trans ?_
    exact List.filter_eq_self.mpr fun other mem => decide_eq_true (unlike other mem).symm

/-- **Each row that is picked becomes what is assigned to it, and the others stay**, whatever
becomes of the numbers. -/
theorem update_perm (sound : table.Sound) {rows others : List Row}
    (perm : table.rows.Perm (rows ++ others)) (h : table.update assignments rows = .ok changed) :
    ∃ news, List.Forall₂ (fun row new => assignRow table.declaration assignments row = .ok new)
        rows news ∧ changed.rows.Perm (news ++ others) := by
  -- Of the rows that are picked, some have been assigned to and the rest is still to come.
  let motive (rest : List Row) (between : Table) : Prop :=
    between.Sound ∧ between.declaration = table.declaration ∧ ∃ past news, rows = past ++ rest ∧
      List.Forall₂ (fun row new => assignRow table.declaration assignments row = .ok new) past
        news ∧ between.rows.Perm (rest ++ (news ++ others))
  have done : motive [] changed := by
    refine update_induction ⟨sound, rfl, [], [], rfl, .nil, perm⟩ ?_ h
    rintro row rest between next ⟨sound, same, past, news, rfl, become, perm⟩ replaced
    obtain ⟨new, written, checked, rfl⟩ := updateRow_ok replaced
    have placed : (between.replaceRow row.number new).rows.Perm (rest ++ new :: (news ++ others)) :=
      (replaceRow_perm sound perm).trans List.perm_middle.symm
    have last : (new :: (news ++ others)).Perm (news ++ new :: others) := List.perm_middle.symm
    refine ⟨sound.replaceRow checked, (declaration_replaceRow _ _ _).trans same, past ++ [row],
      news ++ [new], by simp, ?_, ?_⟩
    · rw [same] at written
      exact List.rel_append become (.cons written .nil)
    · rw [List.append_assoc]
      exact placed.trans (last.append_left rest)
  obtain ⟨-, -, past, news, rfl, become, left⟩ := done
  rw [List.append_nil]
  exact ⟨news, become, left⟩

end Table

namespace Database

variable {db later : Database} {table : Table} {assignments : Assignments}

/-- **An update of a table** assigns to the rows that its conditions select, and leaves every other
table as it is. -/
theorem Sound.tables_update (sound : db.Sound) (mem : table ∈ db.tables) {enforced : Bool}
    {conditions : List Sql.Condition} (unnumbered : assignments.numbers table.declaration = [])
    (h : db.update enforced table assignments conditions = .ok later) :
    later.tables = db.tables.map fun other =>
      if other = table then table.assignWhere assignments (table.selects conditions)
      else other := by
  obtain ⟨changed, made, -, rfl⟩ := exists_put_of_update h
  rw [Table.update_eq (sound.tables table mem) unnumbered made]
  refine List.map_congr_left fun other member => ?_
  have named : other.name = table.name ↔ other = table := by
    constructor
    · intro same
      refine sound.eq_of_sameName member mem ?_
      rw [same]
      exact sameName_self _
    · exact fun same => same ▸ rfl
  simp only [← named]
  rfl

end Database

end RowQuery
