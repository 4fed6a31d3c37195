import RowQuery.Proofs.Store.Sound

/-!
# Removing rows

A removal goes through the tables in their order and knows, at each of them, what is gone so far.
Since tables refer back only, it may as well know from the beginning all that will be gone.

* `Table.swept` — a table after a removal, given what is gone.
* `Database.sweep_eq_map` — a removal changes each table by itself, for one list of what is gone:
  the rows picked, and the rows that go with them.
* `Database.cell_release` and `Database.id_release` — a row that stays keeps its cells but for
  references that are emptied, and its identifier.
-/

namespace RowQuery

open Database (Gone goesWith released release)

namespace Table

/-- Whether a row goes: it is picked, or it goes with a row that it refers to. -/
def leaves (goes : Table → Row → Bool) (gone : Gone) (table : Table) (row : Row) : Bool :=
  goes table row || goesWith gone table.declaration row

/-- A table after a removal. -/
def swept (goes : Table → Row → Bool) (gone : Gone) (table : Table) : Table :=
  { table with
    rows := (table.rows.filter (!leaves goes gone table ·)).map (release gone table.declaration) }

/-- The rows of a table that go, as they are referred to. -/
def removed (goes : Table → Row → Bool) (gone : Gone) (table : Table) : Gone :=
  (table.rows.filter (leaves goes gone table)).map fun row => (table.name, table.cell row "id")

variable {goes : Table → Row → Bool} {gone : Gone} {table : Table}

theorem mem_removed {name : String} {id : Cell} :
    (name, id) ∈ removed goes gone table ↔
      table.name = name ∧ ∃ row ∈ table.rows, leaves goes gone table row ∧
        table.cell row "id" = id := by
  simp only [removed, List.mem_map, List.mem_filter, Prod.mk.injEq]
  constructor
  · rintro ⟨row, ⟨mem, left⟩, same, here⟩
    exact ⟨same, row, mem, left, here⟩
  · rintro ⟨same, row, mem, left, here⟩
    exact ⟨row, ⟨mem, left⟩, same, here⟩

theorem mem_swept {row : Row} : row ∈ (swept goes gone table).rows ↔
    ∃ old ∈ table.rows, leaves goes gone table old = false ∧
      row = release gone table.declaration old := by
  simp only [swept, List.mem_map, List.mem_filter, Bool.not_eq_true']
  constructor
  · rintro ⟨old, ⟨mem, stays⟩, rfl⟩
    exact ⟨old, mem, stays, rfl⟩
  · rintro ⟨old, mem, stays, rfl⟩
    exact ⟨old, ⟨mem, stays⟩, rfl⟩

end Table

namespace Database

variable {goes : Table → Row → Bool} {gone other : Gone} {declaration : Declaration}

/-! ### Rows that stay -/

/-- A cell of a row that stays is emptied or as it was. -/
theorem cell_release (gone : Gone) (declaration : Declaration) (row : Row) (index : Nat) :
    (release gone declaration row).cell index = .null ∨
      (release gone declaration row).cell index = row.cell index := by
  simp only [Row.cell, release, List.getD_eq_getElem?_getD, List.getElem?_map,
    List.zip, List.getElem?_zipWith]
  cases declaration.columns[index]? with
  | none => exact .inl rfl
  | some column =>
    cases row.cells[index]? with
    | none => exact .inl rfl
    | some cell =>
      simp only [Option.map_some, Option.getD_some, released]
      cases column.references with
      | none => exact .inr rfl
      | some reference =>
        dsimp only
        split
        · exact .inl rfl
        · exact .inr rfl

/-- The first column of a declared table is no reference, so that it stays. -/
theorem id_release {table : Table} (gone : Gone) (declared : table.declaration ∈ Catalog.tables)
    (row : Row) : table.cell (release gone table.declaration row) "id" = table.cell row "id" := by
  obtain ⟨rest, columns⟩ := Catalog.exists_columns declared
  rw [Table.cell, Table.cell, Table.index_id declared, Row.cell, Row.cell, release, columns]
  cases row.cells <;> rfl

/-- Rows that stay agree in no more columns than before. -/
theorem agree_of_release {table : Table} {key : List String} {a b : Row}
    (h : table.agree key (release gone table.declaration a) (release gone table.declaration b) =
      true) : table.agree key a b = true := by
  rw [Table.agree_iff] at h ⊢
  intro name mem
  obtain ⟨filled, same⟩ := h name mem
  -- Neither of the two cells is null, so neither of them has been emptied.
  have kept (row : Row) (h : table.cell (release gone table.declaration row) name ≠ .null) :
      table.cell (release gone table.declaration row) name = table.cell row name :=
    (cell_release gone table.declaration row (table.index name)).resolve_left h
  have stays := kept a filled
  have stays' := kept b (same ▸ filled)
  exact ⟨stays ▸ filled, stays.symm.trans (same.trans stays')⟩

end Database

namespace Table

variable {goes : Table → Row → Bool} {gone : Gone} {table : Table} {rule : Rule}

theorem Sound.swept (sound : table.Sound) : (table.swept goes gone).Sound := by
  refine ⟨?_, fun key mem => ?_⟩
  · exact List.pairwise_map.mpr (sound.numbered.filter _)
  · refine List.pairwise_map.mpr (((sound.distinct key mem).filter _).imp fun {a b} apart => ?_)
    exact Bool.eq_false_iff.mpr fun agreed =>
      Bool.eq_false_iff.mp apart (Database.agree_of_release agreed)

theorem Obeys.swept (emptied : rule.Emptied) (declared : table.declaration ∈ Catalog.tables)
    (obeys : table.Obeys rule) : (table.swept goes gone).Obeys rule := by
  intro row mem
  obtain ⟨old, member, -, rfl⟩ := mem_swept.mp mem
  refine Row.Obeys.map_zip (obeys old member) fun column listed cell held => ?_
  show rule column (released gone column cell)
  rw [released]
  cases refers : column.references with
  | none => exact held
  | some reference =>
    dsimp only
    split
    · exact emptied _ declared column listed (by rw [refers]; rfl)
    · exact held

end Table

namespace Database

variable {goes : Table → Row → Bool} {gone other : Gone}

/-! ### All tables -/

theorem references_mem {declaration : Declaration} {row : Row} {target : String}
    {action : DeleteAction} {id : Cell} : (target, action, id) ∈ references declaration row ↔
      ∃ column, (column, id) ∈ declaration.columns.zip row.cells ∧
        column.references = some (target, action) ∧ id ≠ .null := by
  simp only [references, List.mem_filterMap, Prod.exists]
  constructor
  · rintro ⟨column, cell, mem, h⟩
    cases refers : column.references with
    | none =>
      rw [refers] at h
      cases h
    | some reference =>
      rw [refers] at h
      dsimp only at h
      split at h
      · cases h
      · next filled =>
        cases h
        exact ⟨column, mem, refers, fun empty => filled (decide_eq_true empty)⟩
  · rintro ⟨column, mem, refers, filled⟩
    refine ⟨column, id, mem, ?_⟩
    rw [refers]
    exact if_neg fun empty => filled (of_decide_eq_true empty)

theorem mem_zip_map_zip {columns : List Column} {cells : List Cell} {column : Column} {new : Cell}
    {change : Column × Cell → Cell}
    (mem : (column, new) ∈ columns.zip ((columns.zip cells).map change)) :
    ∃ cell, (column, cell) ∈ columns.zip cells ∧ new = change (column, cell) := by
  induction columns generalizing cells with
  | nil => cases mem
  | cons first columns ih =>
    cases cells with
    | nil => cases mem
    | cons cell cells =>
      rcases List.mem_cons.mp mem with same | mem
      · cases same
        exact ⟨cell, List.mem_cons_self, rfl⟩
      · obtain ⟨cell, inside, made⟩ := ih mem
        exact ⟨cell, List.mem_cons_of_mem _ inside, made⟩

/-- The references of a row that stays are those that lead to no row that is gone. -/
theorem references_release {declaration : Declaration} {row : Row} {target : String}
    {action : DeleteAction} {id : Cell}
    (h : (target, action, id) ∈ references declaration (release gone declaration row)) :
    (target, action, id) ∈ references declaration row ∧ (target, id) ∉ gone := by
  obtain ⟨column, mem, refers, filled⟩ := references_mem.mp h
  obtain ⟨cell, inside, rfl⟩ := mem_zip_map_zip mem
  have made : released gone column cell =
      if gone.contains (target, cell) then .null else cell := by
    rw [released, refers]
  dsimp only at filled ⊢
  rw [made] at filled ⊢
  by_cases lost : gone.contains (target, cell)
  · rw [if_pos lost] at filled
    exact absurd rfl filled
  · rw [if_neg lost] at filled ⊢
    exact ⟨references_mem.mpr ⟨column, inside, refers, filled⟩,
      fun mem => lost (List.contains_iff_mem.mpr mem)⟩

theorem goesWith_iff {declaration : Declaration} {row : Row} :
    goesWith gone declaration row = true ↔
      ∃ target id, (target, .cascade, id) ∈ references declaration row ∧ (target, id) ∈ gone := by
  simp only [goesWith, List.any_eq_true, Prod.exists, Bool.and_eq_true, decide_eq_true_eq,
    List.contains_iff_mem]
  constructor
  · rintro ⟨target, action, id, mem, rfl, lost⟩
    exact ⟨target, id, mem, lost⟩
  · rintro ⟨target, id, mem, lost⟩
    exact ⟨target, .cascade, id, mem, rfl, lost⟩

/-- A reference leads to a table that its own table refers to. -/
theorem refersTo_of_references {declaration : Declaration} {row : Row} {target : String}
    {action : DeleteAction} {id : Cell} (h : (target, action, id) ∈ references declaration row) :
    declaration.refersTo target = true := by
  obtain ⟨column, mem, refers, -⟩ := references_mem.mp h
  exact Declaration.refersTo_of_mem (List.of_mem_zip mem).1 refers

/-- What is gone matters to a table only where it refers to it. -/
theorem leaves_congr {table : Table}
    (same : ∀ target, table.declaration.refersTo target = true →
      ∀ id, (target, id) ∈ gone ↔ (target, id) ∈ other) (row : Row) :
    table.leaves goes gone row = table.leaves goes other row := by
  refine congrArg (goes table row || ·) (Bool.eq_iff_iff.mpr ?_)
  rw [goesWith_iff, goesWith_iff]
  refine exists_congr fun target => exists_congr fun id => and_congr_right fun mem => ?_
  exact same target (refersTo_of_references mem) id

theorem swept_congr {table : Table}
    (same : ∀ target, table.declaration.refersTo target = true →
      ∀ id, (target, id) ∈ gone ↔ (target, id) ∈ other) :
    table.swept goes gone = table.swept goes other := by
  have left : table.leaves goes gone = table.leaves goes other := funext (leaves_congr same)
  have kept : release gone table.declaration = release other table.declaration := by
    funext row
    refine congrArg (Row.mk row.number) (List.map_congr_left fun ⟨column, cell⟩ mem => ?_)
    show released gone column cell = released other column cell
    rw [released, released]
    cases refers : column.references with
    | none => rfl
    | some reference =>
      have refersTo := Declaration.refersTo_of_mem (List.of_mem_zip mem).1 refers
      have contains := Bool.eq_iff_iff.mpr (List.contains_iff_mem.trans
        ((same reference.1 refersTo cell).trans List.contains_iff_mem.symm))
      simp only [contains]
  rw [Table.swept, Table.swept, left, kept]

/-- Tables in an order in which each refers to tables before it only. -/
def Forward (tables : List Table) : Prop :=
  tables.Pairwise (fun a b => a.declaration.refersTo b.name = false) ∧
    ∀ table ∈ tables, table.declaration.refersTo table.name = false

/-- **A removal changes each table by itself**, given all that is gone in the end: the rows picked,
and the rows that go with those that they refer to. -/
theorem sweep_eq_map (goes : Table → Row → Bool) (gone : Gone) {tables : List Table}
    (forward : Forward tables) :
    ∃ more : Gone, sweep goes gone tables = tables.map (Table.swept goes (gone ++ more)) ∧
      ∀ name id, (name, id) ∈ more ↔ ∃ table ∈ tables, table.name = name ∧
        ∃ row ∈ table.rows, table.leaves goes (gone ++ more) row ∧ table.cell row "id" = id := by
  induction tables generalizing gone with
  | nil => exact ⟨[], rfl, by simp⟩
  | cons table rest ih =>
    obtain ⟨pairs, own⟩ := forward
    obtain ⟨later, pairs⟩ := List.pairwise_cons.mp pairs
    obtain ⟨more, swept, told⟩ := ih (gone ++ table.removed goes gone)
      ⟨pairs, fun other mem => own other (List.mem_cons_of_mem _ mem)⟩
    rw [List.append_assoc] at swept told
    -- What is gone from this table on is in no table that this one refers to.
    have unseen (target : String) (refers : table.declaration.refersTo target = true) (id : Cell) :
        (target, id) ∈ gone ↔ (target, id) ∈ gone ++ (table.removed goes gone ++ more) := by
      rw [List.mem_append, List.mem_append]
      refine ⟨.inl, fun h => h.resolve_right fun lost => ?_⟩
      rcases lost with here | after
      · obtain ⟨same, -⟩ := Table.mem_removed.mp here
        have := own table List.mem_cons_self
        rw [same, refers] at this
        cases this
      · obtain ⟨other, mem, same, -⟩ := (told target id).mp after
        have := later other mem
        rw [same, refers] at this
        cases this
    refine ⟨table.removed goes gone ++ more, ?_, fun name id => ?_⟩
    · show table.swept goes gone :: sweep goes (gone ++ table.removed goes gone) rest = _
      rw [swept, swept_congr unseen, List.map_cons]
    · rw [List.mem_append, Table.mem_removed, told, List.exists_mem_cons_iff]
      simp only [leaves_congr unseen]

end Database

end RowQuery
