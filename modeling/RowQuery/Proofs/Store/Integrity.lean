import RowQuery.Proofs.Store.Removal
import Mathlib.Data.List.Pairwise

/-!
# Statements keep databases sound

A statement that is run with references enforced leaves a sound database sound, whether or not it
succeeds, and hands on the rules that the values it writes heed.

* `Database.Sound` — the tables are the declared ones and sound, and every reference leads to a row.
* `Database.Sound.insert`, `Database.Sound.update` and `Database.Sound.delete` — so it is after each
  of the three changes.
* `Sql.Statement.Fills` — what a statement has to write for a rule to be handed on;
  `Sql.Statement.Heeds` says it of the values that are given.
* `Connection.run_sound` and `Connection.run_obeys` — the step by one statement.
-/

namespace RowQuery

namespace Database

/-- The tables are the declared ones and sound, and every reference leads to a row. -/
structure Sound (db : Database) : Prop where
  declared : db.tables.map (·.declaration) = Catalog.tables
  tables : ∀ table ∈ db.tables, table.Sound
  satisfied : db.satisfied = true

/-- Every table of a database obeys a rule. -/
def Obeys (rule : Rule) (db : Database) : Prop := ∀ table ∈ db.tables, table.Obeys rule

variable {db later : Database} {table changed : Table} {rule : Rule} {assignments : Assignments}

/-! ### Finding tables -/

theorem mem_of_table? {name : String} (found : db.table? name = some table) :
    table ∈ db.tables ∧ sameName table.name name = true := by
  rw [table?] at found
  exact ⟨List.mem_of_find?_eq_some found, by simpa using List.find?_some found⟩

theorem mem_put {other : Table} (h : other ∈ (db.put changed).tables) :
    other = changed ∨ other ∈ db.tables := by
  obtain ⟨old, mem, rfl⟩ := List.mem_map.mp h
  split
  · exact .inl rfl
  · exact .inr mem

theorem hasId_iff {name : String} {id : Cell} : db.hasId name id = true ↔
    ∃ table ∈ db.tables, table.name = name ∧ ∃ row ∈ table.rows, table.cell row "id" = id := by
  simp [hasId, Table.ids]

theorem satisfied_iff : db.satisfied = true ↔ ∀ table ∈ db.tables, ∀ row ∈ table.rows,
    db.rowSatisfied table.declaration row = true := by
  simp [satisfied]

theorem rowSatisfied_iff {declaration : Declaration} {row : Row} :
    db.rowSatisfied declaration row = true ↔
      ∀ target action id, (target, action, id) ∈ references declaration row →
        db.hasId target id = true := by
  simp [rowSatisfied]

namespace Sound

variable (sound : db.Sound)

include sound

theorem declared_of_mem (mem : table ∈ db.tables) : table.declaration ∈ Catalog.tables := by
  rw [← sound.declared]
  exact List.mem_map_of_mem mem

/-- A name finds one table only. -/
theorem eq_of_sameName {other : Table} (mem : table ∈ db.tables) (mem' : other ∈ db.tables)
    (same : sameName table.name other.name = true) : table = other := by
  have apart : db.tables.Pairwise fun a b => sameName a.name b.name = false := by
    have distinct := Catalog.names_distinct
    rw [← sound.declared] at distinct
    exact List.pairwise_map.mp distinct
  have symmetric : Std.Symm fun a b : Table => sameName a.name b.name = false :=
    ⟨fun a b h => by rw [← h]; exact BEq.comm⟩
  by_contra differ
  rw [apart.forall mem mem' differ] at same
  cases same

theorem table?_eq (mem : table ∈ db.tables) : db.table? table.name = some table := by
  have known : (db.tables.find? fun other => sameName other.name table.name).isSome :=
    List.find?_isSome.mpr ⟨table, mem, sameName_self _⟩
  obtain ⟨other, found⟩ := Option.isSome_iff_exists.mp known
  obtain ⟨mem', same⟩ := mem_of_table? found
  rw [sound.eq_of_sameName mem' mem same] at found
  exact found

/-- Every declared table is there. -/
theorem exists_table {declaration : Declaration} (mem : declaration ∈ Catalog.tables) :
    ∃ table ∈ db.tables, table.declaration = declaration := by
  rw [← sound.declared] at mem
  exact List.mem_map.mp mem

/-- There is nothing to be created in a database that is sound. -/
theorem create_eq : db.create = db := by
  have present : ∀ declaration ∈ Catalog.tables, (db.table? declaration.name).isNone = false := by
    intro declaration mem
    obtain ⟨table, member, rfl⟩ := sound.exists_table mem
    have found : db.table? table.declaration.name = some table := sound.table?_eq member
    rw [found]
    rfl
  have none : (Catalog.tables.filter fun declaration =>
      (db.table? declaration.name).isNone) = [] :=
    List.filter_eq_nil_iff.mpr fun declaration mem => by simp [present declaration mem]
  rw [create]
  simp only [none, List.map_nil, List.append_nil]

theorem declared_put (mem : table ∈ db.tables) (same : changed.declaration = table.declaration) :
    (db.put changed).tables.map (·.declaration) = Catalog.tables := by
  rw [← sound.declared, put, List.map_map]
  refine List.map_congr_left fun other member => ?_
  show (if other.name = changed.name then changed else other).declaration = other.declaration
  split
  · next named =>
    have name : changed.name = table.name := congrArg Declaration.name same
    have : sameName other.name table.name = true := by
      rw [named, name]
      exact sameName_self _
    rw [sound.eq_of_sameName member mem this, same]
  · rfl

/-- A change that keeps the identifiers of a table keeps all identifiers. -/
theorem hasId_put {name : String} {id : Cell} (mem : table ∈ db.tables)
    (same : changed.declaration = table.declaration)
    (kept : ∀ row ∈ table.rows, ∃ other ∈ changed.rows,
      changed.cell other "id" = table.cell row "id")
    (h : db.hasId name id = true) : (db.put changed).hasId name id = true := by
  obtain ⟨old, member, rfl, row, inside, rfl⟩ := hasId_iff.mp h
  have name : changed.name = table.name := congrArg Declaration.name same
  rw [hasId_iff]
  by_cases named : old.name = changed.name
  · have here : sameName old.name table.name = true := by
      rw [named, name]
      exact sameName_self _
    obtain rfl := sound.eq_of_sameName member mem here
    obtain ⟨other, inside', kept⟩ := kept row inside
    refine ⟨changed, ?_, named.symm, other, inside', kept⟩
    exact List.mem_map.mpr ⟨old, member, if_pos named⟩
  · refine ⟨old, ?_, rfl, row, inside, rfl⟩
    exact List.mem_map.mpr ⟨old, member, if_neg named⟩

/-! ### The three changes -/

theorem insert (mem : table ∈ db.tables) (h : db.insert true table assignments = .ok later) :
    later.Sound := by
  obtain ⟨row, made, leads, rfl⟩ := exists_put_of_insert h
  have checked := (Table.newRow_ok made).2
  refine ⟨sound.declared_put mem rfl, fun other member => ?_, ?_⟩
  · rcases mem_put member with rfl | member
    · exact (sound.tables table mem).insertRow checked
    · exact sound.tables other member
  · -- The references of the old rows lead where they led before.
    have old {other : Table} (member : other ∈ db.tables) {old : Row}
        (inside : old ∈ other.rows) :
        (db.put (table.insertRow row)).rowSatisfied other.declaration old = true := by
      have before := satisfied_iff.mp sound.satisfied other member old inside
      rw [rowSatisfied_iff] at before ⊢
      intro target action id refers
      refine sound.hasId_put mem rfl (fun row mem => ?_) (before target action id refers)
      exact ⟨row, Table.mem_insertRow.mpr (.inr mem), rfl⟩
    rw [satisfied_iff]
    intro other member row' inside
    rcases mem_put member with rfl | member
    · rcases Table.mem_insertRow.mp inside with rfl | inside
      · exact leads rfl
      · exact old mem inside
    · exact old member inside

theorem update {conditions : List Sql.Condition} (mem : table ∈ db.tables)
    (h : db.update true table assignments conditions = .ok later) : later.Sound := by
  obtain ⟨changed, made, leads, rfl⟩ := exists_put_of_update h
  refine ⟨sound.declared_put mem (Table.declaration_update made), fun other member => ?_, leads rfl⟩
  rcases mem_put member with rfl | member
  · exact (sound.tables table mem).update made
  · exact sound.tables other member

theorem forward : Forward db.tables := by
  obtain ⟨own, pairs⟩ := Catalog.references_back
  rw [← sound.declared] at own pairs
  exact ⟨List.pairwise_map.mp pairs, fun table mem => own _ (List.mem_map_of_mem mem)⟩

/-- A removal changes the tables of a sound database one by one. -/
theorem exists_gone (name : String) (goes : Row → Bool) :
    ∃ gone : Gone, (db.remove name goes).tables =
        db.tables.map (Table.swept (fun table row => table.name = name && goes row) gone) ∧
      ∀ target id, (target, id) ∈ gone ↔ ∃ table ∈ db.tables, table.name = target ∧
        ∃ row ∈ table.rows,
          table.leaves (fun table row => table.name = name && goes row) gone row ∧
            table.cell row "id" = id :=
  sweep_eq_map _ [] sound.forward

theorem remove (name : String) (goes : Row → Bool) : (db.remove name goes).Sound := by
  obtain ⟨gone, swept, told⟩ := sound.exists_gone name goes
  refine ⟨?_, ?_, ?_⟩
  · rw [swept, List.map_map, ← sound.declared]
    rfl
  · rw [swept]
    intro other mem
    obtain ⟨table, member, rfl⟩ := List.mem_map.mp mem
    exact (sound.tables table member).swept
  · rw [satisfied_iff, swept]
    intro other mem row inside
    obtain ⟨table, member, rfl⟩ := List.mem_map.mp mem
    obtain ⟨old, here, -, rfl⟩ := Table.mem_swept.mp inside
    rw [rowSatisfied_iff]
    intro target action id refers
    obtain ⟨refers, stays⟩ := references_release refers
    -- The row that the reference leads to has not gone, or else the reference would lead nowhere.
    have before := satisfied_iff.mp sound.satisfied table member old here
    obtain ⟨there, member', rfl, row, inside', rfl⟩ :=
      hasId_iff.mp (rowSatisfied_iff.mp before target action id refers)
    have kept : there.leaves (fun table row => table.name = name && goes row) gone row = false := by
      refine Bool.eq_false_iff.mpr fun left => stays ?_
      exact (told _ _).mpr ⟨there, member', rfl, row, inside', left, rfl⟩
    rw [hasId_iff, swept]
    refine ⟨_, List.mem_map_of_mem member', rfl, _,
      Table.mem_swept.mpr ⟨row, inside', kept, rfl⟩, ?_⟩
    exact id_release gone (sound.declared_of_mem member') row

theorem delete (table : Table) (conditions : List Sql.Condition) :
    (db.delete true table conditions).Sound := sound.remove _ _

end Sound

/-! ### Rules -/

namespace Obeys

variable (sound : db.Sound) (emptied : rule.Emptied) (obeys : db.Obeys rule)

include obeys

theorem insert {enforced : Bool} (mem : table ∈ db.tables)
    (new : List.Forall₂ rule table.declaration.columns
      (Table.newCells table.declaration assignments))
    (h : db.insert enforced table assignments = .ok later) : later.Obeys rule := by
  obtain ⟨row, made, -, rfl⟩ := exists_put_of_insert h
  intro other member
  rcases mem_put member with rfl | member
  · refine (obeys table mem).insertRow ?_
    rw [← (Table.newRow_ok made).1] at new
    exact new
  · exact obeys other member

theorem update {enforced : Bool} {conditions : List Sql.Condition} (mem : table ∈ db.tables)
    (heed : assignments.Heed rule table.declaration List.getLast?)
    (h : db.update enforced table assignments conditions = .ok later) : later.Obeys rule := by
  obtain ⟨changed, made, -, rfl⟩ := exists_put_of_update h
  intro other member
  rcases mem_put member with rfl | member
  · exact (obeys table mem).update (List.filter_sublist.subset) heed made
  · exact obeys other member

include sound emptied in
theorem delete (table : Table) (conditions : List Sql.Condition) :
    (db.delete true table conditions).Obeys rule := by
  obtain ⟨gone, swept, -⟩ := sound.exists_gone table.name (table.selects conditions)
  intro other mem
  have mem' : other ∈ (db.remove table.name (table.selects conditions)).tables := mem
  rw [swept] at mem'
  obtain ⟨old, member, rfl⟩ := List.mem_map.mp mem'
  exact (obeys old member).swept emptied (sound.declared_of_mem member)

end Obeys

/-! ### New databases -/

/-- The database that is made of nothing. -/
theorem tables_create_empty : empty.create.tables = Catalog.tables.map Table.empty := rfl

theorem sound_create_empty : empty.create.Sound := by
  refine ⟨rfl, fun table mem => ?_, by decide⟩
  rw [tables_create_empty] at mem
  obtain ⟨declaration, -, rfl⟩ := List.mem_map.mp mem
  exact ⟨.nil, fun _ _ => .nil⟩

theorem obeys_create_empty (rule : Rule) : empty.create.Obeys rule := by
  intro table mem row inside
  rw [tables_create_empty] at mem
  obtain ⟨declaration, -, rfl⟩ := List.mem_map.mp mem
  cases inside

end Database

/-! ### Statements -/

/-- The values that a statement writes heed a rule, whichever declared table it is about. -/
def Sql.Statement.Heeds (rule : Rule) : Sql.Statement → Prop
  | .insert name values => ∀ declaration ∈ Catalog.tables, sameName declaration.name name →
    (Assignments.ofFields values).Heed rule declaration List.head?
  | .update name values _ => ∀ declaration ∈ Catalog.tables, sameName declaration.name name →
    (Assignments.ofFields values).Heed rule declaration List.getLast?
  | .select _ _ _ _ _ | .delete _ _ => True

/-- The cells that a statement writes obey a rule, those that an insert leaves out included. -/
def Sql.Statement.Fills (rule : Rule) : Sql.Statement → Prop
  | .insert name values => ∀ declaration ∈ Catalog.tables, sameName declaration.name name →
    List.Forall₂ rule declaration.columns
      (Table.newCells declaration (Assignments.ofFields values))
  | .update name values _ => ∀ declaration ∈ Catalog.tables, sameName declaration.name name →
    (Assignments.ofFields values).Heed rule declaration List.getLast?
  | .select _ _ _ _ _ | .delete _ _ => True

/-- Where no declaration breaks a rule by itself, it is enough that the values heed it. -/
theorem Sql.Statement.Heeds.fills {rule : Rule} {statement : Sql.Statement}
    (heeds : statement.Heeds rule) (natural : rule.Natural) : statement.Fills rule := by
  cases statement with
  | select => exact trivial
  | delete => exact trivial
  | update => exact heeds
  | insert =>
    intro declaration declared named
    exact Row.Obeys.new natural declared (heeds declaration declared named)

/-- What is written into columns of text is kept as text, whatever it is. -/
theorem Sql.Statement.heeds_admits (statement : Sql.Statement) :
    statement.Heeds Column.Admits := by
  cases statement with
  | select => exact trivial
  | delete => exact trivial
  | insert => exact fun _ _ _ column _ value _ => column.admits_keep value
  | update => exact fun _ _ _ column _ value _ => column.admits_keep value

namespace Connection

variable {connection : Connection} {statement : Sql.Statement}

theorem enforced_run (statement : Sql.Statement) (connection : Connection) :
    (connection.run statement).2.enforced = connection.enforced := by
  rw [run]
  split
  · rfl
  · dsimp only
    split
    · rfl
    · split <;> rfl

/-- What a statement does to the database: nothing, or a change of the table that it is about. -/
inductive Effect (db : Database) (enforced : Bool) (table : Table) :
    Sql.Statement → Database → Prop where
  | none {statement : Sql.Statement} : Effect db enforced table statement db
  | insert {name : String} {values : Fields} {later : Database}
    (inserted : db.insert enforced table (.ofFields values) = .ok later) :
    Effect db enforced table (.insert name values) later
  | update {name : String} {values : Fields} {conditions : List Sql.Condition} {later : Database}
    (updated : db.update enforced table (.ofFields values) conditions = .ok later) :
    Effect db enforced table (.update name values conditions) later
  | delete {name : String} {conditions : List Sql.Condition} :
    Effect db enforced table (.delete name conditions) (db.delete enforced table conditions)

theorem effect_of_perform {db later : Database} {enforced : Bool} {table : Table} {reply : Reply}
    (h : perform db enforced table statement = .ok (reply, later)) :
    Effect db enforced table statement later := by
  cases statement with
  | select =>
    cases h
    exact .none
  | delete =>
    cases h
    exact .delete
  | insert => exact .insert (insert_of_perform h)
  | update => exact .update (update_of_perform h)

/-- The effect of a statement is one on a table with the name that it states. -/
theorem effect_of_run (statement : Sql.Statement) (connection : Connection) :
    (connection.run statement).2.database = connection.database ∨
      ∃ table, connection.database.table? (tableName statement) = some table ∧
        Effect connection.database connection.enforced table statement
          (connection.run statement).2.database := by
  by_cases write : writes statement = true
  · rcases ran : connection.run statement with ⟨fault | reply, later⟩
    · refine .inl ?_
      have kept := database_of_run_error (congrArg Prod.fst ran)
      rw [ran] at kept
      exact kept
    · obtain ⟨table, fit, performed⟩ := performed_of_run ran
      exact .inr ⟨table, table?_of_findTable write fit.found, effect_of_perform performed⟩
  · cases statement with
    | select => exact .inl database_of_select
    | insert => exact absurd rfl write
    | update => exact absurd rfl write
    | delete => exact absurd rfl write

/-- **A statement keeps a database sound**, where references are enforced. -/
theorem run_sound (enforced : connection.enforced = true) (sound : connection.database.Sound) :
    (connection.run statement).2.database.Sound := by
  rcases effect_of_run statement connection with same | ⟨table, found, effect⟩
  · rw [same]
    exact sound
  · obtain ⟨mem, -⟩ := Database.mem_of_table? found
    rw [enforced] at effect
    generalize (connection.run statement).2.database = later at effect ⊢
    cases effect with
    | none => exact sound
    | insert inserted => exact sound.insert mem inserted
    | update updated => exact sound.update mem updated
    | delete => exact sound.delete table _

/-- A statement hands on a rule that the cells which it writes obey. -/
theorem run_obeys {rule : Rule} (emptied : rule.Emptied) (fills : statement.Fills rule)
    (enforced : connection.enforced = true) (sound : connection.database.Sound)
    (obeys : connection.database.Obeys rule) :
    (connection.run statement).2.database.Obeys rule := by
  rcases effect_of_run statement connection with same | ⟨table, found, effect⟩
  · rw [same]
    exact obeys
  · obtain ⟨mem, named⟩ := Database.mem_of_table? found
    have declared := sound.declared_of_mem mem
    rw [enforced] at effect
    generalize (connection.run statement).2.database = later at effect ⊢
    cases effect with
    | none => exact obeys
    | insert inserted => exact obeys.insert mem (fills _ declared named) inserted
    | update updated => exact obeys.update mem (fills _ declared named) updated
    | delete => exact obeys.delete sound emptied table _

end Connection

end RowQuery
