import RowQuery.CommandLine.Command
import RowQuery.CommandLine.Outcome
import RowQuery.Execution
import RowQuery.Functions
import RowQuery.Store.FamilyRecords
import RowQuery.Store.Unreadable

/-!
# Running commands

A call of the program finds databases on a disk and leaves them there for the next call.

* `CommandLine.run` runs a call, given as its words.
* `CommandLine.path?` is the path of the database that a call is about.

## Design notes

The name of the command is looked at first, then the settings, then the other words. A document
that a command takes is read before the database is opened. What is printed is markup, and so are
the names in it.
-/

namespace RowQuery

/-- What a call finds around it. -/
structure Surroundings where
  /-- The environment. -/
  environment : List (String × String)
  /-- The text of the file of settings, if there is one. -/
  settingsFile : Option String
  sources : Sources
  /-- The version that the engine goes by. -/
  engineVersion : String

/-- The settings that hold for a call. -/
def Surroundings.settings (around : Surroundings) : Except Report Settings :=
  Settings.read around.environment around.settingsFile

/-- What a call leaves for the next one. -/
structure Workplace where
  disk : Disk
  draws : Draws
deriving DecidableEq

/-- The name of the file of settings. -/
def Surroundings.settingsName : String := ".env"

/-- What the file of settings is for someone who looks for a database in it. -/
def Surroundings.settingsContent (text : String) : FileContent :=
  if text = "" then .database .empty else .other

/-- The workplace before the first call. -/
def Surroundings.workplace (around : Surroundings) : Workplace where
  disk := match around.settingsFile with
    | some text => Disk.empty.keep settingsName (settingsContent text)
    | none => .empty
  draws := .none

namespace CommandLine

/-- Texts that a call prints. -/
def lines (succeeded : Bool) (texts : List String) : Outcome :=
  match Terminal.Screen.display texts with
  | .ok text => .printed succeeded (.text text)
  | .error fault => .broken (.markup fault)

/-- An answer printed; a failure is no success. -/
def ofAnswer (answer : Answer) : Outcome :=
  .printed (match answer with
    | .ok _ => true
    | .error _ => false) (.answer answer)

/-- The path of the database: the one given, or the one of the settings. -/
def pathOr (around : Surroundings) (given : Option String) : Except Report String :=
  match given with
  | some path => .ok path
  | none => around.settings.map Settings.databasePath

/-! ### With a database -/

/-- What is done with a file: with the database in it, or without one. -/
structure Task where
  onDatabase : World Connection → Outcome × World Connection
  onOther : Draws → Outcome × Draws

/-- Does something with the file of a path, and keeps what becomes of it. -/
def withFile (path : String) (task : Task) (place : Workplace) : Outcome × Workplace :=
  match place.disk.load path with
  | (.error fault, disk) => (.broken (.disk fault), { place with disk })
  | (.ok .other, disk) =>
    let (outcome, draws) := task.onOther place.draws
    (outcome, ⟨disk, draws⟩)
  | (.ok (.database database), disk) =>
    let (outcome, world) := task.onDatabase ⟨.opened database, place.draws⟩
    (outcome, ⟨disk.keep path (.database world.state.database), world.draws⟩)

/-- Does something with the file of a path that may be given. -/
def withGiven (around : Surroundings) (given : Option String) (task : String → Task)
    (place : Workplace) : Outcome × Workplace :=
  match pathOr around given with
  | .error report => (.broken (.settings report), place)
  | .ok path => withFile path (task path) place

/-- What comes of a file without a database, where one is needed. -/
def withoutDatabase (draws : Draws) : Outcome × Draws := (.broken (.store .notDatabase), draws)

/-- Creates the tables. -/
def create (path : String) : Task where
  onDatabase world :=
    if Disk.isWritable path then
      let state := { world.state with database := world.state.database.create }
      (lines true (("✅ Initialized " ++ path) ::
        Catalog.tables.map fun table => "   • " ++ table.name), { world with state })
    else (.broken (.disk .cannotOpen), world)
  onOther := withoutDatabase

/-- Runs a query. -/
def query (sources : Sources) (document : Json) : Task where
  onDatabase world :=
    let (answer, world) :=
      (Query.document document).execute Connection.engine sources Catalog.schema world
    (ofAnswer answer, world)
  onOther draws :=
    let (answer, world) :=
      (Query.document document).execute Unreadable.engine sources Catalog.schema ⟨(), draws⟩
    (ofAnswer answer, world.draws)

/-- Calls a function. -/
def function (name : String) (params : Fields) : Task where
  onDatabase world :=
    (ofAnswer (Functions.call world.state.database.records name params).1, world)
  onOther draws := (ofAnswer (Functions.call Unreadable.records name params).1, draws)

/-- The row of an overview that describes a table. -/
def overviewRow (table : Table) : List String :=
  let traits := Catalog.schema.traits table.name
  let sorted (names : List String) :=
    Text.join ", " (names.mergeSort fun a b => decide (a ≤ b))
  [table.name, toString table.rows.length, sorted traits.booleans, sorted traits.documents,
    if traits.stamped then "✓" else ""]

/-- The tables of a database under a title, in the order of their names. -/
def overview (title : List Char) (database : Database) : Overview where
  title := title
  heads := ["Table", "Rows", "Boolean columns", "JSON columns", "updated_at"]
  rows := (database.tables.mergeSort fun a b => decide (a.name ≤ b.name)).map overviewRow

/-- Prints the tables. -/
def printTables (path : String) : Task where
  onDatabase world :=
    (match Terminal.Markup.render path with
      | .ok title => .printed true (.overview (overview title world.state.database))
      | .error fault => .broken (.markup fault), world)
  onOther := withoutDatabase

/-! ### Documents among the words -/

/-- Reads an object out of a word that is called `what`. -/
def readObject (what text : String) : Except Outcome Fields :=
  match Json.read text with
  | .ok (.object fields) => .ok fields
  | .ok _ => .error (lines false ["[red]❌ " ++ what ++ " must be a JSON object[/red]"])
  | .error error =>
    match error.fault with
    | .integerTooLong _ => .error (.broken (.number error))
    | _ => .error (lines false
        ["[red]❌ Invalid " ++ what ++ " JSON: " ++ error.message ++ "[/red]"])

/-! ### Commands -/

/-- Lists the tables of the database of a path. -/
def tables (path : String) (place : Workplace) : Outcome × Workplace :=
  match place.disk.has path with
  | .error fault => (.broken (.disk fault), place)
  | .ok true => withFile path (printTables path) place
  | .ok false =>
    (lines false ["[red]❌ Database not found: " ++ path ++ "[/red]",
      "[dim]Run 'localbase init' first.[/dim]"], place)

/-- What the check of the settings prints first. -/
def healthHead : List String := ["\n[bold]Localbase Health Check[/bold]\n"]

/-- What it prints of the settings, apart from the path. -/
def healthSettings (settings : Settings) : List String :=
  ["✅ Configuration loaded", "   Environment: " ++ settings.environment,
    "   Log level: " ++ settings.logLevel.name]

/-- What it prints of the path of the database. -/
def healthPath (settings : Settings) : String := "   Database: " ++ settings.databasePath

/-- What it prints at the end, if all is well. -/
def healthFoot (around : Surroundings) : List String :=
  ["✅ SQLite " ++ around.engineVersion ++ " reachable", "\n[green]All checks passed![/green]"]

/-- What it prints at the end, if a check fails. -/
def healthFailure (message : String) : List String :=
  ["\n[red]❌ Health check failed: " ++ message ++ "[/red]"]

/-- Checks settings and database. A path that cannot be shown is a check that fails. -/
def health (around : Surroundings) (place : Workplace) : Outcome × Workplace :=
  match around.settings with
  | .error report => (lines false (healthHead ++ healthFailure report.text), place)
  | .ok settings =>
    let head := healthHead ++ healthSettings settings
    match Terminal.Screen.display [healthPath settings] with
    | .error fault => (lines false (head ++ healthFailure fault.message), place)
    | .ok _ =>
      let head := head ++ [healthPath settings]
      match place.disk.load settings.databasePath with
      | (.error fault, disk) =>
        (lines false (head ++ healthFailure fault.message), { place with disk })
      | (.ok _, disk) => (lines true (head ++ healthFoot around), { place with disk })

/-- Runs a command. -/
def runCommand (around : Surroundings) (command : Command) (place : Workplace) :
    Outcome × Workplace :=
  match command with
  | .init path => withGiven around path create place
  | .query payload path =>
    match readObject "payload" payload with
    | .error outcome => (outcome, place)
    | .ok fields =>
      withGiven around path (fun _ => query around.sources (.object fields)) place
  | .rpc name params path =>
    match readObject "params" params with
    | .error outcome => (outcome, place)
    | .ok fields => withGiven around path (fun _ => function name fields) place
  | .tables path =>
    match pathOr around path with
    | .error report => (.broken (.settings report), place)
    | .ok path => tables path place
  | .health => health around place
  | .version => (lines true ["Localbase version 1.0.0"], place)

/-- Sets up logging. The settings count only if no level is asked for. -/
def setLevel (around : Surroundings) (level : String) : Except Breakdown LogLevel :=
  if level = "" then (around.settings.map Settings.logLevel).mapError .settings
  else (LogLevel.named level).mapError .level

/-- Runs a call. -/
def run (around : Surroundings) (words : List String) (place : Workplace) : Outcome × Workplace :=
  match Invocation.read words with
  | .error stop => (.stopped stop, place)
  | .ok invocation =>
    match setLevel around invocation.level with
    | .error breakdown => (.broken breakdown, place)
    | .ok _ =>
      match Command.read invocation.command invocation.rest with
      | .error stop => (.stopped stop, place)
      | .ok command =>
        match command.badPath? with
        | some path => (.broken (.disk (.look .nullCharacter path)), place)
        | none => runCommand around command place

/-- Runs calls one after the other. -/
def runAll (around : Surroundings) : List (List String) → Workplace → List Outcome
  | [], _ => []
  | words :: rest, place =>
    let (outcome, place) := run around words place
    outcome :: runAll around rest place

/-- The path of the database that a call is about, if it is about one. -/
def path? (around : Surroundings) (words : List String) : Option String :=
  match Invocation.read words with
  | .error _ => none
  | .ok invocation =>
    match Command.read invocation.command invocation.rest with
    | .ok (.init path) | .ok (.query _ path) | .ok (.rpc _ _ path) | .ok (.tables path) =>
      (pathOr around path).toOption
    | .ok .health => (pathOr around none).toOption
    | .ok .version | .error _ => none

end CommandLine

end RowQuery
