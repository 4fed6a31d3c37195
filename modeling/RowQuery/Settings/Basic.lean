import RowQuery.Check.Checked
import RowQuery.Json.Display
import RowQuery.Settings.EnvFile
import RowQuery.Settings.PathName
import RowQuery.Text.Lower

/-!
# Settings

Where the database is and how much is logged. Settings come from the environment, then from a file
of assignments, then from presets; the case of the letters in their names does not matter.

* `Settings.read` reads them.
* `Settings.rootLevel` is the level of logging that follows.
-/

namespace RowQuery

/-- How much is logged. -/
inductive LogLevel where
  | critical
  | error
  | warning
  | info
  | debug
  | all
deriving DecidableEq

namespace LogLevel

/-- The name of a level. -/
def name : LogLevel → String
  | critical => "CRITICAL"
  | error => "ERROR"
  | warning => "WARNING"
  | info => "INFO"
  | debug => "DEBUG"
  | all => "NOTSET"

/-- The levels by name; two of them have a second name. -/
def names : List (String × LogLevel) :=
  ([critical, error, warning, info, debug, all].map fun level => (level.name, level)) ++
    [("FATAL", critical), ("WARN", warning)]

/-- The level with a name. -/
def ofName? (name : String) : Option LogLevel := (names.find? (·.1 = name)).map (·.2)

/-- The level with a name, or the name if it is none of a level. -/
def named (name : String) : Except String LogLevel :=
  match ofName? name with
  | some level => .ok level
  | none => .error name

/-- The levels that settings can name. -/
def settable : List LogLevel := [debug, info, warning, error]

end LogLevel

/-- The settings. -/
structure Settings where
  databasePath : String
  environment : String
  logLevel : LogLevel
deriving DecidableEq

namespace Settings

/-- The name that reports give to the settings. -/
def model : String := "LocalbaseSettings"

/-- The name of the setting for the path of the database. -/
def pathName : String := "localbase_db_path"

/-- The name of the setting for the environment that the program runs in. -/
def environmentName : String := "localbase_env"

/-- The name of the setting for the level of logging. -/
def levelName : String := "log_level"

/-- The environments that there are. -/
def environments : List String := ["development", "staging", "production"]

/-- Values under their names in lower case; of names that differ in nothing else, the last one
counts. -/
def lowered (values : Fields) : Fields :=
  Fields.ofPairs (values.map fun (name, value) => (Text.lower name, value))

/-- The values of a file, by the names in it. -/
def fromFile (environment : List (String × String)) (text : String) : Fields :=
  Fields.ofPairs ((EnvFile.values environment text).map fun (name, value) =>
    (name, Json.ofOption .string value))

/-- The values that are set, each under its name in lower case. The environment comes before the
file, where a name without a value sets nothing. -/
def given (environment : List (String × String)) (file : Option String) : Fields :=
  let values := (file.map (fromFile environment)).getD []
  Fields.ofPairs ((lowered values).filter (·.2 ≠ .null) ++
    lowered (environment.map fun (name, value) => (name, .string value)))

/-- Reads the settings from the environment and the text of a file. -/
def read (environment : List (String × String)) (file : Option String) : Except Report Settings :=
  let fields := given environment file
  let words := environments.map fun word => (word, word)
  let levels := LogLevel.settable.map fun level => (level.name, level)
  let checked : Checked Settings := Settings.mk
    <$> Checked.map PathName.normalize
      (Checked.optional fields pathName "data/localbase.db" Checked.string)
    <*> Checked.optional fields environmentName "development" (Checked.literal words)
    <*> Checked.optional fields levelName .info (Checked.literal levels)
  checked.toExcept model

/-- The level of logging, where `override` replaces the one set unless it is empty; or the name
that is no level. -/
def rootLevel (settings : Settings) (override : String) : Except String LogLevel :=
  if override = "" then .ok settings.logLevel else LogLevel.named override

/-- The wording for a name that is no level. -/
def unknownLevel (name : String) : String := "Unknown level: " ++ String.ofList (Json.quoted name)

end Settings

end RowQuery
