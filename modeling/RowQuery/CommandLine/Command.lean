import RowQuery.CommandLine.Arguments
import RowQuery.Settings.PathName

/-!
# Commands

What can be asked for on the command line.

* `Invocation.read` reads a call up to the name of its command.
* `Command.read` reads the rest.
* `CommandName.usage` tells what there is.
-/

namespace RowQuery

/-- The names of the commands. -/
inductive CommandName where
  | init
  | query
  | rpc
  | tables
  | health
  | version
deriving DecidableEq

namespace CommandName

/-- The word for a command. -/
def word : CommandName → String
  | init => "init"
  | query => "query"
  | rpc => "rpc"
  | tables => "tables"
  | health => "health"
  | version => "version"

/-- All names. -/
def all : List CommandName := [init, query, rpc, tables, health, version]

/-- The command that a word names. -/
def ofWord? (word : String) : Option CommandName := all.find? (·.word = word)

/-- What a command does. -/
def purpose : CommandName → String
  | init => "Create the desktop database tables."
  | query => "Run a query payload and print data and error."
  | rpc => "Call an RPC function and print data and error."
  | tables => "List tables with row counts and their coerced columns."
  | health => "Check configuration and database access."
  | version => "Show version information."

/-- How the program is called. -/
def usage : List String :=
  ["Usage: localbase [--log-level LEVEL] COMMAND [--db PATH] [ARGUMENTS]", "", "Commands:"] ++
    all.map fun name => "  " ++ name.word ++ ": " ++ name.purpose

end CommandName

/-- A call up to the name of its command. -/
structure Invocation where
  /-- The level of logging that is asked for; empty if none is. -/
  level : String
  command : CommandName
  rest : List String
deriving DecidableEq

namespace Invocation

/-- The option for the level of logging. -/
def levelOption : OptionName := ⟨"--log-level", none⟩

/-- Reads a call up to the name of its command. -/
def read (words : List String) : Except Stop Invocation := do
  let arguments ← Arguments.read [levelOption] false words
  match arguments.words with
  | [] => .error .usage
  | word :: rest =>
    match CommandName.ofWord? word with
    | some command => .ok ⟨(arguments.value? levelOption.name).getD "", command, rest⟩
    | none => .error .usage

end Invocation

/-- A command. A path is that of the database, where one is given. -/
inductive Command where
  /-- Creates the tables that are missing. -/
  | init (path : Option String)
  /-- Runs a query. -/
  | query (payload : String) (path : Option String)
  /-- Calls a function. -/
  | rpc (function params : String) (path : Option String)
  /-- Lists the tables. -/
  | tables (path : Option String)
  /-- Looks whether settings and database are in order. -/
  | health
  | version
deriving DecidableEq

namespace Command

/-- The path that a command is given. -/
def path? : Command → Option String
  | init path | query _ path | rpc _ _ path | tables path => path
  | health | version => none

/-- The path that a command is given, if no file can have it. -/
def badPath? (command : Command) : Option String :=
  command.path?.filter fun path => path.contains '\x00'

/-- The option for the path of the database. -/
def pathOption : OptionName := ⟨"--db", some 'd'⟩

/-- The path that the options give. -/
def path (arguments : Arguments) : Option String :=
  (arguments.value? pathOption.name).map PathName.normalize

/-- The command of a name with plain words. -/
def ofArguments (name : CommandName) (arguments : Arguments) : Except Stop Command :=
  let path := path arguments
  match name, arguments.words with
  | .init, [] => .ok (.init path)
  | .query, [payload] => .ok (.query payload path)
  | .rpc, [function] => .ok (.rpc function "\x7b\x7d" path)
  | .rpc, [function, params] => .ok (.rpc function params path)
  | .tables, [] => .ok (.tables path)
  | .health, [] => .ok .health
  | .version, [] => .ok .version
  | _, _ => .error .usage

/-- The options that a command takes. -/
def options : CommandName → List OptionName
  | .init | .query | .rpc | .tables => [pathOption]
  | .health | .version => []

/-- Reads the words after the name of a command. -/
def read (name : CommandName) (words : List String) : Except Stop Command := do
  ofArguments name (← Arguments.read (options name) true words)

end Command

end RowQuery
