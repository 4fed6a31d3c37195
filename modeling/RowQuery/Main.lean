import Std.Time.DateTime.Timestamp
import RowQuery.CommandLine.Run
import RowQuery.Store.Snapshot

/-!
# The program

Runs one call of the command line on real files, with the clock and with random identifiers. All
that it does itself is to read what the call needs, and to write and print what becomes of it.
-/

namespace RowQuery.Program

/-- The environment of the process; where it cannot be listed, the settings in it. -/
def environment : IO (List (String × String)) := do
  try
    let listing ← IO.FS.readFile "/proc/self/environ"
    return (Text.splitOn '\x00' listing.toList).filterMap fun entry =>
      match entry.takeWhile (· ≠ '='), entry.dropWhile (· ≠ '=') with
      | name, _ :: value => some (String.ofList name, String.ofList value)
      | _, [] => none
  catch _ =>
    [Settings.pathName, Settings.environmentName, Settings.levelName].filterMapM fun name => do
      return (← IO.getEnv name.toUpper).map fun value => (name, value)

/-- The file of settings, if there is one. -/
def settingsFile : IO (Option String) := do
  if ← ((← IO.currentDir) / ".env").pathExists then some <$> IO.FS.readFile ".env" else return none

/-- The number whose digits in base 256 are the bytes. -/
def numberOfBytes (bytes : ByteArray) : Nat :=
  bytes.toList.foldl (fun n byte => n * 256 + byte.toNat) 0

/-- The clock and random identifiers. -/
def sources : IO Sources := do
  let now ← Std.Time.Timestamp.now
  let start := numberOfBytes (← IO.getRandomBytes 16)
  let step := numberOfBytes (← IO.getRandomBytes 16)
  return {
    instant := fun _ => now.toNanosecondsSinceUnixEpoch.toInt / 1000
    identifier := fun n => Identifier.ofNat (start + n * (2 * step + 1)) }

/-- What a file holds. An empty file holds an empty database. -/
def readContent (path : String) : IO FileContent := do
  let text ← IO.FS.readFile path
  if text.isEmpty then return .database .empty
  return ((Json.read text).toOption.bind Database.ofDocument?).elim .other .database

/-- The part of the disk that a call for a path can see. -/
def disk (path : String) : IO Disk := do
  if path = Disk.memory then return .empty
  let here ← IO.currentDir
  let mut seen := Disk.empty
  for name in path :: PathName.parents path do
    if ← (here / name).isDir then
      seen := { seen with directories := Location.ofName name :: seen.directories }
    else if ← (here / name).pathExists then
      seen := seen.keep name (← if name = path then readContent name else pure .other)
  return seen

/-- Writes the file of a path if what it holds has changed. -/
def save (path : String) (before after : Disk) : IO Unit := do
  let location := Location.ofName path
  match after.file? location with
  | some (.database database) =>
    unless before.file? location = some (.database database) do
      IO.FS.createDirAll (PathName.parent path)
      let text := if database = .empty then "" else database.document.compact
      IO.FS.writeFile path text
  | some .other | none => pure ()

/-- Prints what a call comes to. -/
def print (outcome : Outcome) : IO Unit :=
  match outcome with
  | .stopped .help => IO.print (Output.ofLines CommandName.usage).content
  | .stopped .usage => IO.eprint (Output.ofLines CommandName.usage).content
  | .printed _ output => IO.print output.content
  | .broken breakdown => IO.eprintln (breakdown.kind ++ ": " ++ breakdown.message)

end RowQuery.Program

open RowQuery in
/-- Runs a call. -/
def main (words : List String) : IO UInt32 := do
  let around : Surroundings :=
    ⟨← Program.environment, ← Program.settingsFile, ← Program.sources, "3.40"⟩
  let path := (CommandLine.path? around words).getD Disk.memory
  let before ← Program.disk path
  let (outcome, after) := CommandLine.run around words ⟨before, .none⟩
  Program.save path before after.disk
  Program.print outcome
  return outcome.exitCode.toUInt32
