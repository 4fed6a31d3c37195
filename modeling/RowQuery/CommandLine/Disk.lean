import RowQuery.Json.Display
import RowQuery.Settings.Location
import RowQuery.Store.Database
import RowQuery.Text.Basic

/-!
# Databases on a disk

Where databases are kept between calls: in files, in directories that are made when they are
needed.

* `Disk.load` opens the file of a name; a file that is missing is made, and the directories above
  it too.
* `Disk.has` tells whether there is something of a name.
* `Disk.keep` writes a file.

## Design notes

Names are in their plain form, as `PathName.normalize` makes them. The root, the directory that
one is in and those above it are always there. A step up leads through a directory that has to be
there as well. The directories that have been made before a fault stay.
-/

namespace RowQuery

/-- What a file holds. -/
inductive FileContent where
  | database (database : Database)
  /-- Something that is no database. -/
  | other
deriving DecidableEq

/-- Files and directories. -/
structure Disk where
  files : List (Location × FileContent)
  directories : List Location
deriving DecidableEq

/-- Why a name cannot be followed. -/
inductive LookFault where
  /-- A directory is not there. -/
  | missing
  /-- A file is where a directory should be. -/
  | belowFile
  /-- The name, or a step of it, is too long. -/
  | tooLong
  /-- The name has a null character. -/
  | nullCharacter
deriving DecidableEq

/-- Why a file cannot be opened. -/
inductive OpenFault where
  /-- The engine cannot open the file. -/
  | cannotOpen
  /-- A file is where a directory should be made. -/
  | isFile (name : String)
  /-- A name cannot be followed. -/
  | look (fault : LookFault) (name : String)
deriving DecidableEq

namespace OpenFault

/-- The class of a fault. -/
def kind : OpenFault → String
  | cannotOpen => "OperationalError"
  | isFile _ => "FileExistsError"
  | look .missing _ => "FileNotFoundError"
  | look .belowFile _ => "NotADirectoryError"
  | look .tooLong _ => "OSError"
  | look .nullCharacter _ => "ValueError"

/-- The wording of a fault of the system, with its number. -/
def numbered (number : Nat) (text name : String) : String :=
  "[Errno " ++ toString number ++ "] " ++ text ++ ": " ++ String.ofList (Json.quoted name)

/-- The wording of a fault. -/
def message : OpenFault → String
  | cannotOpen => "unable to open database file"
  | isFile name => numbered 17 "File exists" name
  | look .missing name => numbered 2 "No such file or directory" name
  | look .belowFile name => numbered 20 "Not a directory" name
  | look .tooLong name => numbered 36 "File name too long" name
  | look .nullCharacter _ => "embedded null byte"

end OpenFault

namespace Disk

/-- The name of a database that is never kept. -/
def memory : String := ":memory:"

/-- The disk without files. -/
def empty : Disk := ⟨[], []⟩

/-! ### Files and directories -/

/-- What the file at a place holds. -/
def file? (disk : Disk) (location : Location) : Option FileContent := disk.files.lookup location

/-- Whether there is a file at a place. -/
def hasFile (disk : Disk) (location : Location) : Bool := (disk.file? location).isSome

/-- Whether there is a directory at a place. -/
def hasDirectory (disk : Disk) (location : Location) : Bool :=
  location.steps = [] || disk.directories.contains location

/-- The disk with a file at a place. -/
def put (disk : Disk) (location : Location) (content : FileContent) : Disk :=
  { disk with files := (location, content) :: disk.files.filter (·.1 ≠ location) }

/-! ### Following names -/

/-- The greatest number of bytes in a step of a name. -/
def maxStep : Nat := 255

/-- The greatest number of bytes in a name. -/
def maxName : Nat := 4095

/-- The place that a step from a directory leads to. -/
def step (location : Location) (step : List Char) : Except LookFault Location :=
  if maxStep < Text.bytes step then .error .tooLong else .ok (location.enter step)

/-- The directory that a step from a directory leads to. -/
def enter (disk : Disk) (location : Location) (name : List Char) : Except LookFault Location := do
  let location ← step location name
  if disk.hasDirectory location then .ok location
  else if disk.hasFile location then .error .belowFile
  else .error .missing

/-- The place that a name leads to. All but the last step have to lead to directories. -/
def locate (disk : Disk) (name : String) : Except LookFault Location :=
  let chars := name.toList
  let parts := PathName.parts chars
  if chars.contains '\x00' then .error .nullCharacter
  else if maxName < Text.bytes chars then .error .tooLong
  else do
    let directory ← parts.dropLast.foldlM disk.enter (Location.start name)
    match parts.getLast? with
    | none => .ok directory
    | some last => step directory last

/-- Whether there is something of a name. -/
def has (disk : Disk) (name : String) : Except OpenFault Bool :=
  match disk.locate name with
  | .ok location => .ok (disk.hasDirectory location || disk.hasFile location)
  | .error .tooLong => .error (.look .tooLong name)
  | .error _ => .ok false

/-! ### Making directories -/

/-- The disk with a directory of a name, in a directory that is there. -/
def makeOne (disk : Disk) (name : String) : Except OpenFault Disk :=
  match disk.locate name with
  | .error fault => .error (.look fault name)
  | .ok location =>
    if disk.hasDirectory location then .ok disk
    else if disk.hasFile location then .error (.isFile name)
    else .ok { disk with directories := location :: disk.directories }

/-- Makes the directory with a root and parts, of which the last one comes first, and those above
it as far as they are missing. -/
def makeDirectories (root : List Char) : List (List Char) → Disk → Except OpenFault Unit × Disk
  | [], disk => (.ok (), disk)
  | last :: above, disk =>
    let name := PathName.assemble root (last :: above).reverse
    match disk.makeOne name with
    | .ok disk => (.ok (), disk)
    | .error (.look .missing _) =>
      match makeDirectories root above disk with
      | (.error fault, disk) => (.error fault, disk)
      | (.ok (), disk) =>
        match disk.makeOne name with
        | .ok disk => (.ok (), disk)
        | .error fault => (.error fault, disk)
    | .error fault => (.error fault, disk)

/-- Makes the directory of a name. -/
def makeDirectory (disk : Disk) (name : String) : Except OpenFault Unit × Disk :=
  makeDirectories (PathName.root name.toList) (PathName.parts name.toList).reverse disk

/-! ### Databases -/

/-- The greatest number of bytes in a name that the engine opens. -/
def maxOpened : Nat := 487

/-- The number of bytes by which the name of a journal is longer than that of its database. -/
def journalBytes : Nat := 8

/-- Whether a database of a name can be written: there has to be room for the name of a journal. -/
def isWritable (name : String) : Bool :=
  let last := (PathName.parts name.toList).getLastD []
  name = memory || decide (Text.bytes last + journalBytes ≤ maxStep)

/-- The disk with a file of a name. -/
def keep (disk : Disk) (name : String) (content : FileContent) : Disk :=
  if name = memory then disk else disk.put (Location.ofName name) content

/-- Opens the file of a name in a directory that is there. -/
def openFile (disk : Disk) (name : String) : Except OpenFault FileContent :=
  match disk.locate name with
  | .error .nullCharacter => .error (.look .nullCharacter name)
  | .error _ => .error .cannotOpen
  | .ok location =>
    if disk.hasDirectory location || decide (maxOpened < Text.bytes name.toList) then
      .error .cannotOpen
    else .ok ((disk.file? location).getD (.database .empty))

/-- What the file of a name holds, and the disk on which there is such a file. -/
def load (disk : Disk) (name : String) : Except OpenFault FileContent × Disk :=
  if name = memory then (.ok (.database .empty), disk)
  else match disk.makeDirectory (PathName.parent name) with
    | (.error fault, disk) => (.error fault, disk)
    | (.ok (), disk) =>
      match disk.openFile name with
      | .error fault => (.error fault, disk)
      | .ok content => (.ok content, disk.keep name content)

end Disk

end RowQuery
