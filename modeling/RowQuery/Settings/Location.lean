import RowQuery.Settings.PathName

/-!
# Places in the tree of directories

A name of a file is a way through directories, which can lead up as well as down. Names that lead
to the same place stand for the same file.

* `Location.ofName` is the place that a name leads to.

## Design notes

A way begins at the root, or at the directory that one is in. What is above that directory has no
name here, so a way counts how far up it begins.
-/

namespace RowQuery

/-- A place in the tree of directories. -/
structure Location where
  /-- How far above the present directory the way begins; at the root if there is no number. -/
  above : Option Nat
  /-- The names on the way down. -/
  steps : List (List Char)
deriving DecidableEq

namespace Location

/-- Where a name begins. -/
def start (name : String) : Location :=
  ⟨if PathName.root name.toList = [] then some 0 else none, []⟩

/-- The directory that a place is in. The root is in itself. -/
def up (location : Location) : Location :=
  match location.steps with
  | [] => { location with above := location.above.map (· + 1) }
  | steps => { location with steps := steps.dropLast }

/-- The step that leads up. -/
def upStep : List Char := ['.', '.']

/-- The place that a step leads to. -/
def enter (location : Location) (step : List Char) : Location :=
  if step = upStep then location.up else { location with steps := location.steps ++ [step] }

/-- The place that a name leads to. -/
def ofName (name : String) : Location := (PathName.parts name.toList).foldl enter (start name)

end Location

end RowQuery
