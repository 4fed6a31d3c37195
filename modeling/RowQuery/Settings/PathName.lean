import RowQuery.Text.Basic

/-!
# Names of files

A name of a file is kept in a plain form: without empty parts, without parts that mean the same
directory, and as a point where nothing is left.

* `PathName.normalize` is the plain form.
* `PathName.parent` is the directory that a name is in, `PathName.parents` all directories above.
-/

namespace RowQuery.PathName

/-- The slashes at the beginning that a plain name keeps: exactly two stay two. -/
def root (name : List Char) : List Char :=
  match (name.takeWhile (· = '/')).length with
  | 0 => []
  | 2 => ['/', '/']
  | _ => ['/']

/-- The parts of a name that count. -/
def parts (name : List Char) : List (List Char) :=
  (Text.splitOn '/' name).filter fun part => part ≠ [] && part ≠ ['.']

/-- The name made from a root and parts. -/
def assemble (root : List Char) (parts : List (List Char)) : String :=
  match root ++ Text.joinWith ['/'] parts with
  | [] => "."
  | chars => String.ofList chars

/-- The plain form of a name. -/
def normalize (name : String) : String := assemble (root name.toList) (parts name.toList)

/-- The directory that a name is in. -/
def parent (name : String) : String := assemble (root name.toList) (parts name.toList).dropLast

/-- The directories above a name, the nearest first. -/
def parents (name : String) : List String :=
  let all := parts name.toList
  ((List.range all.length).map fun n => assemble (root name.toList) (all.take n)).reverse

end RowQuery.PathName
