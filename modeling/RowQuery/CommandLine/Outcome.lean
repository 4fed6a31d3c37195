import RowQuery.CommandLine.Arguments
import RowQuery.CommandLine.Disk
import RowQuery.Json.Reader
import RowQuery.Settings.Basic
import RowQuery.Store.Fault
import RowQuery.Terminal.Markup

/-!
# Outcomes of calls

What a call on the command line comes to: something printed and an exit code.

* `Outcome.exitCode` is the exit code.
* `Output.content` is what is printed.
* `Overview.text` draws a table.
-/

namespace RowQuery

/-- A table to be printed: what is seen of its title, the heads of its columns and its rows. -/
structure Overview where
  title : List Char
  heads : List String
  rows : List (List String)
deriving DecidableEq

namespace Overview

open Terminal

/-- The number of cells of a text. -/
def cellsOf (text : String) : Nat := cells text.toList

/-- The width of each column: that of its widest cell. -/
def widths (overview : Overview) : List Nat :=
  overview.rows.foldl (fun widths row => (widths.zip row).map fun (width, text) =>
    max width (cellsOf text)) (overview.heads.map cellsOf)

/-- The width of the table, with a blank on both sides of a text and a line on both sides of a
column. -/
def width (overview : Overview) : Nat :=
  overview.widths.foldl (fun total width => total + width + 3) 1

/-- The lines of the title. -/
def titleLines (overview : Overview) : List (List Char) :=
  (Lines.wrap overview.width overview.title).map (Lines.centred overview.width)

/-- The first line of the title. -/
def caption (overview : Overview) : String :=
  String.ofList (Text.trim (overview.titleLines.headD []))

/-- A line without texts, made from its left end, its filling, its crossings and its right end. -/
def ruler (left fill cross right : Char) (widths : List Nat) : List Char :=
  left :: Text.joinWith [cross] (widths.map fun width => List.replicate (width + 2) fill) ++ [right]

/-- A text in its column; numbers stand to the right. -/
def cell (toRight : Bool) (width : Nat) (text : String) : List Char :=
  let gap := List.replicate (width - cellsOf text) ' '
  if toRight then ' ' :: gap ++ text.toList ++ [' '] else ' ' :: text.toList ++ gap ++ [' ']

/-- A line with texts, of which the second is a number. -/
def line (bar : Char) (widths : List Nat) (texts : List String) : List Char :=
  bar :: Text.joinWith [bar] ((widths.zip texts).zipIdx.map fun ((width, text), column) =>
    cell (column = 1) width text) ++ [bar]

/-- The table, drawn. -/
def text (overview : Overview) : String :=
  let widths := overview.widths
  String.ofList (Text.joinWith ['\n'] (
    overview.titleLines
    ++ [ruler '┏' '━' '┳' '┓' widths, line '┃' widths overview.heads,
      ruler '┡' '━' '╇' '┩' widths]
    ++ overview.rows.map (line '│' widths)
    ++ [ruler '└' '─' '┴' '┘' widths, []]))

end Overview

/-- What a call prints. -/
inductive Output where
  | text (text : String)
  | answer (answer : Answer)
  | overview (overview : Overview)

namespace Output

/-- Lines as an output. -/
def ofLines (lines : List String) : Output :=
  .text (String.join (lines.map (· ++ "\n")))

/-- What is printed of an output. -/
def content : Output → String
  | text s => s
  | answer a => (Answer.document a).indented ++ "\n"
  | overview table => table.text

end Output

/-- Why a call breaks down. -/
inductive Breakdown where
  | settings (report : Report)
  | level (name : String)
  | disk (fault : OpenFault)
  | store (fault : StoreFault)
  /-- A text that cannot be shown. -/
  | markup (fault : Terminal.MarkupFault)
  /-- A document with a number that is too long. -/
  | number (error : ReadError)

namespace Breakdown

/-- The class of a breakdown. -/
def kind : Breakdown → String
  | settings _ => "ValidationError"
  | level _ | number _ => "ValueError"
  | disk fault => fault.kind
  | store fault => fault.kind
  | markup fault => fault.kind

/-- The wording of a breakdown. -/
def message : Breakdown → String
  | settings report => report.text
  | level name => Settings.unknownLevel name
  | disk fault => fault.message
  | store fault => fault.message
  | markup fault => fault.message
  | number error => error.message

end Breakdown

/-- What a call comes to. -/
inductive Outcome where
  | stopped (stop : Stop)
  | printed (succeeded : Bool) (output : Output)
  | broken (breakdown : Breakdown)

/-- The exit code of a call. -/
def Outcome.exitCode : Outcome → Nat
  | .stopped .usage => 2
  | .stopped .help => 0
  | .printed succeeded _ => if succeeded then 0 else 1
  | .broken _ => 1

end RowQuery
