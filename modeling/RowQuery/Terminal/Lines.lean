import RowQuery.Terminal.CellWidth
import RowQuery.Text.Blank

/-!
# Lines on a terminal

A text is shown in lines that are not wider than the terminal. A line is broken between words, and
inside a word only if the word is too wide for a line by itself.

* `Lines.wrap` are the lines of a text.
* `Lines.centred` puts a line in the middle.

## Design notes

A word goes with the blanks after it, and the first word of a line of text with those before it.
Blanks at the end of a line may stand past its width, and are cut off there.
-/

namespace RowQuery.Terminal.Lines

/-! ### Tabs -/

/-- The distance of the places that tabs lead to. -/
def tabWidth : Nat := 8

/-- A line with blanks for its tabs, from a cell on. -/
def expandFrom (cell : Nat) : List Char → List Char
  | [] => []
  | '\t' :: rest =>
    let gap := tabWidth - cell % tabWidth
    List.replicate gap ' ' ++ expandFrom (cell + gap) rest
  | c :: rest => c :: expandFrom (cell + cellWidth c) rest

/-- A line with blanks for its tabs. -/
def expand (line : List Char) : List Char := expandFrom 0 line

/-! ### Breaking a line -/

/-- The words of a line, each with the blanks after it and the first with those before it. -/
def wordsFrom (word : List Char) (ended : Bool) : List Char → List (List Char)
  | [] => if word.all Text.isBlank then [] else [word]
  | c :: rest =>
    if Text.isBlank c then wordsFrom (word ++ [c]) (word.any (!Text.isBlank ·)) rest
    else if ended then word :: wordsFrom [c] false rest
    else wordsFrom (word ++ [c]) false rest

/-- The words of a line. -/
def words (line : List Char) : List (List Char) := wordsFrom [] false line

/-- Cuts a text into parts of a width, where `part` has been read and takes `taken` cells. -/
def chopFrom (width : Nat) (part : List Char) (taken : Nat) : List Char → List (List Char)
  | [] => [part]
  | c :: rest =>
    if width < taken + cellWidth c then part :: chopFrom width [c] (cellWidth c) rest
    else chopFrom width (part ++ [c]) (taken + cellWidth c) rest

/-- Cuts a text into parts of a width. -/
def chop (width : Nat) (text : List Char) : List (List Char) := chopFrom width [] 0 text

/-- The lines that words make, where `line` has been written and takes `taken` cells. -/
def fill (width : Nat) (line : List Char) (taken : Nat) : List (List Char) → List (List Char)
  | [] => [line]
  | word :: rest =>
    let needed := cells (Text.trimRight word)
    if taken + needed ≤ width then fill width (line ++ word) (taken + cells word) rest
    else if width < needed then
      let parts := chop width word
      let last := parts.getLastD []
      (if line = [] then [] else [line]) ++ parts.dropLast ++ fill width last (cells last) rest
    else line :: fill width word (cells word) rest

/-- The beginning of a text that fills a width, with a blank for half a character. -/
def crop (width : Nat) (text : List Char) : List Char :=
  let kept := (chop width text).headD []
  kept ++ List.replicate (width - cells kept) ' '

/-- A line without the blanks past a width. -/
def trimPast (width : Nat) (line : List Char) : List Char :=
  let blanks := line.length - (Text.trimRight line).length
  let line := line.take (line.length - min blanks (line.length - width))
  if width < cells line then crop width line else line

/-- The lines of a line of text. -/
def wrapLine (width : Nat) (line : List Char) : List (List Char) :=
  let line := expand line
  match words line with
  | [] => [trimPast width line]
  | words => (fill width [] 0 words).map (trimPast width)

/-- The lines of a text. -/
def wrap (width : Nat) (text : List Char) : List (List Char) :=
  (Text.splitOn '\n' text).flatMap (wrapLine width)

/-! ### The middle -/

/-- A line in the middle of a width, without the blanks at its end. -/
def centred (width : Nat) (line : List Char) : List Char :=
  let line := Text.trimRight line
  let gap := width - cells line
  List.replicate (gap / 2) ' ' ++ line ++ List.replicate (gap - gap / 2) ' '

end RowQuery.Terminal.Lines
