import RowQuery.Json.Basic
import RowQuery.Number.Layout
import RowQuery.Text.Basic

/-!
# Writing documents

* `Json.compact` writes a document on one line without blanks.
* `Json.indented` writes it over several lines, two blanks deeper at each level.

Both keep characters outside ASCII as they are and escape only quotes, backslashes and the
controls below the space. Both are built from the same texts of scalars.
-/

namespace RowQuery.Json

/-- A hexadecimal digit, in lower case. -/
def hexDigit (n : Nat) : Char := (Nat.digitChar n)

/-- A code point as `\u` and four hexadecimal digits. -/
def unicodeEscape (code : Nat) : List Char :=
  ['\\', 'u', hexDigit (code / 4096 % 16), hexDigit (code / 256 % 16), hexDigit (code / 16 % 16),
    hexDigit (code % 16)]

/-- A character as it stands between the quotes of a string. -/
def escapeChar (c : Char) : List Char :=
  if c = '"' then ['\\', '"']
  else if c = '\\' then ['\\', '\\']
  else if c = '\n' then ['\\', 'n']
  else if c = '\r' then ['\\', 'r']
  else if c = '\t' then ['\\', 't']
  else if c = '\x0c' then ['\\', 'f']
  else if c = '\x08' then ['\\', 'b']
  else if c.toNat < 32 then unicodeEscape c.toNat
  else [c]

/-- A string with its quotes. -/
def stringText (s : String) : List Char := '"' :: s.toList.flatMap escapeChar ++ ['"']

/-- The decimal text of an integer. -/
def integerText (n : Int) : List Char :=
  if n < 0 then '-' :: Nat.toDigits 10 n.natAbs else Nat.toDigits 10 n.natAbs

/-- The text of a document that is neither an array nor an object. -/
def scalarText : Json → List Char
  | .null => "null".toList
  | .bool b => if b then "true".toList else "false".toList
  | .integer n => integerText n
  | .float x => x.text.toList
  | .string s => stringText s
  | .array _ | .object _ => []

/-! ### On one line -/

mutual

/-- A document on one line. -/
def chars : Json → List Char
  | .array items => '[' :: Text.joinWith [','] (itemTexts items) ++ [']']
  | .object fields => '{' :: Text.joinWith [','] (fieldTexts fields) ++ ['}']
  | scalar => scalarText scalar

/-- The texts of the items of an array. -/
def itemTexts : List Json → List (List Char)
  | [] => []
  | item :: rest => chars item :: itemTexts rest

/-- The texts of the fields of an object. -/
def fieldTexts : List (String × Json) → List (List Char)
  | [] => []
  | (name, value) :: rest => (stringText name ++ ':' :: chars value) :: fieldTexts rest

end

/-- A document on one line, without blanks. -/
def compact (value : Json) : String := String.ofList value.chars

/-! ### Over several lines -/

/-- A line break and the blanks of a level. -/
def lineBreak (level : Nat) : List Char := '\n' :: List.replicate (2 * level) ' '

/-- Texts between brackets, each on a line of its own. -/
def bracketed (opening closing : Char) (level : Nat) (texts : List (List Char)) : List Char :=
  if texts.isEmpty then [opening, closing]
  else opening :: lineBreak (level + 1) ++ Text.joinWith (',' :: lineBreak (level + 1)) texts ++
    lineBreak level ++ [closing]

mutual

/-- A document over several lines, whose first line stands at the given level. -/
def linesAt (level : Nat) : Json → List Char
  | .array items => bracketed '[' ']' level (itemLinesAt (level + 1) items)
  | .object fields => bracketed '{' '}' level (fieldLinesAt (level + 1) fields)
  | scalar => scalarText scalar

/-- The items of an array at a level. -/
def itemLinesAt (level : Nat) : List Json → List (List Char)
  | [] => []
  | item :: rest => linesAt level item :: itemLinesAt level rest

/-- The fields of an object at a level. -/
def fieldLinesAt (level : Nat) : List (String × Json) → List (List Char)
  | [] => []
  | (name, value) :: rest =>
    (stringText name ++ ':' :: ' ' :: linesAt level value) :: fieldLinesAt level rest

end

/-- A document over several lines. -/
def indented (value : Json) : String := String.ofList (value.linesAt 0)

end RowQuery.Json
