import RowQuery.Json.Writer
import RowQuery.Text.Printable

/-!
# Values inside messages

The form in which a value is shown inside the text of a message: a string by itself, and anything
else in a display notation of its own (`None`, `True`, `['a', 1]`).

* `Json.display` is that form.
* `Json.quoted` is a string in display notation: between single quotes unless it holds one and
  no double quote.
-/

namespace RowQuery.Json

/-- The last `count` hexadecimal digits of a number. -/
def hexDigits : (count : Nat) → Nat → List Char
  | 0, _ => []
  | count + 1, n => hexDigits count (n / 16) ++ [hexDigit (n % 16)]

/-- A character in display notation, between quotes `quote`. -/
def displayChar (quote c : Char) : List Char :=
  if c = quote || c = '\\' then ['\\', c]
  else if c = '\n' then ['\\', 'n']
  else if c = '\r' then ['\\', 'r']
  else if c = '\t' then ['\\', 't']
  else if Text.isPrintable c then [c]
  else if c.toNat < 0x100 then '\\' :: 'x' :: hexDigits 2 c.toNat
  else if c.toNat < 0x10000 then '\\' :: 'u' :: hexDigits 4 c.toNat
  else '\\' :: 'U' :: hexDigits 8 c.toNat

/-- A string in display notation. -/
def quoted (s : String) : List Char :=
  let quote := if s.toList.contains '\'' && !s.toList.contains '"' then '"' else '\''
  quote :: s.toList.flatMap (displayChar quote) ++ [quote]

/-- A number in display notation. -/
def displayFloat : Binary64 → String
  | .nan => "nan"
  | .infinity negative => if negative then "-inf" else "inf"
  | x => x.text

mutual

/-- A value in display notation. -/
def displayChars : Json → List Char
  | .null => "None".toList
  | .bool b => if b then "True".toList else "False".toList
  | .integer n => integerText n
  | .float x => (displayFloat x).toList
  | .string s => quoted s
  | .array items => '[' :: Text.joinWith [',', ' '] (displayItems items) ++ [']']
  | .object fields => '{' :: Text.joinWith [',', ' '] (displayFields fields) ++ ['}']

/-- The items of an array in display notation. -/
def displayItems : List Json → List (List Char)
  | [] => []
  | item :: rest => displayChars item :: displayItems rest

/-- The fields of an object in display notation. -/
def displayFields : List (String × Json) → List (List Char)
  | [] => []
  | (name, value) :: rest => (quoted name ++ ':' :: ' ' :: displayChars value) :: displayFields rest

end

/-- A value as it is shown inside a message. -/
def display : Json → String
  | .string s => s
  | value => String.ofList value.displayChars

end RowQuery.Json
