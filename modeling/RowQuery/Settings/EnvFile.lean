import RowQuery.Text.Blank

/-!
# Files of assignments

A file of settings has an assignment on a line, `NAME=value`, perhaps with `export` before it.
Values can stand between quotes, with escapes, and run over several lines then; what follows a
`#` after a blank is a comment. A line that is no assignment is passed over.

* `EnvFile.parse` reads the assignments of a text.
* `EnvFile.values` also puts in the values that other values refer to, as `${NAME}` or
  `${NAME:-default}`.
-/

namespace RowQuery.EnvFile

/-- The text with every line break written as a line feed. -/
def unifyLines : List Char → List Char
  | '\r' :: '\n' :: rest => '\n' :: unifyLines rest
  | '\r' :: rest => '\n' :: unifyLines rest
  | c :: rest => c :: unifyLines rest
  | [] => []

/-- Whether a character is blank inside a line. -/
def isInlineBlank (c : Char) : Bool := Text.isBlank c && c ≠ '\r' && c ≠ '\n'

/-- The text after the blanks inside a line that it begins with. -/
def skipInline (text : List Char) : List Char := text.dropWhile isInlineBlank

/-- The text after the line that it begins with. -/
def dropLine (text : List Char) : List Char := (text.dropWhile (· ≠ '\n')).drop 1

/-- What stands before the closing quote, and the text after it. The character after a backslash,
which must not end the line, does not close. -/
def quoted? (quote : Char) : List Char → Option (List Char × List Char)
  | [] => none
  | '\\' :: rest =>
    match rest with
    | [] | '\n' :: _ => none
    | d :: rest => (quoted? quote rest).map fun (body, after) => ('\\' :: d :: body, after)
  | c :: rest =>
    if c = quote then some ([], rest)
    else (quoted? quote rest).map fun (body, after) => (c :: body, after)

/-- The character of an escape between double quotes. -/
def doubleEscape? (c : Char) : Option Char :=
  match c with
  | '\\' | '\'' | '"' => some c
  | 'a' => some '\x07'
  | 'b' => some '\x08'
  | 'f' => some '\x0c'
  | 'n' => some '\n'
  | 'r' => some '\r'
  | 't' => some '\t'
  | 'v' => some '\x0b'
  | _ => none

/-- The character of an escape between single quotes. -/
def singleEscape? (c : Char) : Option Char := if c = '\\' || c = '\'' then some c else none

/-- The text with its escapes read; other backslashes stay. -/
def unescape (escape? : Char → Option Char) : List Char → List Char
  | '\\' :: c :: rest =>
    match escape? c with
    | some d => d :: unescape escape? rest
    | none => '\\' :: unescape escape? (c :: rest)
  | c :: rest => c :: unescape escape? rest
  | [] => []

/-- The text up to blanks that a `#` follows. -/
def beforeComment : List Char → List Char
  | [] => []
  | c :: rest =>
    if Text.isBlank c && (rest.dropWhile Text.isBlank).head? = some '#' then []
    else c :: beforeComment rest

/-- A value, and the text after it; the blanks in front of the value are still there. -/
def readValue? (text : List Char) : Option (List Char × List Char) :=
  match skipInline text with
  | '\'' :: rest =>
    (quoted? '\'' rest).map fun (body, after) => (unescape singleEscape? body, after)
  | '"' :: rest =>
    (quoted? '"' rest).map fun (body, after) => (unescape doubleEscape? body, after)
  | _ =>
    let line := beforeComment (text.takeWhile (· ≠ '\n'))
    some (Text.trimRight (skipInline line), text.dropWhile (· ≠ '\n'))

/-- The text after a comment and the end of the line, if there is nothing else on the line. -/
def endLine? (text : List Char) : Option (List Char) :=
  let rest := match skipInline text with
    | '#' :: comment => comment.dropWhile (· ≠ '\n')
    | rest => rest
  match rest with
  | [] => some []
  | '\n' :: after => some after
  | _ => none

/-- The text after the word `export` and blanks, if it begins so. -/
def skipExport (text : List Char) : List Char :=
  let word := "export".toList
  if word.isPrefixOf text && (text.drop word.length).head?.any isInlineBlank then
    skipInline (text.drop word.length)
  else text

/-- A name, and the text after it. -/
def readName? (text : List Char) : Option (List Char × List Char) :=
  match text with
  | '\'' :: rest =>
    match rest.takeWhile (· ≠ '\''), rest.dropWhile (· ≠ '\'') with
    | [], _ => none
    | name, _ :: after => some (name, after)
    | _, [] => none
  | _ =>
    let inName (c : Char) := c ≠ '=' && c ≠ '#' && !Text.isBlank c
    match text.takeWhile inName with
    | [] => none
    | name => some (name, text.dropWhile inName)

/-- What a line states: a name, and a value if there is one. -/
abbrev Binding := String × Option String

/-- What a line states, if it ends after that; the rest of the line is passed over if not. -/
def finishLine (binding : Binding) (text : List Char) : Option Binding × List Char :=
  match endLine? text with
  | some rest => (some binding, rest)
  | none => (none, dropLine text)

/-- What the text begins with, which is not blank: an assignment, if there is one, and the text
after it. Where that is no assignment, what is left of the line is passed over. -/
def readBinding (text : List Char) : Option Binding × List Char :=
  let text := skipExport text
  match readName? text with
  | none => (none, dropLine text)
  | some (name, afterName) =>
    match skipInline afterName with
    | '=' :: afterSign =>
      match readValue? afterSign with
      | some (value, after) => finishLine (String.ofList name, some (String.ofList value)) after
      | none => (none, dropLine afterSign)
    | after => finishLine (String.ofList name, none) after

/-- The assignments of a text whose line breaks are line feeds. -/
def bindings (text : List Char) : List Binding :=
  match text.dropWhile Text.isBlank with
  | [] => []
  | c :: rest =>
    let (found, after) := readBinding (c :: rest)
    -- each step takes a character at least
    if after.length < text.length then found.toList ++ bindings after else []
termination_by text.length

/-- The assignments of a text. -/
def parse (text : String) : List Binding := bindings (unifyLines text.toList)

/-! ### References -/

/-- A reference without the `${` it begins with: the name, the default and the text after it. -/
def readReference? (text : List Char) : Option (String × List Char × List Char) :=
  let name := String.ofList (text.takeWhile fun c => c ≠ '\x7d' && c ≠ ':')
  match text.dropWhile fun c => c ≠ '\x7d' && c ≠ ':' with
  | '\x7d' :: after => some (name, [], after)
  | ':' :: '-' :: rest =>
    match rest.dropWhile (· ≠ '\x7d') with
    | _ :: after => some (name, rest.takeWhile (· ≠ '\x7d'), after)
    | [] => none
  | _ => none

/-- A text with its references replaced by values. -/
def interpolate (lookup : String → Option String) (text : List Char) : List Char :=
  match text with
  | '$' :: '\x7b' :: rest =>
    match readReference? rest with
    | some (name, default, after) =>
      let value := match lookup name with
        | some s => s.toList
        | none => default
      if after.length < rest.length then value ++ interpolate lookup after else value
    | none => '$' :: interpolate lookup ('\x7b' :: rest)
  | c :: rest => c :: interpolate lookup rest
  | [] => []
termination_by text.length

/-- The last binding of a name. -/
def find? (known : List Binding) (name : String) : Option (Option String) :=
  (known.reverse.find? (·.1 = name)).map (·.2)

/-- Replaces the references in assignments, one after the other. A name may refer to an earlier
assignment or to the environment; one without a value is empty. -/
def resolve (environment : List (String × String)) (known : List Binding) :
    List Binding → List Binding
  | [] => known
  | (name, none) :: rest => resolve environment (known ++ [(name, none)]) rest
  | (name, some value) :: rest =>
    let lookup (other : String) : Option String :=
      match find? known other with
      | some bound => some (bound.getD "")
      | none => (environment.reverse.find? (·.1 = other)).map (·.2)
    let text := String.ofList (interpolate lookup value.toList)
    resolve environment (known ++ [(name, some text)]) rest

/-- The assignments of a text with their references replaced. -/
def values (environment : List (String × String)) (text : String) : List Binding :=
  resolve environment [] (parse text)

end RowQuery.EnvFile
