import RowQuery.Text.Basic

/-!
# Words of a command line

The words of a call are options with a value, a request for help, and plain words. The value of an
option stands in the next word, whatever that looks like, or after a sign of equality; after an
option's letter it may follow at once. Two dashes end the options.

* `Arguments.read` sorts the words.
-/

namespace RowQuery

/-- An option that takes a value: its name, and the letter that stands for it if there is one. -/
structure OptionName where
  name : String
  letter : Option Char
deriving DecidableEq

/-- Why a call does nothing. -/
inductive Stop where
  /-- The words make no call. -/
  | usage
  /-- Help is asked for. -/
  | help
deriving DecidableEq

/-- The words of a call, sorted. -/
structure Arguments where
  /-- The options with their values, in order. -/
  options : List (String × String)
  words : List String
  help : Bool
deriving DecidableEq

namespace Arguments

/-- What a word is. -/
inductive Shape where
  | plain
  | help
  /-- An option whose value is the next word. -/
  | option (name : String)
  | assigned (name value : String)
  | unknown
deriving DecidableEq

/-- The option that asks for help. -/
def helpName : String := "--help"

/-- What a word is that begins with two dashes. -/
def longShape (options : List OptionName) (word : List Char) : Shape :=
  let name := String.ofList (word.takeWhile (· ≠ '='))
  match options.find? (·.name = name), word.dropWhile (· ≠ '=') with
  | some option, [] => .option option.name
  | some option, _ :: value => .assigned option.name (String.ofList value)
  | none, [] => if name = helpName then .help else .unknown
  | none, _ :: _ => .unknown

/-- What a word is that begins with one dash, where `letter` and `value` come after the dash. -/
def shortShape (options : List OptionName) (letter : Char) (value : List Char) : Shape :=
  match options.find? (·.letter = some letter), value with
  | some option, [] => .option option.name
  | some option, value => .assigned option.name (String.ofList value)
  | none, _ => .unknown

/-- What a word is. -/
def shape (options : List OptionName) (word : String) : Shape :=
  match word.toList with
  | '-' :: '-' :: rest => longShape options ('-' :: '-' :: rest)
  | '-' :: letter :: value => shortShape options letter value
  | _ => .plain

/-- Plain words only. -/
def ofWords (words : List String) : Arguments := ⟨[], words, false⟩

/-- The words with a further option in front. -/
def addOption (name value : String) (arguments : Arguments) : Arguments :=
  { arguments with options := (name, value) :: arguments.options }

/-- The words with a further plain word in front. -/
def addWord (word : String) (arguments : Arguments) : Arguments :=
  { arguments with words := word :: arguments.words }

/-- Sorts words. Where `mixed` does not hold, everything after the first plain word is plain. There
is no result if a word is no option that there is, or an option has no value. -/
def sort (options : List OptionName) (mixed : Bool) : List String → Option Arguments
  | [] => some (ofWords [])
  | word :: rest =>
    if word = "--" then some (ofWords rest)
    else match shape options word with
      | .plain =>
        if mixed then (sort options mixed rest).map (addWord word)
        else some (ofWords (word :: rest))
      | .help => (sort options mixed rest).map fun arguments => { arguments with help := true }
      | .assigned name value => (sort options mixed rest).map (addOption name value)
      | .option name =>
        match rest with
        | value :: rest => (sort options mixed rest).map (addOption name value)
        | [] => none
      | .unknown => none

/-- Reads words. A request for help comes before all that the words could mean. -/
def read (options : List OptionName) (mixed : Bool) (words : List String) :
    Except Stop Arguments :=
  match sort options mixed words with
  | none => .error .usage
  | some arguments => if arguments.help then .error .help else .ok arguments

/-- The value of an option; the last one counts. -/
def value? (arguments : Arguments) (name : String) : Option String :=
  (arguments.options.reverse.find? (·.1 = name)).map (·.2)

end Arguments

end RowQuery
