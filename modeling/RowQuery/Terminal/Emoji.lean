import RowQuery.Terminal.EmojiTable
import RowQuery.Text.Blank
import RowQuery.Text.Lower

/-!
# Emoji by name

An emoji can be written as its name between two colons, with a dash and a word in front of the
second colon for the way it is to be shown.

* `Emoji.replace` puts emoji in the place of their names. What is between two colons and names none
  stays as it is.
-/

namespace RowQuery.Terminal.Emoji

/-- The emoji of a name, out of words that are names and emoji in turn. -/
def find? (name : List Char) : List (List Char) → Option (List Char)
  | other :: emoji :: rest => if other = name then some emoji else find? name rest
  | _ => none

/-- The emoji of a name. -/
def named? (name : List Char) : Option (List Char) :=
  EmojiTable.all.findSome? fun names => find? name (Text.words names.toList)

/-- The ways to show an emoji, each with the mark that asks for it. -/
def variants : List (String × Char) := [("-emoji", '\uFE0F'), ("-text", '\uFE0E')]

/-- The emoji that is written between two colons. -/
def written? (inner : List Char) : Option (List Char) :=
  match variants.find? fun (ending, _) => ending.toList.isSuffixOf inner with
  | some (ending, mark) =>
    (named? (Text.lowerChars (inner.take (inner.length - ending.length)))).map (· ++ [mark])
  | none => named? (Text.lowerChars inner)

/-- Whether a character can stand in a name. -/
def inName (c : Char) : Bool := c ≠ ':' && !Text.isBlank c

/-- The text with emoji in the place of their names. -/
def replace : List Char → List Char
  | [] => []
  | c :: rest =>
    if c ≠ ':' then c :: replace rest
    else
      let name := rest.takeWhile inName
      match _after : rest.dropWhile inName with
      | ':' :: after =>
        (written? name).getD (':' :: name ++ [':']) ++ replace after
      | _ => ':' :: replace rest
termination_by text => text.length
decreasing_by
  · simp
  · have shorter := (List.dropWhile_suffix (l := rest) inName).length_le
    simp only [_after, List.length_cons] at shorter
    simp only [List.length_cons]
    omega
  · simp

end RowQuery.Terminal.Emoji
