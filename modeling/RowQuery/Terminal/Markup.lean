import RowQuery.Terminal.Emoji
import RowQuery.Terminal.Lines
import RowQuery.Terminal.Style

/-!
# Markup

Text for a terminal can say how parts of it are to look: a tag in square brackets opens a style, and
a tag with a slash closes it. A backslash takes a tag as text.

* `Markup.pieces` cuts a text into tags and what is between them.
* `Markup.render` is the text that is seen: without tags, with emoji in the place of their names,
  and without the controls that a terminal would obey. A tag that closes nothing is a fault.
* `Screen.display` is what comes of texts with markup that are printed one after the other.

## Design notes

A tag begins with a small letter, a slash, a number sign or an at sign. Any word can name a style,
so a tag that opens one is never a fault.
-/

namespace RowQuery.Terminal

/-- A tag, by its name and what is after the sign of equality. -/
structure Tag where
  name : List Char
  value : Option (List Char)
deriving DecidableEq

/-- Why a text cannot be shown. -/
inductive MarkupFault where
  /-- A tag that closes what is not open. -/
  | unmatched (tag : Tag) (position : Nat)
  /-- A tag that closes whatever is open, where nothing is. -/
  | nothingOpen (position : Nat)
deriving DecidableEq

/-- A piece of a text. -/
inductive Piece where
  | plain (text : List Char)
  | tag (position : Nat) (tag : Tag)
deriving DecidableEq

namespace Tag

/-- The tag with a text between its brackets. -/
def ofChars (text : List Char) : Tag where
  name := text.takeWhile (· ≠ '=')
  value := match text.dropWhile (· ≠ '=') with
    | [] => none
    | _ :: value => some value

/-- The text between the brackets of a tag. -/
def chars (tag : Tag) : List Char :=
  tag.name ++ match tag.value with
    | none => []
    | some value => '=' :: value

/-- What a tag closes, if it is one that closes. -/
def closes? (tag : Tag) : Option (List Char) :=
  match tag.name with
  | '/' :: name => some (Text.trim name)
  | _ => none

end Tag

namespace MarkupFault

/-- The class of a fault. -/
def kind (_ : MarkupFault) : String := "MarkupError"

/-- The wording of a fault. -/
def message : MarkupFault → String
  | unmatched tag position => "closing tag '[" ++ String.ofList tag.chars ++ "]' at position "
    ++ toString position ++ " doesn't match any open tag"
  | nothingOpen position =>
    "closing tag '[/]' at position " ++ toString position ++ " has nothing to close"

end MarkupFault

namespace Markup

/-! ### Pieces -/

/-- Whether a tag can begin with a character. -/
def beginsTag (c : Char) : Bool := c.isLower || c = '#' || c = '/' || c = '@'

/-- Whether a character can stand in a tag. -/
def inTag (c : Char) : Bool := c ≠ '[' && c ≠ ']'

/-- What is between the brackets of the tag that a text begins with, and the text after it. -/
def tag? : List Char → Option (List Char × List Char)
  | '[' :: c :: rest =>
    if beginsTag c then
      match rest.dropWhile inTag with
      | ']' :: after => some (c :: rest.takeWhile inTag, after)
      | _ => none
    else none
  | _ => none

theorem tag?_length {text inner after : List Char} (h : tag? text = some (inner, after)) :
    after.length < text.length := by
  unfold tag? at h
  split at h
  · rename_i c rest
    split at h
    · split at h
      · rename_i tail heq
        have shorter := (List.dropWhile_suffix (l := rest) inTag).length_le
        simp only [heq, List.length_cons] at shorter
        simp only [Option.some.injEq, Prod.mk.injEq] at h
        simp only [← h.2, List.length_cons]
        omega
      · simp at h
    · simp at h
  · simp at h

/-- The plain piece of a text, unless the text is empty. -/
def plainPiece (text : List Char) : List Piece := if text = [] then [] else [.plain text]

/-- The pieces of a tag with backslashes in front of it. Two of them are one, and one that is left
makes the tag a text. -/
def tagPieces (position slashes : Nat) (inner : List Char) : List Piece :=
  plainPiece (List.replicate (slashes / 2) '\\') ++
    [if slashes % 2 = 1 then .plain ('[' :: inner ++ [']'])
      else .tag (position + slashes) (.ofChars inner)]

/-- The pieces of a text that begins at a position, where `before` has been read and is plain. -/
def piecesFrom (position : Nat) (before : List Char) (text : List Char) : List Piece :=
  match text with
  | [] => plainPiece before
  | c :: rest =>
    match _found : tag? ((c :: rest).dropWhile (· = '\\')) with
    | some (inner, after) =>
      let slashes := ((c :: rest).takeWhile (· = '\\')).length
      plainPiece before ++ tagPieces position slashes inner ++
        piecesFrom (position + slashes + inner.length + 2) [] after
    | none => piecesFrom (position + 1) (before ++ [c]) rest
termination_by text.length
decreasing_by
  · exact Nat.lt_of_lt_of_le (tag?_length _found) (List.dropWhile_suffix _).length_le
  · simp

/-- The pieces of a text. -/
def pieces (text : List Char) : List Piece := piecesFrom 0 [] text

/-! ### What is seen -/

/-- A text without the backslashes in front of opening brackets. -/
def unescape : List Char → List Char
  | '\\' :: '[' :: rest => '[' :: unescape rest
  | c :: rest => c :: unescape rest
  | [] => []

/-- The controls that are left out: the bell, and those that move the place of writing. -/
def isControl (c : Char) : Bool := ['\x07', '\x08', '\x0b', '\x0c', '\r'].contains c

/-- What is seen of a plain text. -/
def plain (text : List Char) : List Char :=
  (Emoji.replace (unescape text)).filter fun c => !isControl c

/-- The names of the open tags after a tag, given those before it; the last one is first. -/
def enter (opened : List (List Char)) (position : Nat) (tag : Tag) :
    Except MarkupFault (List (List Char)) :=
  match tag.closes? with
  | none => .ok (Style.normal tag.name :: opened)
  | some [] =>
    match opened with
    | [] => .error (.nothingOpen position)
    | _ :: rest => .ok rest
  | some name =>
    let name := Style.normal name
    if opened.contains name then .ok (opened.erase name) else .error (.unmatched tag position)

/-- What is seen of pieces, where tags are open. -/
def renderPieces (opened : List (List Char)) : List Piece → Except MarkupFault (List Char)
  | [] => .ok []
  | .plain text :: rest => do return plain text ++ (← renderPieces opened rest)
  | .tag position tag :: rest => do renderPieces (← enter opened position tag) rest

/-- What is seen of a text. -/
def render (text : String) : Except MarkupFault (List Char) := renderPieces [] (pieces text.toList)

end Markup

/-! ### Printing -/

namespace Screen

/-- The number of cells in a line. -/
def width : Nat := 200

/-- What comes of one text: its lines. -/
def displayOne (text : String) : Except MarkupFault (List Char) := do
  let seen ← Markup.render text
  return (Lines.wrap width seen).flatMap (· ++ ['\n'])

/-- What comes of texts that are printed one after the other. -/
def display (texts : List String) : Except MarkupFault String := do
  return String.ofList (← texts.mapM displayOne).flatten

end Screen

end RowQuery.Terminal
