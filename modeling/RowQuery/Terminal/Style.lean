import RowQuery.Text.Blank
import RowQuery.Text.Lower

/-!
# Styles of text on a terminal

A style is named by words for its traits, its colour, the colour of its ground and a link. Several
names can stand for one style, and the normal form of a name is the same for all of them.

* `Style.read?` reads a name.
* `Style.normal` is the normal form of a name; a name that cannot be read is its own, in lower case
  and without blanks around it.
-/

namespace RowQuery.Terminal

/-- A style, in words. -/
structure Style where
  /-- The traits that are asked for, or asked not to be. -/
  traits : List (List Char × Bool)
  colour : Option (List Char)
  ground : Option (List Char)
  link : Option (List Char)
deriving DecidableEq

namespace Style

/-- The style that changes nothing. -/
def plain : Style := ⟨[], none, none, none⟩

/-! ### Traits -/

/-- The traits there are, each with the short forms of its name. -/
def traitNames : List (String × List String) := [
  ("bold", ["b"]), ("dim", ["d"]), ("italic", ["i"]), ("underline", ["u"]), ("blink", []),
  ("blink2", []), ("reverse", ["r"]), ("conceal", ["c"]), ("strike", ["s"]),
  ("underline2", ["uu"]), ("frame", []), ("encircle", []), ("overline", ["o"])]

/-- The trait that a word names. -/
def trait? (word : List Char) : Option (List Char) :=
  (traitNames.find? fun (name, short) => (name :: short).any (·.toList = word)).map
    fun (name, _) => name.toList

/-! ### Colours -/

/-- The names of colours. -/
def colourNames : String :=
  "black red green yellow blue magenta cyan white bright_black bright_red bright_green
   bright_yellow bright_blue bright_magenta bright_cyan bright_white grey0 gray0 navy_blue
   dark_blue blue3 blue1 dark_green deep_sky_blue4 dodger_blue3 dodger_blue2 green4 spring_green4
   turquoise4 deep_sky_blue3 dodger_blue1 green3 spring_green3 dark_cyan light_sea_green
   deep_sky_blue2 deep_sky_blue1 spring_green2 cyan3 dark_turquoise turquoise2 green1 spring_green1
   medium_spring_green cyan2 cyan1 dark_red deep_pink4 purple4 purple3 blue_violet orange4 grey37
   gray37 medium_purple4 slate_blue3 royal_blue1 chartreuse4 dark_sea_green4 pale_turquoise4
   steel_blue steel_blue3 cornflower_blue chartreuse3 cadet_blue sky_blue3 steel_blue1 pale_green3
   sea_green3 aquamarine3 medium_turquoise chartreuse2 sea_green2 sea_green1 aquamarine1
   dark_slate_gray2 dark_magenta dark_violet purple light_pink4 plum4 medium_purple3 slate_blue1
   yellow4 wheat4 grey53 gray53 light_slate_grey light_slate_gray medium_purple light_slate_blue
   dark_olive_green3 dark_sea_green light_sky_blue3 sky_blue2 dark_sea_green3 dark_slate_gray3
   sky_blue1 chartreuse1 light_green pale_green1 dark_slate_gray1 red3 medium_violet_red magenta3
   dark_orange3 indian_red hot_pink3 medium_orchid3 medium_orchid medium_purple2 dark_goldenrod
   light_salmon3 rosy_brown grey63 gray63 medium_purple1 gold3 dark_khaki navajo_white3 grey69
   gray69 light_steel_blue3 light_steel_blue yellow3 dark_sea_green2 light_cyan3 light_sky_blue1
   green_yellow dark_olive_green2 dark_sea_green1 pale_turquoise1 deep_pink3 magenta2 hot_pink2
   orchid medium_orchid1 orange3 light_pink3 pink3 plum3 violet light_goldenrod3 tan misty_rose3
   thistle3 plum2 khaki3 light_goldenrod2 light_yellow3 grey84 gray84 light_steel_blue1 yellow2
   dark_olive_green1 honeydew2 light_cyan1 red1 deep_pink2 deep_pink1 magenta1 orange_red1
   indian_red1 hot_pink dark_orange salmon1 light_coral pale_violet_red1 orchid2 orchid1 orange1
   sandy_brown light_salmon1 light_pink1 pink1 plum1 gold1 navajo_white1 misty_rose1 thistle1
   yellow1 light_goldenrod1 khaki1 wheat1 cornsilk1 grey100 gray100 grey3 gray3 grey7 gray7 grey11
   gray11 grey15 gray15 grey19 gray19 grey23 gray23 grey27 gray27 grey30 gray30 grey35 gray35
   grey39 gray39 grey42 gray42 grey46 gray46 grey50 gray50 grey54 gray54 grey58 gray58 grey62
   gray62 grey66 gray66 grey70 gray70 grey74 gray74 grey78 gray78 grey82 gray82 grey85 gray85
   grey89 gray89 grey93 gray93"

/-- Whether a text is a number up to a limit, in at most `length` digits. -/
def isNumber (length limit : Nat) (text : List Char) : Bool :=
  text ≠ [] && decide (text.length ≤ length) && text.all Char.isDigit
    && decide (text.foldl (fun n c => 10 * n + (c.toNat - '0'.toNat)) 0 ≤ limit)

/-- What stands in brackets after a word. -/
def inBrackets? (word : String) (text : List Char) : Option (List Char) :=
  let opening := word.toList ++ ['(']
  if opening.isPrefixOf text && text.getLast? = some ')' then
    some (text.drop opening.length).dropLast
  else none

/-- Whether a character is a digit of a colour. -/
def isHexDigit (c : Char) : Bool := c.isDigit || (decide ('a' ≤ c) && decide (c ≤ 'f'))

/-- The greatest part of a colour, and the number of the last colour. -/
def maxPart : Nat := 255

/-- Whether a word in lower case is that of a colour: a name, a number in brackets after `color`,
three parts in brackets after `rgb`, or six digits after a number sign. -/
def isColour (word : List Char) : Bool :=
  word = "default".toList || (Text.words colourNames.toList).contains word
    || (match word with
      | '#' :: digits => digits.length = 6 && digits.all isHexDigit
      | _ => false)
    || (match inBrackets? "color" word with
      | some number => isNumber 3 maxPart number
      | none => false)
    || (match inBrackets? "rgb" word with
      | some inner =>
        let parts := Text.splitOn ',' inner
        parts.length = 3 && parts.all fun part => isNumber part.length maxPart part
      | none => false)

/-! ### Names -/

/-- The style with a trait. -/
def withTrait (style : Style) (trait : List Char) (asked : Bool) : Style :=
  { style with traits := (trait, asked) :: style.traits }

/-- Reads the words of a name, on top of a style. -/
def readWords? (style : Style) : List (List Char) → Option Style
  | [] => some style
  | word :: rest =>
    let lowered := Text.lowerChars word
    if lowered = "on".toList then
      match rest with
      | ground :: rest =>
        let ground := Text.lowerChars ground
        if isColour ground then readWords? { style with ground } rest else none
      | [] => none
    else if lowered = "not".toList then
      match rest with
      | word :: rest =>
        match trait? word with
        | some trait => readWords? (style.withTrait trait false) rest
        | none => none
      | [] => none
    else if lowered = "link".toList then
      match rest with
      | link :: rest => readWords? { style with link } rest
      | [] => none
    else match trait? lowered with
      | some trait => readWords? (style.withTrait trait true) rest
      | none => if isColour lowered then readWords? { style with colour := lowered } rest else none

/-- The style of a name. -/
def read? (name : List Char) : Option Style :=
  if Text.trim name = "none".toList then some plain else readWords? plain (Text.words name)

/-- The words that a style is named by in the normal form. -/
def words (style : Style) : List (List Char) :=
  (traitNames.filterMap fun (name, _) =>
    (style.traits.lookup name.toList).map fun asked =>
      if asked then name.toList else "not ".toList ++ name.toList)
    ++ style.colour.toList
    ++ (style.ground.map ("on ".toList ++ ·)).toList
    ++ (style.link.map ("link ".toList ++ ·)).toList

/-- The name of a style in the normal form. -/
def name (style : Style) : List Char :=
  match style.words with
  | [] => "none".toList
  | words => Text.joinWith [' '] words

/-- The normal form of a name. -/
def normal (text : List Char) : List Char :=
  match read? text with
  | some style => style.name
  | none => Text.lowerChars (Text.trim text)

end Style

end RowQuery.Terminal
