import ServerActions.Text.Blank
import ServerActions.Text.Lowercase
import ServerActions.Text.Table

/-!
# Styles

Descriptions of styles, such as `bold red on white`, and the one form of all descriptions of the
same style.

## Main definitions

* `Style`, `Style.ofText?` — a style, and the one that a text describes.
* `Style.text` — the description of a style in a fixed order.
* `styleName` — that description, or the text itself where it describes no style.
-/

namespace ServerActions.Console

/-- The attributes of a style, in the order in which they are listed. -/
inductive Attribute
  | bold
  | dim
  | italic
  | underline
  | blink
  | blink2
  | reverse
  | conceal
  | strike
  | underline2
  | frame
  | encircle
  | overline
  deriving DecidableEq, Repr

/-- The attributes with their names and the short names that some have. -/
def attributes : List (Attribute × List String) :=
  [(.bold, ["bold", "b"]), (.dim, ["dim", "d"]), (.italic, ["italic", "i"]),
   (.underline, ["underline", "u"]), (.blink, ["blink"]), (.blink2, ["blink2"]),
   (.reverse, ["reverse", "r"]), (.conceal, ["conceal", "c"]), (.strike, ["strike", "s"]),
   (.underline2, ["underline2", "uu"]), (.frame, ["frame"]), (.encircle, ["encircle"]),
   (.overline, ["overline", "o"])]

/-- The attribute with a name. -/
def Attribute.ofName? (name : String) : Option Attribute :=
  (attributes.find? fun a => a.2.contains name).map Prod.fst

/-- The name of an attribute. -/
def Attribute.name (a : Attribute) : String :=
  ((attributes.lookup a).bind List.head?).getD ""

/-- A style: the attributes that are on or off, the colours of the text and of the ground, and a
link. -/
structure Style where
  settings : List (Attribute × Bool)
  color : Option String
  ground : Option String
  link : Option String
  deriving DecidableEq, Repr

/-- The style that changes nothing. -/
def Style.plain : Style := ⟨[], none, none, none⟩

/-! ### Colours -/

/-- The names of colours. -/
def colorTable : String :=
  "black red green yellow blue magenta cyan white bright_black bright_red bright_green
   bright_yellow bright_blue bright_magenta bright_cyan bright_white grey0 gray0 navy_blue
   dark_blue blue3 blue1 dark_green deep_sky_blue4 dodger_blue3 dodger_blue2 green4
   spring_green4 turquoise4 deep_sky_blue3 dodger_blue1 green3 spring_green3 dark_cyan
   light_sea_green deep_sky_blue2 deep_sky_blue1 spring_green2 cyan3 dark_turquoise turquoise2
   green1 spring_green1 medium_spring_green cyan2 cyan1 dark_red deep_pink4 purple4 purple3
   blue_violet orange4 grey37 gray37 medium_purple4 slate_blue3 royal_blue1 chartreuse4
   dark_sea_green4 pale_turquoise4 steel_blue steel_blue3 cornflower_blue chartreuse3 cadet_blue
   sky_blue3 steel_blue1 pale_green3 sea_green3 aquamarine3 medium_turquoise chartreuse2
   sea_green2 sea_green1 aquamarine1 dark_slate_gray2 dark_magenta dark_violet purple
   light_pink4 plum4 medium_purple3 slate_blue1 yellow4 wheat4 grey53 gray53 light_slate_grey
   light_slate_gray medium_purple light_slate_blue dark_olive_green3 dark_sea_green
   light_sky_blue3 sky_blue2 dark_sea_green3 dark_slate_gray3 sky_blue1 chartreuse1 light_green
   pale_green1 dark_slate_gray1 red3 medium_violet_red magenta3 dark_orange3 indian_red
   hot_pink3 medium_orchid3 medium_orchid medium_purple2 dark_goldenrod light_salmon3 rosy_brown
   grey63 gray63 medium_purple1 gold3 dark_khaki navajo_white3 grey69 gray69 light_steel_blue3
   light_steel_blue yellow3 dark_sea_green2 light_cyan3 light_sky_blue1 green_yellow
   dark_olive_green2 dark_sea_green1 pale_turquoise1 deep_pink3 magenta2 hot_pink2 orchid
   medium_orchid1 orange3 light_pink3 pink3 plum3 violet light_goldenrod3 tan misty_rose3
   thistle3 plum2 khaki3 light_goldenrod2 light_yellow3 grey84 gray84 light_steel_blue1 yellow2
   dark_olive_green1 honeydew2 light_cyan1 red1 deep_pink2 deep_pink1 magenta1 orange_red1
   indian_red1 hot_pink dark_orange salmon1 light_coral pale_violet_red1 orchid2 orchid1 orange1
   sandy_brown light_salmon1 light_pink1 pink1 plum1 gold1 navajo_white1 misty_rose1 thistle1
   yellow1 light_goldenrod1 khaki1 wheat1 cornsilk1 grey100 gray100 grey3 gray3 grey7 gray7
   grey11 gray11 grey15 gray15 grey19 gray19 grey23 gray23 grey27 gray27 grey30 gray30 grey35
   gray35 grey39 gray39 grey42 gray42 grey46 gray46 grey50 gray50 grey54 gray54 grey58 gray58
   grey62 gray62 grey66 gray66 grey70 gray70 grey74 gray74 grey78 gray78 grey82 gray82 grey85
   gray85 grey89 gray89 grey93 gray93"

/-- The names of colours. -/
def colorNames : List String := (Text.wordsOf colorTable).map String.ofList

/-- The number between a word with an opening bracket and a closing bracket at the end. -/
def between? (start : String) (word : List Char) : Option (List Char) :=
  if start.toList.isPrefixOf word && word.getLast? = some ')' then
    some ((word.drop start.length).dropLast)
  else none

/-- A number of decimal digits that is below 256. -/
def isChannel (cs : List Char) : Bool :=
  !cs.isEmpty && cs.all (fun c => (Text.decimal? c).isSome)
    && ((Text.decimalValue 0 cs).getD 256) < 256

/-- Whether a word in lower case is a colour: a name, six hexadecimal digits behind a hash, a number
or three of them. -/
def isColor (word : List Char) : Bool :=
  if colorNames.contains (String.ofList word) || word = "default".toList then true
  else match word with
    | '#' :: ds => ds.length = 6 && ds.all fun d => (Text.hexValue? d).isSome
    | _ =>
      match between? "color(" word, between? "rgb(" word with
      | some ds, _ => ds.length ≤ 3 && ds.all Char.isDigit && isChannel ds
      | none, some ds =>
        let parts := Text.cut ',' ds
        parts.length = 3 && parts.all isChannel
      | none, none => false

/-! ### Descriptions -/

/-- The words of a text between blanks. -/
def blankWords (cs : List Char) : List (List Char) :=
  (Text.cut ' ' (cs.map fun c => if Text.isBlank c then ' ' else c)).filter (!·.isEmpty)

/-- An attribute turned on or off; it is listed once. -/
def Style.withSetting (s : Style) (a : Attribute) (on : Bool) : Style :=
  { s with settings := (s.settings.filter fun e => e.1 ≠ a) ++ [(a, on)] }

/-- The words that go together with the one after them. -/
def pairWords : List String := ["on", "not", "link"]

/-- A style with what a pair of words adds to it. -/
def Style.withPair? (s : Style) (word : String) (next : List Char) : Option Style :=
  if word = "on" then
    let color := Text.lower next
    if isColor color then some { s with ground := some (String.ofList color) } else none
  else if word = "not" then
    (Attribute.ofName? (String.ofList next)).map fun a => s.withSetting a false
  else some { s with link := some (String.ofList next) }

/-- A style with what a word adds to it. -/
def Style.withWord? (s : Style) (word : String) : Option Style :=
  match Attribute.ofName? word with
  | some a => some (s.withSetting a true)
  | none => if isColor word.toList then some { s with color := some word } else none

/-- A style with what the words of a description add to it. -/
def Style.withWords (s : Style) : List (List Char) → Option Style
  | [] => some s
  | word :: rest =>
    let name := String.ofList (Text.lower word)
    if pairWords.contains name then
      match rest with
      | [] => none
      | next :: rest => (s.withPair? name next).bind fun s => s.withWords rest
    else (s.withWord? name).bind fun s => s.withWords rest

/-- The style that a text describes. -/
def Style.ofText? (cs : List Char) : Option Style :=
  let words := blankWords cs
  if words = ["none".toList] then some .plain else Style.plain.withWords words

/-- The description of a style in a fixed order. -/
def Style.text (s : Style) : String :=
  let settings := attributes.filterMap fun a => (s.settings.lookup a.1).map fun on =>
    if on then a.1.name else "not " ++ a.1.name
  let words := settings ++ s.color.toList ++ (s.ground.map ("on " ++ ·)).toList
    ++ (s.link.map ("link " ++ ·)).toList
  if words.isEmpty then "none" else " ".intercalate words

/-- The description of the style that a text describes, or the text itself in lower case where it
describes none. -/
def styleName (cs : List Char) : String :=
  match Style.ofText? cs with
  | some s => s.text
  | none => String.ofList (Text.lower (Text.trim cs))

end ServerActions.Console
