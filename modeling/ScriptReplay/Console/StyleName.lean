import ScriptReplay.Text.Blank
import ScriptReplay.Text.Case
import ScriptReplay.Text.WholeNumber

/-!
# Names of styles

A style is named by words: attributes such as `bold`, each of which may have a `not` before it, a
color, another color behind `on`, and an address behind `link`. `StyleName.normalize` brings the words
into one order and short names of attributes into their long form, so that two names of one style
become equal; a name that is not made of such words is only put into lower case. A color by three
numbers has to have a number in each place that is one, or the name is refused.
-/

namespace ScriptReplay.Console

/-- What the name of a style asks for. -/
structure StyleName where
  attributes : List (String × Bool) := []
  color : Option String := none
  background : Option String := none
  link : Option String := none
  deriving Repr, DecidableEq

namespace StyleName

/-- The attributes in the order in which they are listed, each with all its names. -/
def attributeNames : List (String × List String) := [
  ("bold", ["bold", "b"]),
  ("dim", ["dim", "d"]),
  ("italic", ["italic", "i"]),
  ("underline", ["underline", "u"]),
  ("blink", ["blink"]),
  ("blink2", ["blink2"]),
  ("reverse", ["reverse", "r"]),
  ("conceal", ["conceal", "c"]),
  ("strike", ["strike", "s"]),
  ("underline2", ["underline2", "uu"]),
  ("frame", ["frame"]),
  ("encircle", ["encircle"]),
  ("overline", ["overline", "o"])]

/-- The names of the colors of a terminal. -/
def colorNames : List String := [
  "black", "red", "green", "yellow", "blue", "magenta", "cyan", "white", "bright_black",
  "bright_red", "bright_green", "bright_yellow", "bright_blue", "bright_magenta", "bright_cyan",
  "bright_white", "grey0", "gray0", "navy_blue", "dark_blue", "blue3", "blue1", "dark_green",
  "deep_sky_blue4", "dodger_blue3", "dodger_blue2", "green4", "spring_green4", "turquoise4",
  "deep_sky_blue3", "dodger_blue1", "green3", "spring_green3", "dark_cyan", "light_sea_green",
  "deep_sky_blue2", "deep_sky_blue1", "spring_green2", "cyan3", "dark_turquoise", "turquoise2",
  "green1", "spring_green1", "medium_spring_green", "cyan2", "cyan1", "dark_red", "deep_pink4",
  "purple4", "purple3", "blue_violet", "orange4", "grey37", "gray37", "medium_purple4",
  "slate_blue3", "royal_blue1", "chartreuse4", "dark_sea_green4", "pale_turquoise4", "steel_blue",
  "steel_blue3", "cornflower_blue", "chartreuse3", "cadet_blue", "sky_blue3", "steel_blue1",
  "pale_green3", "sea_green3", "aquamarine3", "medium_turquoise", "chartreuse2", "sea_green2",
  "sea_green1", "aquamarine1", "dark_slate_gray2", "dark_magenta", "dark_violet", "purple",
  "light_pink4", "plum4", "medium_purple3", "slate_blue1", "yellow4", "wheat4", "grey53", "gray53",
  "light_slate_grey", "light_slate_gray", "medium_purple", "light_slate_blue", "dark_olive_green3",
  "dark_sea_green", "light_sky_blue3", "sky_blue2", "dark_sea_green3", "dark_slate_gray3",
  "sky_blue1", "chartreuse1", "light_green", "pale_green1", "dark_slate_gray1", "red3",
  "medium_violet_red", "magenta3", "dark_orange3", "indian_red", "hot_pink3", "medium_orchid3",
  "medium_orchid", "medium_purple2", "dark_goldenrod", "light_salmon3", "rosy_brown", "grey63",
  "gray63", "medium_purple1", "gold3", "dark_khaki", "navajo_white3", "grey69", "gray69",
  "light_steel_blue3", "light_steel_blue", "yellow3", "dark_sea_green2", "light_cyan3",
  "light_sky_blue1", "green_yellow", "dark_olive_green2", "dark_sea_green1", "pale_turquoise1",
  "deep_pink3", "magenta2", "hot_pink2", "orchid", "medium_orchid1", "orange3", "light_pink3",
  "pink3", "plum3", "violet", "light_goldenrod3", "tan", "misty_rose3", "thistle3", "plum2",
  "khaki3", "light_goldenrod2", "light_yellow3", "grey84", "gray84", "light_steel_blue1",
  "yellow2", "dark_olive_green1", "honeydew2", "light_cyan1", "red1", "deep_pink2", "deep_pink1",
  "magenta1", "orange_red1", "indian_red1", "hot_pink", "dark_orange", "salmon1", "light_coral",
  "pale_violet_red1", "orchid2", "orchid1", "orange1", "sandy_brown", "light_salmon1",
  "light_pink1", "pink1", "plum1", "gold1", "navajo_white1", "misty_rose1", "thistle1", "yellow1",
  "light_goldenrod1", "khaki1", "wheat1", "cornsilk1", "grey100", "gray100", "grey3", "gray3",
  "grey7", "gray7", "grey11", "gray11", "grey15", "gray15", "grey19", "gray19", "grey23", "gray23",
  "grey27", "gray27", "grey30", "gray30", "grey35", "gray35", "grey39", "gray39", "grey42",
  "gray42", "grey46", "gray46", "grey50", "gray50", "grey54", "gray54", "grey58", "gray58",
  "grey62", "gray62", "grey66", "gray66", "grey70", "gray70", "grey74", "gray74", "grey78",
  "gray78", "grey82", "gray82", "grey85", "gray85", "grey89", "gray89", "grey93", "gray93"]

/-- The attribute that a word names. -/
def attribute? (word : String) : Option String :=
  (attributeNames.find? fun (_, names) => names.contains word).map (·.1)

/-- The words of a text. -/
def wordsOf (text : List Char) : List String :=
  ((text.splitBy fun a b => Text.isBlank a == Text.isBlank b).filter fun run =>
    !run.any Text.isBlank).map String.ofList

/-- A text in lower case. -/
def lowered (text : String) : String :=
  String.ofList (Text.lower text.toList)

/-- The number of a color that a text spells in one to three ASCII digits. -/
def isColorNumber (digits : List Char) : Bool :=
  !digits.isEmpty && digits.length ≤ 3 && digits.all Char.isDigit &&
    Text.ofDigits (digits.filterMap Text.decimalValue?) ≤ 255

/-- What stands in parentheses behind a word. -/
def argumentOf? (word text : String) : Option (List Char) :=
  let opening := word.toList ++ ['(']
  if opening.isPrefixOf text.toList && text.toList.getLast? == some ')'
  then some (text.toList.drop opening.length).dropLast else none

/-- Whether a text names a color by three numbers. -/
def isTriplet (text : List Char) : Except Text.NumberError Bool :=
  let holdsDigits := text.all fun c => c == ',' || Text.decimalDigits.contains c.toNat
  if !holdsDigits || text.count ',' ≠ 2 then .ok false
  else do
    let red := text.takeWhile (· != ',')
    let rest := (text.dropWhile (· != ',')).drop 1
    let green := rest.takeWhile (· != ',')
    let blue := (rest.dropWhile (· != ',')).drop 1
    let numbers ← [red, green, blue].mapM Text.numberOfDigits
    return numbers.all (· ≤ 255)

/-- Whether a text in lower case names a color: by a name, by hexadecimal digits, by a number, or by
three. -/
def isColor (text : String) : Except Text.NumberError Bool :=
  if text == "default" || colorNames.contains text ||
    (match text.toList with
      | '#' :: digits =>
        digits.length == 6 && digits.all fun c => c.isDigit || ('a' ≤ c && c ≤ 'f')
      | _ => false) ||
    (argumentOf? "color" text).any isColorNumber then .ok true
  else
    match argumentOf? "rgb" text with
    | some inner => isTriplet inner
    | none => .ok false

/-- The style with a word taken as its color, if it names one. -/
def withColor? (style : StyleName) (word : String) : Except Text.NumberError (Option StyleName) := do
  return if ← isColor word then some { style with color := some word } else none

/-- The style that words name, added to what words before them named. -/
def ofWords? (style : StyleName) : List String → Except Text.NumberError (Option StyleName)
  | [] => .ok (some style)
  | [word] =>
    let word := lowered word
    match attribute? word with
    | some name => .ok (some { style with attributes := style.attributes ++ [(name, true)] })
    | none => style.withColor? word
  | first :: second :: rest => do
    let word := lowered first
    if word == "on" then
      let color := lowered second
      if ← isColor color then ofWords? { style with background := some color } rest
      else return none
    else if word == "not" then
      match attribute? second with
      | some name => ofWords? { style with attributes := style.attributes ++ [(name, false)] } rest
      | none => return none
    else if word == "link" then ofWords? { style with link := some second } rest
    else
      match attribute? word with
      | some name =>
        ofWords? { style with attributes := style.attributes ++ [(name, true)] } (second :: rest)
      | none =>
        match ← style.withColor? word with
        | some style => ofWords? style (second :: rest)
        | none => return none

/-- The style that a name asks for, if it is made of words for styles. -/
def ofName? (name : List Char) : Except Text.NumberError (Option StyleName) :=
  ofWords? {} (wordsOf name)

/-- The words of a style in their order. -/
def words (style : StyleName) : List String :=
  (attributeNames.filterMap fun (name, _) =>
    (style.attributes.reverse.lookup name).map fun on => if on then name else "not " ++ name)
    ++ style.color.toList
    ++ (style.background.map ("on " ++ ·)).toList
    ++ (style.link.map ("link " ++ ·)).toList

/-- The name of a style in its normal form. -/
def normalize (name : List Char) : Except Text.NumberError (List Char) := do
  match ← ofName? name with
  | some style =>
    let text := " ".intercalate style.words
    return if text.isEmpty then "none".toList else text.toList
  | none => return Text.lower (Text.trim Text.isBlank name)

end StyleName

end ScriptReplay.Console
