import LintBridge.Decimal.Integer
import LintBridge.Text.LetterCase
import LintBridge.Text.Search
import LintBridge.Text.Words

/-!
Styles: effects that are switched on or off, a colour, a background and a link.

A style is written as words, and several texts can mean the same one: effects have short names, they
come in any order, and the last word counts. `Style.text` is the one text of a style; `normalName`
is by which names of styles are compared, also names that mean no style.
-/

namespace LintBridge.Terminal

/-- What a style switches on or off. -/
inductive Effect where
  | bold
  | dim
  | italic
  | underline
  | blink
  | fastBlink
  | reverse
  | conceal
  | strike
  | doubleUnderline
  | frame
  | encircle
  | overline
deriving DecidableEq, Repr

/-- The effects, in the order in which a style names them. -/
def Effect.all : List Effect :=
  [.bold, .dim, .italic, .underline, .blink, .fastBlink, .reverse, .conceal, .strike,
    .doubleUnderline, .frame, .encircle, .overline]

def Effect.name : Effect → String
  | .bold => "bold"
  | .dim => "dim"
  | .italic => "italic"
  | .underline => "underline"
  | .blink => "blink"
  | .fastBlink => "blink2"
  | .reverse => "reverse"
  | .conceal => "conceal"
  | .strike => "strike"
  | .doubleUnderline => "underline2"
  | .frame => "frame"
  | .encircle => "encircle"
  | .overline => "overline"

/-- The short names of effects. -/
def Effect.short? : Effect → Option String
  | .bold => some "b"
  | .dim => some "d"
  | .italic => some "i"
  | .underline => some "u"
  | .reverse => some "r"
  | .conceal => some "c"
  | .strike => some "s"
  | .doubleUnderline => some "uu"
  | .overline => some "o"
  | _ => none

/-- The effect of a name or a short name. -/
def Effect.ofWord? (word : List Char) : Option Effect :=
  Effect.all.find? fun effect =>
    effect.name.toList = word || effect.short?.any (·.toList = word)

/-- The colours that have a name. -/
def colourNames : List String :=
  [
    "black", "red", "green", "yellow", "blue", "magenta", "cyan", "white", "bright_black",
    "bright_red", "bright_green", "bright_yellow", "bright_blue", "bright_magenta", "bright_cyan",
    "bright_white", "grey0", "gray0", "navy_blue", "dark_blue", "blue3", "blue1", "dark_green",
    "deep_sky_blue4", "dodger_blue3", "dodger_blue2", "green4", "spring_green4", "turquoise4",
    "deep_sky_blue3", "dodger_blue1", "green3", "spring_green3", "dark_cyan", "light_sea_green",
    "deep_sky_blue2", "deep_sky_blue1", "spring_green2", "cyan3", "dark_turquoise", "turquoise2",
    "green1", "spring_green1", "medium_spring_green", "cyan2", "cyan1", "dark_red", "deep_pink4",
    "purple4", "purple3", "blue_violet", "orange4", "grey37", "gray37", "medium_purple4",
    "slate_blue3", "royal_blue1", "chartreuse4", "dark_sea_green4", "pale_turquoise4",
    "steel_blue", "steel_blue3", "cornflower_blue", "chartreuse3", "cadet_blue", "sky_blue3",
    "steel_blue1", "pale_green3", "sea_green3", "aquamarine3", "medium_turquoise", "chartreuse2",
    "sea_green2", "sea_green1", "aquamarine1", "dark_slate_gray2", "dark_magenta", "dark_violet",
    "purple", "light_pink4", "plum4", "medium_purple3", "slate_blue1", "yellow4", "wheat4",
    "grey53", "gray53", "light_slate_grey", "light_slate_gray", "medium_purple",
    "light_slate_blue", "dark_olive_green3", "dark_sea_green", "light_sky_blue3", "sky_blue2",
    "dark_sea_green3", "dark_slate_gray3", "sky_blue1", "chartreuse1", "light_green",
    "pale_green1", "dark_slate_gray1", "red3", "medium_violet_red", "magenta3", "dark_orange3",
    "indian_red", "hot_pink3", "medium_orchid3", "medium_orchid", "medium_purple2",
    "dark_goldenrod", "light_salmon3", "rosy_brown", "grey63", "gray63", "medium_purple1", "gold3",
    "dark_khaki", "navajo_white3", "grey69", "gray69", "light_steel_blue3", "light_steel_blue",
    "yellow3", "dark_sea_green2", "light_cyan3", "light_sky_blue1", "green_yellow",
    "dark_olive_green2", "dark_sea_green1", "pale_turquoise1", "deep_pink3", "magenta2",
    "hot_pink2", "orchid", "medium_orchid1", "orange3", "light_pink3", "pink3", "plum3", "violet",
    "light_goldenrod3", "tan", "misty_rose3", "thistle3", "plum2", "khaki3", "light_goldenrod2",
    "light_yellow3", "grey84", "gray84", "light_steel_blue1", "yellow2", "dark_olive_green1",
    "honeydew2", "light_cyan1", "red1", "deep_pink2", "deep_pink1", "magenta1", "orange_red1",
    "indian_red1", "hot_pink", "dark_orange", "salmon1", "light_coral", "pale_violet_red1",
    "orchid2", "orchid1", "orange1", "sandy_brown", "light_salmon1", "light_pink1", "pink1",
    "plum1", "gold1", "navajo_white1", "misty_rose1", "thistle1", "yellow1", "light_goldenrod1",
    "khaki1", "wheat1", "cornsilk1", "grey100", "gray100", "grey3", "gray3", "grey7", "gray7",
    "grey11", "gray11", "grey15", "gray15", "grey19", "gray19", "grey23", "gray23", "grey27",
    "gray27", "grey30", "gray30", "grey35", "gray35", "grey39", "gray39", "grey42", "gray42",
    "grey46", "gray46", "grey50", "gray50", "grey54", "gray54", "grey58", "gray58", "grey62",
    "gray62", "grey66", "gray66", "grey70", "gray70", "grey74", "gray74", "grey78", "gray78",
    "grey82", "gray82", "grey85", "gray85", "grey89", "gray89", "grey93", "gray93"
  ]

/-- Why a text is no style: a word of it means nothing, or a part of a colour is no number. -/
inductive StyleFault where
  | unknown
  | component (error : Decimal.IntegerError)
deriving DecidableEq, Repr

/-- The text between an opening word and a closing bracket. -/
def between? (opening : String) (cs : List Char) : Option (List Char) :=
  (opening.toList.isPrefixOf? cs).bind fun body =>
    if body.getLast? = some ')' then some body.dropLast else none

/-- Whether a word in lower case is a colour: a name, six hexadecimal digits behind a number sign, a
number up to 255, or three of them for red, green and blue. -/
def isColour (word : List Char) : Except StyleFault Bool :=
  let isHex (c : Char) : Bool := c.isDigit || ('a' ≤ c && c ≤ 'f')
  if word = "default".toList || colourNames.any (·.toList = word) then .ok true
  else if word.head? = some '#' then .ok (word.length = 7 && (word.drop 1).all isHex)
  else if let some number := between? "color(" word then
    .ok (number ≠ [] && number.length ≤ 3 && number.all Char.isDigit &&
      Decimal.scriptValue number ≤ 255)
  else if let some body := between? "rgb(" word then
    if body ≠ [] && body.all fun c => Text.isDecimalDigit c || c == ',' then
      match Text.splitAt ',' body with
      | [red, green, blue] =>
          match [red, green, blue].mapM Decimal.readInteger with
          | .ok components => .ok (components.all (· ≤ 255))
          | .error error => .error (.component error)
      | _ => .ok false
    else .ok false
  else .ok false

/-- A style: the effects that it settles, and its colour, background and link if it has them. -/
structure Style where
  effects : List (Effect × Bool)
  colour : Option (List Char)
  ground : Option (List Char)
  link : Option (List Char)
deriving DecidableEq, Repr

namespace Style

/-- The style that changes nothing. -/
def none : Style := ⟨[], .none, .none, .none⟩

/-- The style with an effect settled anew. -/
def settle (s : Style) (effect : Effect) (on : Bool) : Style :=
  { s with effects := (effect, on) :: s.effects.filter (·.1 ≠ effect) }

/-- A word that must be a colour. -/
def colourOf (word : List Char) : Except StyleFault (List Char) := do
  let name := Text.lower word
  if ← isColour name then return name else throw .unknown

/-- Reads the words of a style, of which `s` are the ones before. -/
def read (s : Style) : List (List Char) → Except StyleFault Style
  | [] => .ok s
  | [last] => single s last
  | first :: second :: rest =>
      let word := Text.lower first
      if word = "on".toList then do
        let ground ← colourOf second
        read { s with ground := some ground } rest
      else if word = "not".toList then
        match Effect.ofWord? second with
        | some effect => read (s.settle effect false) rest
        | .none => .error .unknown
      else if word = "link".toList then read { s with link := some second } rest
      else do
        let s ← single s first
        read s (second :: rest)
where
  /-- Reads a word that stands for itself. -/
  single (s : Style) (first : List Char) : Except StyleFault Style :=
    match Effect.ofWord? (Text.lower first) with
    | some effect => .ok (s.settle effect true)
    | .none => do return { s with colour := some (← colourOf first) }

/-- The style that a text means. -/
def parse (text : List Char) : Except StyleFault Style :=
  if Text.trim text = "none".toList then .ok none else read none (Text.words text)

/-- The words of a style's own text. -/
def wordsOf (s : Style) : List (List Char) :=
  let effects := Effect.all.flatMap fun effect =>
    match List.lookup effect s.effects with
    | some true => [effect.name.toList]
    | some false => ["not".toList, effect.name.toList]
    | .none => []
  let after (words : List String) (value : Option (List Char)) : List (List Char) :=
    match value with
    | some value => words.map String.toList ++ [value]
    | .none => []
  effects ++ after [] s.colour ++ after ["on"] s.ground ++ after ["link"] s.link

/-- The one text of a style. -/
def text (s : Style) : List Char :=
  if s.wordsOf = [] then "none".toList else List.intercalate [' '] s.wordsOf

/-- A name as names of styles are compared: the text of the style that it means, or the name itself
in lower case. -/
def normalName (name : List Char) : Except Decimal.IntegerError (List Char) :=
  match parse name with
  | .ok style => .ok style.text
  | .error .unknown => .ok (Text.lower (Text.trim name))
  | .error (.component error) => .error error

end Style

end LintBridge.Terminal
