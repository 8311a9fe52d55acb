import LinkIndex.Number.Whole
import LinkIndex.Text.Lowercase

/-!
Names of styles in markup. Several names may stand for one style, in any order of
their words; the normal form of a name is the same for all of them. A name that
stands for no style is its own normal form, but for blanks and case.
-/

namespace LinkIndex.Report

def colorNames : List String :=
  ["aquamarine1", "aquamarine3", "black", "blue", "blue1", "blue3", "blue_violet", "bright_black",
   "bright_blue", "bright_cyan", "bright_green", "bright_magenta", "bright_red", "bright_white",
   "bright_yellow", "cadet_blue", "chartreuse1", "chartreuse2", "chartreuse3", "chartreuse4",
   "cornflower_blue", "cornsilk1", "cyan", "cyan1", "cyan2", "cyan3", "dark_blue", "dark_cyan",
   "dark_goldenrod", "dark_green", "dark_khaki", "dark_magenta", "dark_olive_green1",
   "dark_olive_green2", "dark_olive_green3", "dark_orange", "dark_orange3", "dark_red",
   "dark_sea_green", "dark_sea_green1", "dark_sea_green2", "dark_sea_green3", "dark_sea_green4",
   "dark_slate_gray1", "dark_slate_gray2", "dark_slate_gray3", "dark_turquoise", "dark_violet",
   "deep_pink1", "deep_pink2", "deep_pink3", "deep_pink4", "deep_sky_blue1", "deep_sky_blue2",
   "deep_sky_blue3", "deep_sky_blue4", "dodger_blue1", "dodger_blue2", "dodger_blue3", "gold1",
   "gold3", "gray0", "gray100", "gray11", "gray15", "gray19", "gray23", "gray27", "gray3",
   "gray30", "gray35", "gray37", "gray39", "gray42", "gray46", "gray50", "gray53", "gray54",
   "gray58", "gray62", "gray63", "gray66", "gray69", "gray7", "gray70", "gray74", "gray78",
   "gray82", "gray84", "gray85", "gray89", "gray93", "green", "green1", "green3", "green4",
   "green_yellow", "grey0", "grey100", "grey11", "grey15", "grey19", "grey23", "grey27", "grey3",
   "grey30", "grey35", "grey37", "grey39", "grey42", "grey46", "grey50", "grey53", "grey54",
   "grey58", "grey62", "grey63", "grey66", "grey69", "grey7", "grey70", "grey74", "grey78",
   "grey82", "grey84", "grey85", "grey89", "grey93", "honeydew2", "hot_pink", "hot_pink2",
   "hot_pink3", "indian_red", "indian_red1", "khaki1", "khaki3", "light_coral", "light_cyan1",
   "light_cyan3", "light_goldenrod1", "light_goldenrod2", "light_goldenrod3", "light_green",
   "light_pink1", "light_pink3", "light_pink4", "light_salmon1", "light_salmon3",
   "light_sea_green", "light_sky_blue1", "light_sky_blue3", "light_slate_blue",
   "light_slate_gray", "light_slate_grey", "light_steel_blue", "light_steel_blue1",
   "light_steel_blue3", "light_yellow3", "magenta", "magenta1", "magenta2", "magenta3",
   "medium_orchid", "medium_orchid1", "medium_orchid3", "medium_purple", "medium_purple1",
   "medium_purple2", "medium_purple3", "medium_purple4", "medium_spring_green",
   "medium_turquoise", "medium_violet_red", "misty_rose1", "misty_rose3", "navajo_white1",
   "navajo_white3", "navy_blue", "orange1", "orange3", "orange4", "orange_red1", "orchid",
   "orchid1", "orchid2", "pale_green1", "pale_green3", "pale_turquoise1", "pale_turquoise4",
   "pale_violet_red1", "pink1", "pink3", "plum1", "plum2", "plum3", "plum4", "purple", "purple3",
   "purple4", "red", "red1", "red3", "rosy_brown", "royal_blue1", "salmon1", "sandy_brown",
   "sea_green1", "sea_green2", "sea_green3", "sky_blue1", "sky_blue2", "sky_blue3", "slate_blue1",
   "slate_blue3", "spring_green1", "spring_green2", "spring_green3", "spring_green4",
   "steel_blue", "steel_blue1", "steel_blue3", "tan", "thistle1", "thistle3", "turquoise2",
   "turquoise4", "violet", "wheat1", "wheat4", "white", "yellow", "yellow1", "yellow2", "yellow3",
   "yellow4"]

/-- The attributes of a style in the order of the normal form, each with its short name. -/
def attributeNames : List (String × Option String) :=
  [("bold", "b"), ("dim", "d"), ("italic", "i"), ("underline", "u"), ("blink", none),
   ("blink2", none), ("reverse", "r"), ("conceal", "c"), ("strike", "s"), ("underline2", "uu"),
   ("frame", none), ("encircle", none), ("overline", "o")]

structure Style where
  attributes : Assoc String Bool := []
  color : Option String := none
  background : Option String := none
  link : Option String := none

def attribute? (word : String) : Option String :=
  (attributeNames.find? fun p => p.1 = word || p.2 = some word).map (·.1)

/-- Whether a text is a row of digits, at least one and at most `most`. -/
def isNumber (most : Nat) (cs : List Char) : Bool :=
  cs ≠ [] && cs.length ≤ most && cs.all Char.isDigit

/-- Whether the text between brackets gives the three parts of a colour, none above 255. -/
def isTriple (inner : List Char) : Except Whole.Error Bool :=
  let parts := Text.cutAt (· = ',') inner
  if inner ≠ [] ∧ inner.all (fun c => isDecimalDigit c || c = ',') ∧ parts.length = 3 then do
    return (← parts.mapM (Whole.read 10)).all (· ≤ 255)
  else .ok false

/-- The text between `opening` and a closing bracket that ends the word. -/
def inside? (opening : String) (word : List Char) : Option (List Char) :=
  (Text.dropPrefix? opening.toList word).bind (Text.dropSuffix? [')'])

/-- Whether a word names a colour: by its name, by six hexadecimal digits, by its number, or by its
three parts. -/
def isColor (word : String) : Except Whole.Error Bool :=
  let cs := word.toList
  if word = "default" || colorNames.contains word then .ok true
  else match cs with
    | '#' :: digits =>
      .ok (digits.length = 6 && digits.all Char.isHexDigit)
    | _ =>
      match inside? "color(" cs with
      | some number => .ok (isNumber 3 number && Json.digitsValue number ≤ 255)
      | none =>
        match inside? "rgb(" cs with
        | some inner => isTriple inner
        | none => .ok false

def lowerWord (word : String) : String :=
  String.ofList (lowercase word.toList)

/-- Takes up the words of a style; none where they are no style. -/
def Style.ofWords : Style → List String → Except Whole.Error (Option Style)
  | s, [] => .ok (some s)
  | s, word :: rest =>
    match lowerWord word, rest with
    | "on", [] => .ok none
    | "on", color :: rest =>
      match isColor (lowerWord color) with
      | .error e => .error e
      | .ok true => Style.ofWords { s with background := some (lowerWord color) } rest
      | .ok false => .ok none
    | "not", [] => .ok none
    | "not", name :: rest =>
      match attribute? name with
      | some a => Style.ofWords { s with attributes := s.attributes.put a false } rest
      | none => .ok none
    | "link", [] => .ok none
    | "link", target :: rest => Style.ofWords { s with link := some target } rest
    | name, rest =>
      match attribute? name with
      | some a => Style.ofWords { s with attributes := s.attributes.put a true } rest
      | none =>
        match isColor name with
        | .error e => .error e
        | .ok true => Style.ofWords { s with color := some name } rest
        | .ok false => .ok none

def Style.words (s : Style) : List String :=
  (attributeNames.flatMap fun p =>
    match s.attributes.get? p.1 with
    | some true => [p.1]
    | some false => ["not", p.1]
    | none => []) ++
    s.color.toList ++ (s.background.elim [] fun c => ["on", c]) ++
    (s.link.elim [] fun target => ["link", target])

def normalName (name : List Char) : Except Whole.Error String :=
  match (Text.words name).map String.ofList with
  | [] => .ok "none"
  | ["none"] => .ok "none"
  | words =>
    match Style.ofWords {} words with
    | .error e => .error e
    | .ok (some s) => .ok (String.intercalate " " s.words)
    | .ok none => .ok (String.ofList (lowercase (Text.trim name)))

end LinkIndex.Report
