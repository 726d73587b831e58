import TurtleEdit.Number.Reading
import TurtleEdit.Text.Casing

/-!
Inks: how a mark would have its text written.

An ink sets or clears traits, and can have a colour, a colour of the ground and a link. It is
described by words: a trait, "not" and a trait, a colour, "on" and a colour, "link" and an
address. The same ink can be described in many ways and has one standard description; a name that
describes no ink stands for itself.
-/

namespace TurtleEdit

/-- Names of colours. -/
def colourWords : String := "
  black red green yellow blue magenta cyan white bright_black bright_red bright_green
  bright_yellow bright_blue bright_magenta bright_cyan bright_white grey0 gray0 navy_blue
  dark_blue blue3 blue1 dark_green deep_sky_blue4 dodger_blue3 dodger_blue2 green4 spring_green4
  turquoise4 deep_sky_blue3 dodger_blue1 green3 spring_green3 dark_cyan light_sea_green
  deep_sky_blue2 deep_sky_blue1 spring_green2 cyan3 dark_turquoise turquoise2 green1 spring_green1
  medium_spring_green cyan2 cyan1 dark_red deep_pink4 purple4 purple3 blue_violet orange4 grey37
  gray37 medium_purple4 slate_blue3 royal_blue1 chartreuse4 dark_sea_green4 pale_turquoise4
  steel_blue steel_blue3 cornflower_blue chartreuse3 cadet_blue sky_blue3 steel_blue1 pale_green3
  sea_green3 aquamarine3 medium_turquoise chartreuse2 sea_green2 sea_green1 aquamarine1
  dark_slate_gray2 dark_magenta dark_violet purple light_pink4 plum4 medium_purple3 slate_blue1
  yellow4 wheat4 grey53 gray53 light_slate_grey light_slate_gray medium_purple light_slate_blue
  dark_olive_green3 dark_sea_green light_sky_blue3 sky_blue2 dark_sea_green3 dark_slate_gray3
  sky_blue1 chartreuse1 light_green pale_green1 dark_slate_gray1 red3 medium_violet_red magenta3
  dark_orange3 indian_red hot_pink3 medium_orchid3 medium_orchid medium_purple2 dark_goldenrod
  light_salmon3 rosy_brown grey63 gray63 medium_purple1 gold3 dark_khaki navajo_white3 grey69
  gray69 light_steel_blue3 light_steel_blue yellow3 dark_sea_green2 light_cyan3 light_sky_blue1
  green_yellow dark_olive_green2 dark_sea_green1 pale_turquoise1 deep_pink3 magenta2 hot_pink2
  orchid medium_orchid1 orange3 light_pink3 pink3 plum3 violet light_goldenrod3 tan misty_rose3
  thistle3 plum2 khaki3 light_goldenrod2 light_yellow3 grey84 gray84 light_steel_blue1 yellow2
  dark_olive_green1 honeydew2 light_cyan1 red1 deep_pink2 deep_pink1 magenta1 orange_red1
  indian_red1 hot_pink dark_orange salmon1 light_coral pale_violet_red1 orchid2 orchid1 orange1
  sandy_brown light_salmon1 light_pink1 pink1 plum1 gold1 navajo_white1 misty_rose1 thistle1
  yellow1 light_goldenrod1 khaki1 wheat1 cornsilk1 grey100 gray100 grey3 gray3 grey7 gray7 grey11
  gray11 grey15 gray15 grey19 gray19 grey23 gray23 grey27 gray27 grey30 gray30 grey35 gray35
  grey39 gray39 grey42 gray42 grey46 gray46 grey50 gray50 grey54 gray54 grey58 gray58 grey62
  gray62 grey66 gray66 grey70 gray70 grey74 gray74 grey78 gray78 grey82 gray82 grey85 gray85
  grey89 gray89 grey93 gray93"

/-- The colours that have names. -/
def colourNames : List Text := "default".toList :: blankWords colourWords.toList

/-- The traits in the order of the standard description. -/
def inkTraits : List String := [
  "bold", "dim", "italic", "underline", "blink", "blink2", "reverse", "conceal", "strike",
  "underline2", "frame", "encircle", "overline"]

/-- Short words for traits. -/
def traitShorts : List (String × String) := [
  ("b", "bold"), ("d", "dim"), ("i", "italic"), ("u", "underline"), ("r", "reverse"),
  ("c", "conceal"), ("s", "strike"), ("uu", "underline2"), ("o", "overline")]

/-- The trait that a word names. -/
def traitNamed? (word : Text) : Option String :=
  let word := String.ofList word
  if inkTraits.contains word then some word else traitShorts.lookup word

/-- An ink. Of several settings of a trait the first in the list holds. -/
structure Ink where
  settings : List (String × Bool)
  colour : Option Text
  ground : Option Text
  link : Option Text

/-- Why a description gives no ink. -/
inductive InkFault where
  /-- It is no description. -/
  | unknown
  /-- A share of a mixed colour is no number. -/
  | unreadableShare
  deriving DecidableEq, Repr

/-! ## Colours -/

/-- The text between an opening word and a closing bracket at its end. -/
def bracketed? (word : String) (text : Text) : Option Text :=
  if word.toList.isPrefixOf text && text.getLast? == some ')' then
    some (text.drop word.length).dropLast
  else none

/-- Six digits of base 16 after a number sign. -/
def isHexColour : Text → Bool
  | '#' :: digits => digits.length == 6 && digits.all fun c => c.isDigit || ('a' ≤ c && c ≤ 'f')
  | _ => false

/-- The number of a colour in the palette: one to three ASCII digits. -/
def paletteNumber? (text : Text) : Option Nat := do
  let digits ← bracketed? "color(" text
  if 1 ≤ digits.length && digits.length ≤ 3 && digits.all Char.isDigit then
    digitsFrom 10 0 false digits
  else none

/-- A share of a mixed colour. -/
def readShare (digits : Text) : Except InkFault Nat :=
  match readInt 10 digits with
  | .ok share => .ok share.toNat
  | .error _ => .error .unreadableShare

/-- A colour mixed of three shares up to 255. -/
def checkShares (inner : Text) : Except InkFault Unit := do
  let isPart := fun c => (digitValue? c).isSome || c == ','
  let parts := splitAt ',' inner
  if inner.isEmpty || !inner.all isPart || parts.length ≠ 3 then throw .unknown
  let shares ← parts.mapM readShare
  if shares.any (255 < ·) then throw .unknown

/-- A colour by its description in small letters: a name, six digits, a number of the palette, or
three shares. -/
def checkColour (text : Text) : Except InkFault Unit :=
  if colourNames.contains text || isHexColour text then .ok ()
  else match paletteNumber? text, bracketed? "rgb(" text with
    | some number, _ => if number ≤ 255 then .ok () else .error .unknown
    | none, some inner => checkShares inner
    | none, none => .error .unknown

/-- A colour in small letters. -/
def readColour (word : Text) : Except InkFault Text := do
  let name := lowerFrom [] word
  checkColour name
  return name

/-! ## Descriptions -/

namespace Ink

/-- The ink that sets nothing. -/
def empty : Ink := ⟨[], none, none, none⟩

/-- An ink with one more setting. -/
def set (ink : Ink) (trait : String) (on : Bool) : Ink :=
  { ink with settings := (trait, on) :: ink.settings }

/-- The ink that words describe, beyond what is described so far. -/
def readWords (ink : Ink) : List Text → Except InkFault Ink
  | [] => .ok ink
  | word :: rest =>
    let lowered := lowerFrom [] word
    if lowered = "on".toList then
      match rest with
      | colour :: rest => do readWords { ink with ground := some (← readColour colour) } rest
      | [] => .error .unknown
    else if lowered = "not".toList then
      match rest with
      | trait :: rest =>
        match traitNamed? trait with
        | some trait => readWords (ink.set trait false) rest
        | none => .error .unknown
      | [] => .error .unknown
    else if lowered = "link".toList then
      match rest with
      | address :: rest => readWords { ink with link := some address } rest
      | [] => .error .unknown
    else match traitNamed? lowered with
      | some trait => readWords (ink.set trait true) rest
      | none => do readWords { ink with colour := some (← readColour lowered) } rest

/-- The standard description of an ink, word by word. -/
def words (ink : Ink) : List Text :=
  let traits := inkTraits.flatMap fun trait =>
    match ink.settings.lookup trait with
    | some true => [trait.toList]
    | some false => ["not".toList, trait.toList]
    | none => []
  let ground := match ink.ground with
    | some ground => ["on".toList, ground]
    | none => []
  let link := match ink.link with
    | some link => ["link".toList, link]
    | none => []
  traits ++ ink.colour.toList ++ ground ++ link

/-- The standard description of an ink. -/
def describe (ink : Ink) : Text :=
  if ink.words.isEmpty then "none".toList else List.intercalate [' '] ink.words

end Ink

/-- The standard form of a name: the standard description of the ink it describes, or else itself in
small letters and without blanks at its ends. -/
def inkName (name : Text) : Except InkFault Text :=
  if name.isEmpty || trimBlanks name == "none".toList then .ok "none".toList
  else match Ink.empty.readWords (blankWords name) with
    | .ok ink => .ok ink.describe
    | .error .unknown => .ok (lowerFrom [] (trimBlanks name))
    | .error .unreadableShare => .error .unreadableShare

end TurtleEdit
