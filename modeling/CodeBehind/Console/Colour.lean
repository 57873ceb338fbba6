import CodeBehind.Text.Digits
import CodeBehind.Text.Lowercase
import CodeBehind.Text.Lines

/-!
Names of colours.

A colour is named by a word, or given by six hexadecimal digits, by its number among 256 colours or
by its parts of red, green and blue. The console shows none; whether a word names a colour decides
which markup tags mean the same style.
-/

namespace CodeBehind.Console

/-! ### Words -/

def plainColours : List String := [
  "black", "white", "bright_black", "bright_red", "bright_green", "bright_yellow", "bright_blue",
  "bright_magenta", "bright_cyan", "bright_white", "navy_blue", "dark_blue", "dark_green",
  "dark_cyan", "light_sea_green", "dark_turquoise", "medium_spring_green", "dark_red",
  "blue_violet", "cornflower_blue", "cadet_blue", "medium_turquoise", "dark_magenta", "dark_violet",
  "light_slate_grey", "light_slate_gray", "light_slate_blue", "light_green", "medium_violet_red",
  "dark_goldenrod", "rosy_brown", "dark_khaki", "green_yellow", "violet", "tan", "light_coral",
  "sandy_brown"]

/-- Colours in several shades, with the endings of their names. -/
def shadedColours : List (String × List String) := [
  ("red", ["", "1", "3"]), ("green", ["", "1", "3", "4"]), ("yellow", ["", "1", "2", "3", "4"]),
  ("blue", ["", "1", "3"]), ("magenta", ["", "1", "2", "3"]), ("cyan", ["", "1", "2", "3"]),
  ("deep_sky_blue", ["1", "2", "3", "4"]), ("dodger_blue", ["1", "2", "3"]),
  ("spring_green", ["1", "2", "3", "4"]), ("turquoise", ["2", "4"]),
  ("deep_pink", ["1", "2", "3", "4"]), ("purple", ["", "3", "4"]), ("orange", ["1", "3", "4"]),
  ("medium_purple", ["", "1", "2", "3", "4"]), ("slate_blue", ["1", "3"]), ("royal_blue", ["1"]),
  ("chartreuse", ["1", "2", "3", "4"]), ("dark_sea_green", ["", "1", "2", "3", "4"]),
  ("pale_turquoise", ["1", "4"]), ("steel_blue", ["", "1", "3"]), ("sky_blue", ["1", "2", "3"]),
  ("pale_green", ["1", "3"]), ("sea_green", ["1", "2", "3"]), ("aquamarine", ["1", "3"]),
  ("dark_slate_gray", ["1", "2", "3"]), ("light_pink", ["1", "3", "4"]),
  ("plum", ["1", "2", "3", "4"]), ("wheat", ["1", "4"]), ("dark_olive_green", ["1", "2", "3"]),
  ("light_sky_blue", ["1", "3"]), ("dark_orange", ["", "3"]), ("indian_red", ["", "1"]),
  ("hot_pink", ["", "2", "3"]), ("medium_orchid", ["", "1", "3"]), ("light_salmon", ["1", "3"]),
  ("gold", ["1", "3"]), ("navajo_white", ["1", "3"]), ("light_steel_blue", ["", "1", "3"]),
  ("light_cyan", ["1", "3"]), ("orchid", ["", "1", "2"]), ("pink", ["1", "3"]),
  ("light_goldenrod", ["1", "2", "3"]), ("misty_rose", ["1", "3"]), ("thistle", ["1", "3"]),
  ("khaki", ["1", "3"]), ("light_yellow", ["3"]), ("honeydew", ["2"]), ("orange_red", ["1"]),
  ("salmon", ["1"]), ("pale_violet_red", ["1"]), ("cornsilk", ["1"])]

/-- The endings of the greys, which have two spellings. -/
def greyShades : List String := [
  "0", "3", "7", "11", "15", "19", "23", "27", "30", "35", "37", "39", "42", "46", "50", "53", "54",
  "58", "62", "63", "66", "69", "70", "74", "78", "82", "84", "85", "89", "93", "100"]

def colourWords : List String :=
  "default" :: plainColours ++
    (("grey", greyShades) :: ("gray", greyShades) :: shadedColours).flatMap fun (name, shades) =>
      shades.map (name ++ ·)

/-! ### Numbers -/

/-- Why a number in a colour cannot be read at all. -/
inductive ColourError where
  | noDigits
  | tooManyDigits (count : Nat)
deriving DecidableEq, Repr

def ColourError.message : ColourError → String
  | .noDigits => "invalid literal for int() with base 10: ''"
  | .tooManyDigits count => Text.tooManyDigits count

def partNumber (digits : List Char) : Except ColourError Nat :=
  if digits.isEmpty then .error .noDigits
  else if Text.maxDigits < digits.length then .error (.tooManyDigits digits.length)
  else .ok (Text.ofDigits digits)

def argument? (opening : String) (cs : List Char) : Option (List Char) :=
  if opening.toList.isPrefixOf cs && cs.getLast? = some ')' then
    some (cs.drop opening.length).dropLast
  else none

def isHexadecimal (c : Char) : Bool :=
  c.isDigit || ('a' ≤ c && c ≤ 'f')

/-- Six hexadecimal digits after a number sign. -/
def isHexColour (cs : List Char) : Bool :=
  match cs with
  | '#' :: digits => digits.length == 6 && digits.all isHexadecimal
  | _ => false

/-- The number of a colour, in at most three digits. -/
def isNumberedColour (cs : List Char) : Bool :=
  match argument? "color(" cs with
  | some digits =>
    !digits.isEmpty && digits.length ≤ 3 && digits.all Char.isDigit && Text.ofDigits digits ≤ 255
  | none => false

/-- The three parts of a colour, each of them a number of at most 255. -/
def isMixedColour (cs : List Char) : Except ColourError Bool :=
  match argument? "rgb(" cs with
  | some parts =>
    if parts.all fun c => Text.isDecimalDigit c || c == ',' then
      match Text.splitOn ',' parts with
      | [red, green, blue] => do
        return [← partNumber red, ← partNumber green, ← partNumber blue].all (· ≤ 255)
      | _ => .ok false
    else .ok false
  | none => .ok false

def isColour (word : String) : Except ColourError Bool :=
  let cs := word.toList
  if colourWords.contains word || isHexColour cs || isNumberedColour cs then .ok true
  else isMixedColour cs

end CodeBehind.Console
