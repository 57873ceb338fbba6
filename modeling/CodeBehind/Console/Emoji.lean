import CodeBehind.Console.Emoji.Table
import CodeBehind.Text.Blank
import CodeBehind.Text.Lowercase
import CodeBehind.Text.Lines

/-!
Pictures by name.

A name between two colons stands for a picture, in any case of its letters, and may end in `-text`
or `-emoji`, which says how the picture is to be drawn. `replace` puts the pictures in place of
their names. A name that nobody knows stays as it is, together with both of its colons.
-/

namespace CodeBehind.Console.Emoji

/-! ### The pictures -/

/-- A picture with its names. -/
structure Picture where
  glyph : List Char
  names : List String
deriving DecidableEq, Repr

def codePoint (digits : List Char) : Char :=
  Char.ofNat (digits.foldl
    (fun n c => 16 * n + (if c.isDigit then c.toNat - 48 else c.toNat - 87)) 0)

def flagLetter (c : Char) : Char :=
  Char.ofNat (c.toNat - 97 + 0x1F1E6)

/-- The pictures of lines of a table, whose glyphs are read by `glyph`. -/
def pictures (glyph : List Char → List Char) (lines : List String) : List Picture :=
  (lines.flatMap fun line => Text.words line.toList).filterMap fun entry =>
    match Text.splitOn ':' entry with
    | [code, names] => some {
        glyph := glyph code
        names := (Text.splitOn ',' names).map String.ofList }
    | _ => none

def glyphOf (code : List Char) : List Char :=
  (Text.splitOn '-' code).map codePoint

def peoplePictures : List Picture :=
  pictures glyphOf people

def otherPictures : List Picture :=
  pictures glyphOf others ++
    (pictures (·.map flagLetter) flags).map fun p =>
      { p with names := p.names ++ p.names.map ("flag_for_" ++ ·) }

def named? (among : List Picture) (name : String) : Option (List Char) :=
  (among.find? (·.names.contains name)).map (·.glyph)

/-- The endings of names that give a shade of skin, with the modifiers that make it. -/
def shades : List (String × Char) := [
  ("_light_skin_tone", Char.ofNat 0x1F3FB),
  ("_medium-light_skin_tone", Char.ofNat 0x1F3FC),
  ("_medium_skin_tone", Char.ofNat 0x1F3FD),
  ("_medium-dark_skin_tone", Char.ofNat 0x1F3FE),
  ("_dark_skin_tone", Char.ofNat 0x1F3FF)]

/-- The selector that asks for a coloured picture. -/
def colouredSelector : Char := '\uFE0F'

/-- The selector that asks for a picture like a letter. -/
def plainSelector : Char := '\uFE0E'

/-- A glyph in a shade of skin. The modifier follows the first character, in place of a selector. -/
def shaded (modifier : Char) : List Char → List Char
  | c :: s :: rest =>
    c :: modifier :: (if s = colouredSelector then rest else s :: rest)
  | glyph => glyph ++ [modifier]

def withoutEnding? (ending : String) (cs : List Char) : Option (List Char) :=
  if ending.toList.isSuffixOf cs then some (cs.take (cs.length - ending.length)) else none

/-- The glyph of a name that ends in a shade of skin. -/
def shadedGlyph? (name : String) : Option (List Char) :=
  shades.findSome? fun (ending, modifier) => do
    let person ← withoutEnding? ending name.toList
    return shaded modifier (← named? peoplePictures (String.ofList person))

def glyph? (name : String) : Option (List Char) :=
  named? otherPictures name <|> named? peoplePictures name <|> shadedGlyph? name

/-! ### Replacing -/

/-- A name without the word for how it is drawn, and the selector for that. -/
def splitVariant (cs : List Char) : List Char × List Char :=
  match withoutEnding? "-text" cs, withoutEnding? "-emoji" cs with
  | some name, _ => (name, [plainSelector])
  | _, some name => (name, [colouredSelector])
  | none, none => (cs, [])

/-- What stands in place of a text between two colons. -/
def replacement (cs : List Char) : List Char :=
  let (name, selector) := splitVariant cs
  match glyph? (Text.lowercase (String.ofList name)) with
  | some glyph => glyph ++ selector
  | none => ':' :: cs ++ [':']

/-- Replaces names in the rest of a text. `name?` holds what has been read since the last colon that
may open a name. -/
def replaceFrom (name? : Option (List Char)) : List Char → List Char
  | [] => name?.elim [] (':' :: ·)
  | c :: rest =>
    match name? with
    | none => if c = ':' then replaceFrom (some []) rest else c :: replaceFrom none rest
    | some name =>
      if c = ':' then replacement name ++ replaceFrom none rest
      else if Text.isBlank c then ':' :: name ++ c :: replaceFrom none rest
      else replaceFrom (some (name ++ [c])) rest

/-- Puts pictures in place of their names. -/
def replace (cs : List Char) : List Char :=
  replaceFrom none cs

end CodeBehind.Console.Emoji
