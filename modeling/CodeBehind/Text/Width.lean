import CodeBehind.Text.Printable
import CodeBehind.Text.Width.Table

/-!
Widths of texts.

The width of a text is the number of columns that it takes on a terminal. It is the sum of the
widths of its characters, but for two signs: the picture sign widens the narrow character before it
that has a form as a picture, and the joiner lets the character after it take no columns. Texts are
cut between clusters only, which keep what is shown as one together.
-/

namespace CodeBehind.Text

def charWidth (c : Char) : Nat :=
  if 0x20 ≤ c.toNat ∧ c.toNat < 0x7F then 1
  else if inRanges zeroRanges c then 0
  else if inRanges wideRanges c then 2
  else 1

def joiner : Char := '\u200D'

def pictureSign : Char := '\uFE0F'

/-- The columns of a text after `last?`, the last character that took any and has not been widened.
When `joined`, the next character takes none. -/
def widthFrom (last? : Option Char) (joined : Bool) : List Char → Nat
  | [] => 0
  | c :: rest =>
    if joined then widthFrom last? false rest
    else if c = joiner then widthFrom last? true rest
    else if c = pictureSign then
      match last? with
      | some last => (if inRanges emojiRanges last then 1 else 0) + widthFrom none false rest
      | none => widthFrom none false rest
    else
      let w := charWidth c
      w + widthFrom (if w = 0 then last? else some c) false rest

def width (cs : List Char) : Nat :=
  widthFrom none false cs

/-! ### Clusters -/

/-- Characters that are shown as one, with the columns that they take together. -/
structure Cluster where
  chars : List Char
  columns : Nat
deriving DecidableEq, Repr

/-- The clusters of a text after those of `done`, the last of which is first. `last?` is the last
character that took columns and has not been widened. A joiner binds the character after it, and
whatever takes no columns belongs to the cluster before it, if there is one. -/
def clustersFrom (done : List Cluster) (last? : Option Char) : List Char → List Cluster
  | [] => done.reverse
  | c :: rest =>
    match done with
    | [] =>
      if c = joiner ∨ c = pictureSign ∨ charWidth c = 0 then clustersFrom [⟨[c], 0⟩] last? rest
      else clustersFrom [⟨[c], charWidth c⟩] (some c) rest
    | k :: before =>
      if c = joiner then
        match rest with
        | d :: rest => clustersFrom (⟨k.chars ++ [c, d], k.columns⟩ :: before) last? rest
        | [] => (⟨k.chars ++ [c], k.columns⟩ :: before).reverse
      else if c = pictureSign then
        if last?.any (inRanges emojiRanges) then
          clustersFrom (⟨k.chars ++ [c], k.columns + 1⟩ :: before) none rest
        else clustersFrom (⟨k.chars ++ [c], k.columns⟩ :: before) last? rest
      else if charWidth c = 0 then
        clustersFrom (⟨k.chars ++ [c], k.columns⟩ :: before) last? rest
      else clustersFrom (⟨[c], charWidth c⟩ :: k :: before) (some c) rest

def clusters (cs : List Char) : List Cluster :=
  clustersFrom [] none cs

/-- Clusters as far as they fit into a number of columns. A cluster that would stand across the edge
becomes a space. -/
def fitting (columns : Nat) : List Cluster → List Char
  | [] => []
  | k :: rest =>
    if k.columns ≤ columns then k.chars ++ fitting (columns - k.columns) rest
    else List.replicate (min columns 1) ' '

/-- A text cut or filled with spaces to a number of columns. -/
def resize (columns : Nat) (cs : List Char) : List Char :=
  if columns < width cs then fitting columns (clusters cs)
  else cs ++ List.replicate (columns - width cs) ' '

/-- Pieces of a text that each fit into a number of columns. `piece` takes `used` columns and is
being filled. -/
def chopFrom (columns : Nat) (piece : List Char) (used : Nat) : List Cluster → List (List Char)
  | [] => if used = 0 then [] else [piece]
  | k :: rest =>
    if columns < used + k.columns then piece :: chopFrom columns k.chars k.columns rest
    else chopFrom columns (piece ++ k.chars) (used + k.columns) rest

def chop (columns : Nat) (cs : List Char) : List (List Char) :=
  chopFrom columns [] 0 (clusters cs)

end CodeBehind.Text
