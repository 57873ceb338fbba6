import CodeBehind.Text.Lines

/-!
Paths.

A path is a text with slashes between its components. Leading slashes make it absolute; exactly two
are kept apart from one, three or more are as good as one. `tidy` drops what never matters, which
are empty components and single dots. `normalize` also lets two dots cancel the component before
them, without looking at any directory.
-/

namespace CodeBehind.Path

/-- The component that stays where it is. -/
def here : String := "."

/-- The component that goes up. -/
def up : String := ".."

/-- The slashes that a path's root is written with. -/
def root (path : String) : String :=
  match path.toList with
  | '/' :: '/' :: '/' :: _ => "/"
  | '/' :: '/' :: _ => "//"
  | '/' :: _ => "/"
  | _ => ""

def isAbsolute (path : String) : Bool :=
  path.toList.head? == some '/'

/-- The components that matter: neither empty nor a single dot. -/
def components (path : String) : List String :=
  ((Text.splitOn '/' path.toList).map String.ofList).filter fun c => c ≠ "" ∧ c ≠ here

/-- What follows the last slash is empty or a single dot. -/
def endsInDirectory (path : String) : Bool :=
  match (Text.splitOn '/' path.toList).getLast? with
  | some last => last.isEmpty || String.ofList last = here
  | none => true

/-- Writes components below a root. The path of no components at no root is a single dot. -/
def write (root : String) (components : List String) : String :=
  if root = "" ∧ components = [] then here else root ++ "/".intercalate components

/-- A path without empty components and single dots. -/
def tidy (path : String) : String :=
  write (root path) (components path)

/-- One component after those on a stack, whose top is the last one. Two dots cancel the component
below them; at the root there is nothing to cancel and nowhere to go. -/
def push (rooted : Bool) (stack : List String) (c : String) : List String :=
  if c = up then
    match stack with
    | [] => if rooted then [] else [c]
    | top :: below => if top = up then c :: stack else below
  else c :: stack

/-- Lets every two dots cancel what they can. -/
def cancel (rooted : Bool) (components : List String) : List String :=
  (components.foldl (push rooted) []).reverse

/-- The normal form of a path. -/
def normalize (path : String) : String :=
  write (root path) (cancel (isAbsolute path) (components path))

def join (a b : String) : String :=
  if isAbsolute b then b
  else if a.isEmpty ∨ a.toList.getLast? = some '/' then a ++ b
  else a ++ "/" ++ b

def absolute (directory path : String) : String :=
  normalize (if isAbsolute path then path else join directory path)

/-- Drops what two lists have in common in front. -/
def dropCommon : List String → List String → List String × List String
  | a :: as, b :: bs => if a = b then dropCommon as bs else (a :: as, b :: bs)
  | as, bs => (as, bs)

/-- The way from one absolute path to another. -/
def relative (start target : String) : String :=
  let (ups, downs) := dropCommon (components start) (components target)
  write "" (ups.map (fun _ => up) ++ downs)

/-- The last component, without which a path has no name. -/
def name (path : String) : String :=
  (components path).getLast?.getD ""

/-- What follows the last dot of a name, with the dot. A dot at either end does not count. -/
def extension (path : String) : String :=
  let name := (name path).toList
  match (Text.splitOn '.' name).reverse with
  | last :: before :: more =>
    if last.isEmpty ∨ (before.isEmpty ∧ more.isEmpty) then ""
    else String.ofList ('.' :: last)
  | _ => ""

end CodeBehind.Path
