import CodeBehind.Fault.Arguments
import CodeBehind.Path

/-!
Disks.

A disk is a tree of directories with files of octets in it, together with the directory that
relative paths start from. A path is followed component by component, so that every component but
the last must be a directory that is there. What stands in the way is an `AccessError`.

Links are left out: a disk here is a tree without them. On a disk with a link to a directory two
dots after the link lead above the directory that is linked to, not back to where the link stands,
so that what is said here of paths with two dots does not hold there.
-/

namespace CodeBehind

/-- Where something lies on a disk: the names from the root on. -/
abbrev Location := List String

/-- A file. -/
structure File where
  location : Location
  octets : List UInt8
deriving DecidableEq, Repr

/-- A disk without links: the directory that relative paths start from, the directories that were
made, and the files. A directory is there also when something below it is. -/
structure Disk where
  home : Location := []
  directories : List Location := []
  files : List File := []
deriving DecidableEq, Repr

/-- What stands in the way of an access. -/
inductive AccessError where
  | notFound
  | notDirectory
  | isDirectory
  | nameTooLong
  | nullCharacter
deriving DecidableEq, Repr

namespace AccessError

/-- The fault of an access to a path. -/
def fault (path : String) : AccessError → Fault
  | notFound => system 2 "No such file or directory"
  | notDirectory => system 20 "Not a directory"
  | isDirectory => system 21 "Is a directory"
  | nameTooLong => system 36 "File name too long"
  | nullCharacter => .builtin "ValueError" "embedded null byte"
where
  /-- A fault of the operating system. -/
  system (number : Int) (text : String) : Fault :=
    .ofArguments "OSError" [.int number, .text text, .text path]

/-- The operating system refuses the access. A null character does not get that far. -/
def isSystem : AccessError → Bool
  | nullCharacter => false
  | _ => true

end AccessError

namespace Disk

def isDirectory (d : Disk) (l : Location) : Bool :=
  l.isPrefixOf d.home || d.directories.any (l.isPrefixOf ·) ||
    d.files.any fun f => l.isPrefixOf f.location && l != f.location

def octets? (d : Disk) (l : Location) : Option (List UInt8) :=
  (d.files.find? (·.location = l)).map (·.octets)

def holds (d : Disk) (l : Location) : Bool :=
  d.isDirectory l || (d.octets? l).isSome

/-- The longest name of a component, in octets. -/
def maxName : Nat := 255

/-- Paths are shorter than this, in octets. -/
def pathLimit : Nat := 4096

/-- Follows components from a location on. The last one need not be there. -/
def walk (d : Disk) (l : Location) : List String → Except AccessError Location
  | [] => .ok l
  | c :: rest =>
    if !d.isDirectory l then .error .notDirectory
    else if c = Path.up then walk d l.dropLast rest
    else if maxName < c.utf8ByteSize then .error .nameTooLong
    else if rest.isEmpty || d.holds (l ++ [c]) then walk d (l ++ [c]) rest
    else .error .notFound

/-- Where a path leads. A path with a slash or a single dot at its end leads to a directory only. -/
def locate (d : Disk) (path : String) : Except AccessError Location := do
  if path.toList.contains '\x00' then throw .nullCharacter
  if pathLimit ≤ path.utf8ByteSize then throw .nameTooLong
  let l ← d.walk (if Path.isAbsolute path then [] else d.home) (Path.components path)
  if Path.endsInDirectory path && !d.isDirectory l then
    throw (if d.holds l then .notDirectory else .notFound)
  return l

/-- The path leads to something. Only a path that is too long cannot be asked about. -/
def exists? (d : Disk) (path : String) : Except AccessError Bool :=
  match d.locate path with
  | .ok l => .ok (d.holds l)
  | .error .nameTooLong => .error .nameTooLong
  | .error _ => .ok false

def read (d : Disk) (path : String) : Except AccessError (List UInt8) := do
  let l ← d.locate path
  if d.isDirectory l then throw .isDirectory
  match d.octets? l with
  | some octets => return octets
  | none => throw .notFound

def put (d : Disk) (l : Location) (octets : List UInt8) : Disk :=
  { d with files := ⟨l, octets⟩ :: d.files.filter (·.location ≠ l) }

/-- Writes a file at a path, in place of the one that is there. -/
def write (d : Disk) (path : String) (octets : List UInt8) : Except AccessError Disk := do
  let l ← d.locate path
  if d.isDirectory l then throw .isDirectory
  return d.put l octets

end Disk

end CodeBehind
