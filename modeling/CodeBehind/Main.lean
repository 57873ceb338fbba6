import CodeBehind.CommandLine

/-!
The executable.

Before the program runs, the files that its arguments may name are copied onto a disk of the model,
and afterwards what was written there is written to the real one. No modules with services can be
loaded from here.
-/

namespace CodeBehind.CommandLine

/-- The texts among the arguments that may be paths: the arguments and the values joined to them. -/
def candidatePaths (arguments : List String) : List String :=
  arguments.flatMap fun argument =>
    match splitEquals? argument.toList with
    | some (_, value) => [argument, String.ofList value]
    | none => [argument]

def place (home : Location) (path : String) : Location :=
  Path.cancel true ((if Path.isAbsolute path then [] else home) ++ Path.components path)

def pathTo (l : Location) : String :=
  Path.write "/" l

/-- The file at a place, if there is one that can be read. -/
def readFile? (l : Location) : IO (Option File) := do
  try
    let octets ← IO.FS.readBinFile (pathTo l)
    return some ⟨l, octets.toList⟩
  catch _ => return none

def existing (l : Location) : IO (List Location) := do
  let here ← IO.currentDir
  (List.range (l.length + 1)).filterMapM fun n => do
    try
      let _ ← (here / pathTo (l.take n)).readDir
      return some (l.take n)
    catch _ => return none

/-- The disk as far as the arguments name parts of it. -/
def snapshot (arguments : List String) : IO Disk := do
  let home := Path.components (← IO.currentDir).toString
  let places := (candidatePaths arguments).map (place home)
  let files ← places.filterMapM readFile?
  let directories ← places.mapM existing
  return { home, directories := directories.flatten, files }

def persist (before after : Disk) : IO Unit :=
  after.files.forM fun f =>
    if before.octets? f.location = some f.octets then pure ()
    else IO.FS.writeBinFile (pathTo f.location) (ByteArray.mk f.octets.toArray)

/-- The exit code of an ending. -/
def Ending.code : Ending → Int
  | .exited code | .returned code => code
  | .raised _ => 1

/-- Runs the program on the real disk and gives its exit code. -/
def execute (arguments : List String) : IO UInt32 := do
  let disk ← snapshot arguments
  let r := run { disk, modules := { outcomes := [] } } arguments
  persist disk r.disk
  IO.print r.out
  IO.eprint r.err
  r.logs.forM fun record => IO.eprintln (record.severity.label ++ " " ++ record.message)
  match r.ending with
  | .raised f => IO.eprintln (f.kind.name ++ ": " ++ f.summary)
  | _ => pure ()
  return UInt32.ofNat r.ending.code.toNat

end CodeBehind.CommandLine

def main (arguments : List String) : IO UInt32 :=
  CodeBehind.CommandLine.execute arguments
