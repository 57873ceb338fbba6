import CodeBehind.Generation

/-!
Generations on a disk.

Reader and writer of such a generation are those for text files. A generation writes at most once,
after all its reading, so the disk that it reads is the one it began with, and the disk it leaves
behind is that disk with what was written.
-/

namespace CodeBehind

namespace Disk

def reader (d : Disk) : InputReader :=
  TextFile.read d

def writer (d : Disk) : OutputWriter := fun path content =>
  let reply := TextFile.write d path content
  ⟨reply.logs, reply.outcome.map fun _ => ()⟩

/-- The disk after a file has been written, which is the same disk if it cannot be. -/
def written (d : Disk) (path content : String) : Disk :=
  match (TextFile.write d path content).outcome with
  | .ok d => d
  | .error _ => d

def after (d : Disk) (journal : List Step) : Disk :=
  (Journal.writes journal).foldl (fun d w => d.written w.1 w.2) d

def homePath (d : Disk) : String :=
  Path.write "/" d.home

end Disk

/-- A generation asked for on a disk. -/
def Request.onDisk (d : Disk) (input : String) (output? : Option String)
    (provider : Except Fault Services) (trace : List String) : Request where
  input
  output?
  provider
  reader := d.reader
  writer := d.writer
  directory := d.homePath
  trace

end CodeBehind
