import CodeBehind.CommandLine.Arguments
import CodeBehind.Config.Storage
import CodeBehind.Console
import CodeBehind.Generation.Lookup
import CodeBehind.Generation.OnDisk
import CodeBehind.Version.Parse

/-!
The program.

The program generates one file as an editor would on saving, or lists the languages. It works on a
disk and finds the services among the modules that can be loaded; all that it does is in its
`Report`. A fault of the command line is told and gives the exit code 1, and so does a generation
that writes nothing.
-/

namespace CodeBehind.CommandLine

/-- What the program finds around it: a disk, modules, how deeply the brackets of a configuration
may nest, and the trace that faults of the generator come with. -/
structure World where
  disk : Disk
  modules : Modules
  nesting : Nat := Config.usualNesting
  trace : List String := []

/-- How the program ends: its arguments end it, it returns an exit code, or a fault leaves it. -/
inductive Ending where
  | exited (code : Int)
  | returned (code : Int)
  | raised (fault : Fault)
deriving DecidableEq, Repr

/-- All that a run of the program does. -/
structure Report where
  ending : Ending
  out : String := ""
  err : String := ""
  logs : List LogRecord := []
  journal : List Step := []
  disk : Disk

namespace Report

/-- Prints what may turn out not to be printable. -/
def print (r : Report) (text : Except Console.MarkupError String) : Report :=
  match r.ending, text with
  | .raised _, _ => r
  | _, .ok text => { r with out := r.out ++ text }
  | _, .error e => { r with ending := .raised e.fault }

/-- Logs a record, unless a fault has left the program. -/
def log (r : Report) (record : LogRecord) : Report :=
  match r.ending with
  | .raised _ => r
  | _ => { r with logs := r.logs ++ [record] }

end Report

/-! ### Notices -/

def generationPrinter : String := "generation errors"

def otherPrinter : String := "other errors"

def noticeLine (notice : Notice) : Except Fault String :=
  let shown (markup : String) : Except Fault String :=
    (Console.line markup).mapError (·.fault)
  match notice with
  | .generation d =>
    do shown ("[yellow]⚠️  " ++ Console.escape (← d.text) ++ "[/yellow]")
  | .other f =>
    match f.description? with
    | some text => shown ("[red]✗ " ++ f.kind.name ++ ":[/red] " ++ Console.escape text)
    | none => .error .indescribable

/-- The printing handlers fail where there is nothing to print. -/
def printing : Behaviour := fun _ notice =>
  match noticeLine notice with
  | .ok _ => []
  | .error f => [.raise f]

def printingChannel : Channel :=
  ({ : Channel }.subscribe .generation generationPrinter).subscribe .other otherPrinter

/-- What the printing handlers print in the course of a journal. -/
def printedNotices (journal : List Step) : String :=
  String.join (journal.filterMap fun
    | .notify _ notice => (noticeLine notice).toOption
    | _ => none)

/-! ### Commands -/

/-- The version that the project references. An empty text is no version. -/
def referencedVersion (text? : Option String) : Except Fault (Option Version) :=
  match text? with
  | none | some "" => .ok none
  | some text => ((Version.parse (some text)).map some).mapError (.commandLine ·.message)

/-- The configuration at a path. All trouble with it is a fault of the command line. -/
def loadConfig (w : World) (path? : Option String) : Except Fault Config :=
  (Config.load w.nesting w.disk path? []).mapError fun f =>
    .commandLine ("Configuration error: " ++ f.description?.getD "")

/-- The fault of an empty list in the place of a text, which lacks the attribute with a name. -/
def noText (asked : String) : Fault :=
  .builtin "AttributeError" ("'list' object has no attribute '" ++ asked ++ "'")

def findServices (w : World) : SwitchValue → Except Fault (Except Fault Services)
  | .text path => do return (← w.modules.factory path).services
  | .emptyList => .error (noText "partition")

/-- What a generation needs: its setup and its services. The version is looked at first, then the
configuration, then the services. The log goes to the handler of the console, which is strict, so a
log that admits warnings is. -/
def prepare (w : World) (level : Severity) (a : GenerateArguments) :
    Except Fault (ProjectSetup × Except Fault Services) := do
  let referenced? ← referencedVersion a.referencedVersion?
  let config ← loadConfig w a.config?
  let services ← findServices w a.services
  let setup : ProjectSetup := {
    project := { name := a.projectName.display, referenced? }
    config
    behaviour := printing
    strictLog := level.rank ≤ Severity.warning.rank }
  return (setup, services)

/-- A fault of the command line, which is told to the user. -/
def isTold (f : Fault) : Bool :=
  f.isA FaultKind.commandLine.name

/-- Tells of a fault that kept the program from its work. Only a fault of the command line is
told. -/
def refuse (w : World) (f : Fault) : Report :=
  if isTold f then
    match f.description? with
    | some text =>
      ({ ending := .returned 1, disk := w.disk : Report }.print
        (Console.line ("[red]✗ Error:[/red] " ++ text))).log (.debug "CLI error")
    | none => { ending := .raised .indescribable, disk := w.disk }
  else { ending := .raised f, disk := w.disk }

def tell (a : GenerateArguments) (journal : List Step) (r : Report) :
    Except Fault (Option String) → Report
  | .error f => { r with ending := .raised f }
  | .ok none =>
    { r with ending := .returned 1 }.print
      (Console.line ("[red]✗ No output written for " ++ Console.escape a.input ++ "[/red]"))
  | .ok (some path) =>
    let told := { r with ending := .returned 0 }.print
      (Console.line ("[green]✓[/green] Wrote [cyan]" ++ path ++ "[/cyan]"))
    if a.verbose then
      let content := (Assoc.get? (Journal.writes journal) path).getD ""
      told.print (Console.panel path (Console.escape content))
    else told

def noPath : OutputWriter := fun _ _ =>
  { outcome := .error (.builtin "TypeError" "expected str, bytes or os.PathLike object, not list") }

/-- The generation that the arguments ask for. -/
def request (w : World) (a : GenerateArguments) (services : Except Fault Services) : Request :=
  let q : Request :=
    .onDisk w.disk a.input (a.output?.map (·.display)) services w.trace
  match a.output? with
  | some .emptyList => { q with writer := noPath }
  | _ => q

def generate (w : World) (level : Severity) (a : GenerateArguments) : Report :=
  match prepare w level a with
  | .error f => refuse w f
  | .ok (setup, services) =>
    let run := setup.run printingChannel (request w a services)
    tell a run.journal
      { ending := .returned 0
        out := printedNotices run.journal
        logs := Journal.logs run.journal
        journal := run.journal
        disk := w.disk.after run.journal }
      run.outcome

/-- What the table of languages says of one. -/
def languageRow (i : Registry.LanguageInfo) : List String :=
  [i.displayName, i.fileExtension,
    if i.aliases.isEmpty then "none" else ", ".intercalate i.aliases, i.sample]

def languages (w : World) : Report :=
  match Registry.bundled.allInfo with
  | .ok infos =>
    { ending := .returned 0
      out := Console.table "📋 Supported Languages"
        ["Language", "Extension", "Aliases", "Error statement"] (infos.map (languageRow ·.2))
      disk := w.disk }
  | .error f => { ending := .raised f, disk := w.disk }

def perform (w : World) (level : Severity) : Option Command → Report
  | none => { ending := .returned 1, out := mainPage.help, disk := w.disk }
  | some (.generate a) => generate w level a
  | some .languages => languages w

def severity : SwitchValue → Except Fault Severity
  | .text name => .ok (((levels.find? (·.1 = name)).map (·.2)).getD .warning)
  | .emptyList => .error (.builtin "TypeError" "attribute name must be string, not 'list'")

/-- Runs the program. Only records of the chosen level are kept. -/
def run (w : World) (arguments : List String) : Report :=
  match Arguments.read arguments with
  | .error e => { ending := .exited e.code, out := e.out, err := e.err, disk := w.disk }
  | .ok a =>
    match severity a.level with
    | .error f => { ending := .raised f, disk := w.disk }
    | .ok level =>
      let r := perform w level a.command?
      { r with logs := LogRecord.admitted level.rank r.logs }

end CodeBehind.CommandLine
