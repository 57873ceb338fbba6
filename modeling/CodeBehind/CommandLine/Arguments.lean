import CodeBehind.CommandLine.Grammar
import CodeBehind.CommandLine.Pages
import CodeBehind.Log

/-!
The arguments of the program.

The program has two commands. Their switches are read by a grammar of their own, after the grammar
of the program itself has found which command it is.
-/

namespace CodeBehind.CommandLine

/-- What generating one file needs to know. -/
structure GenerateArguments where
  input : String
  output? : Option SwitchValue
  services : SwitchValue
  projectName : SwitchValue
  referencedVersion? : Option String
  config? : Option String
  verbose : Bool
deriving DecidableEq, Repr

/-- A command. -/
inductive Command where
  | generate (a : GenerateArguments)
  | languages
deriving DecidableEq, Repr

/-- The arguments of the program. Without a command only help is shown. -/
structure Arguments where
  level : SwitchValue
  command? : Option Command
deriving DecidableEq, Repr

/-- An end of the program before it has begun: its exit code and what it prints. -/
structure Exit where
  code : Int
  out : String := ""
  err : String := ""
deriving DecidableEq, Repr

/-- The end that a halt brings about on a page. -/
def Halt.exit (p : Page) : Halt → Exit
  | .help => { code := 0, out := p.help }
  | .version => { code := 0, out := versionLine }
  | .complaint c =>
    { code := 2, err := p.usage ++ p.program ++ ": error: " ++ c.message ++ "\n" }

def helpSwitch : Switch :=
  { spellings := ["-h", "--help"], purpose := .help }

/-- A switch with any value. -/
def valueSwitch (spellings : List String) : Switch :=
  { spellings, purpose := .value [] }

def levels : List (String × Severity) :=
  [Severity.debug, .info, .warning, .error].map fun s => (s.label, s)

def mainGrammar : Grammar where
  switches := [
    helpSwitch,
    { spellings := ["--version"], purpose := .version },
    { spellings := ["--log-level"], purpose := .value (levels.map (·.1)) }]
  operand? := some (.command "command" ["generate", "languages"])

def generateGrammar : Grammar where
  switches := [
    helpSwitch,
    valueSwitch ["--output", "-o"],
    { valueSwitch ["--services"] with required := true },
    valueSwitch ["--project-name"],
    valueSwitch ["--referenced-version"],
    valueSwitch ["--config"],
    { spellings := ["--verbose"], purpose := .flag }]
  operand? := some (.word "input")

def languagesGrammar : Grammar where
  switches := [helpSwitch]

/-- The arguments for generating that were read. An empty list is no version and no path of a
configuration. -/
def GenerateArguments.ofReading (r : Reading) : GenerateArguments where
  input := (r.operand?.bind (·.head?)).getD ""
  output? := r.value? "--output"
  services := (r.value? "--services").getD (.text "")
  projectName := (r.value? "--project-name").getD (.text "Project")
  referencedVersion? := (r.value? "--referenced-version").bind (·.text?)
  config? := (r.value? "--config").bind (·.text?)
  verbose := r.has "--verbose"

/-- The command that was named, with what its own reading did not ask for. -/
def readCommand (name : String) (arguments : List String) :
    Except Exit (Command × List String) :=
  if name = "generate" then do
    let r ← (generateGrammar.read arguments).mapError (·.exit generatePage)
    return (.generate (.ofReading r), r.extras)
  else do
    let r ← (languagesGrammar.read arguments).mapError (·.exit languagesPage)
    return (.languages, r.extras)

def Arguments.read (arguments : List String) : Except Exit Arguments := do
  let r ← (mainGrammar.read arguments).mapError (·.exit mainPage)
  let level := (r.value? "--log-level").getD (.text Severity.warning.label)
  let (command?, extras) ←
    match r.operand? with
    | some (name :: rest) => do
      let (command, extras) ← readCommand name rest
      pure (some command, extras)
    | _ => pure (none, [])
  match r.extras ++ extras with
  | [] => return { level, command? }
  | unknown => throw (Halt.exit mainPage (.complaint (.unrecognized unknown)))

end CodeBehind.CommandLine
