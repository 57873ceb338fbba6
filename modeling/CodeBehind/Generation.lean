import CodeBehind.Compatibility
import CodeBehind.Config
import CodeBehind.Generation.Journal
import CodeBehind.Registry
import CodeBehind.Templates

/-!
The generation of one file.

A generation asks the services for the project's settings, checks that the generator fits the
framework that the project references, reads the feature file, has its code generated and writes the
companion file. When the check or the generator fails, the companion file gets the diagnostics
instead, as statements of the project's language. All other trouble is an infrastructure fault,
which is logged and emitted, and nothing is written.

`ProjectSetup.run` is the whole of it. Its stages are parts (`prepare`, `content`), which know
nothing of subscribers; `run` joins them and emits the notices between them.
-/

namespace CodeBehind

/-- What stays the same from one generation of a project to the next. Emissions made by handlers may
nest `depth` times. A strict log fails the call that logs a record without a text, as the handler of
the console does; other handlers of the log pass over such a record. -/
structure ProjectSetup where
  project : Project
  registry : Registry := .bundled
  config : Config := .standard
  templates : TemplateEngine := Templates.builtin
  behaviour : Behaviour
  depth : Nat := Channel.usualDepth
  strictLog : Bool := false

/-- One generation asked for. Without an output path the input path with the language's extension
serves. `directory` is where relative folders start from, and `trace` tells where a fault of the
generator was raised. -/
structure Request where
  input : String
  output? : Option String := none
  provider : Except Fault Services
  reader : InputReader
  writer : OutputWriter
  directory : String
  trace : List String := []

/-- How a generation ended: its steps, the subscriptions afterwards, and the path that was written,
unless nothing was or a fault interrupted it. -/
structure Run where
  journal : List Step := []
  channel : Channel
  outcome : Except Fault (Option String)

def Run.after (journal : List Step) (r : Run) : Run :=
  { r with journal := journal ++ r.journal }

/-- What there is to generate: all that preparing found out. -/
structure Target where
  services : Services
  settings : ProjectSettings
  renderer : Renderer
  output : String

/-- What preparing comes to: a target, or a file that holds a diagnostic already. -/
inductive Prepared where
  | written (path : String)
  | ready (target : Target)

/-- The text of a companion file and the diagnostics that it holds. -/
structure Content where
  text : String
  diagnostics : List Diagnostic := []
deriving DecidableEq, Repr

/-- What announcing notices comes to: its steps, the subscriptions afterwards, and how it ended. -/
structure Announcement where
  journal : List Step := []
  channel : Channel
  ending : Channel.Ending

/-- What stands between the lines of a diagnostic. Only a text can. -/
def Config.separator (c : Config) : Except Fault String :=
  match c.lineEnding with
  | .text s => .ok s
  | v =>
    .error (.builtin "AttributeError" ("'" ++ v.kindName ++ "' object has no attribute 'join'"))

namespace ProjectSetup

/-! ### Diagnostics -/

def render (p : ProjectSetup) (r : Renderer) (message? : Option String) : Part String :=
  ⟨[.render message?], do r.renderLines message? (← p.config.separator)⟩

/-- A version as a name of a template stands for it. -/
def versionThing (version? : Option Version) : Thing :=
  match version? with
  | some v => .version v
  | none => .value .null

def messageContext (p : ProjectSetup) : Context := [
  ("project_name", .value (.text p.project.name)),
  ("framework_name", .value p.config.frameworkName),
  ("framework_package", .value p.config.frameworkPackage),
  ("documentation_url", .value p.config.documentationUrl)]

def noReferenceMessage (p : ProjectSetup) : Except Fault String :=
  p.templates.render Templates.noReference p.messageContext

def versionConflictMessage (p : ProjectSetup) (actual? : Option Version) : Except Fault String :=
  p.templates.render Templates.versionConflict
    (p.messageContext ++ [
      ("generator_version", versionThing actual?),
      ("referenced_version", versionThing p.project.referenced?)])

def writeMessage (p : ProjectSetup) (q : Request) (r : Renderer) (output : String)
    (message : Except Fault String) : Part Prepared := do
  let content ← p.render r (some (← message))
  Part.askLogged (.write output content) (q.writer output content)
  return .written output

/-! ### Preparing -/

def locate (p : ProjectSetup) (q : Request) : Part Target := do
  let services ← Part.ask .provideServices q.provider
  let settings ← Part.ask .projectSettings services.settings
  let renderer ← (p.registry.get settings.language?).mapError RegistryError.fault
  return { services, settings, renderer
           output := q.output?.getD (q.input ++ renderer.fileExtension) }

/-- The version of the generator, which matters only to a project that references the framework. -/
def generatorVersion (p : ProjectSetup) (services : Services) : Part (Option Version) :=
  if p.project.referenced?.isSome then Part.ask .generatorVersion services.version else pure none

def noReferenceWarning (p : ProjectSetup) : Except Fault String := do
  return "Project '" ++ p.project.name ++ "' does not reference " ++
    (← (Thing.value p.config.frameworkName).shown)

def versionConflictWarning (p : ProjectSetup) (actual? declared? : Option Version) :
    Except Fault String := do
  return "Generator " ++ (← (versionThing actual?).shown) ++ " does not match version " ++
    (← (versionThing declared?).shown) ++ " referenced by '" ++ p.project.name ++ "'"

/-- Clears a target for generation. A project that does not reference the framework, or references
another version than the generator's, gets its diagnostics here. -/
def clear (p : ProjectSetup) (q : Request) (t : Target) : Part Prepared := do
  let version? ← p.generatorVersion t.services
  let found ← Compatibility.check p.project.referenced? version?
  match found.status with
  | .compatible => return .ready t
  | .noDeclaredDependency =>
    Part.warn p.strictLog p.noReferenceWarning
    p.writeMessage q t.renderer t.output p.noReferenceMessage
  | .versionMismatch =>
    Part.warn p.strictLog (p.versionConflictWarning found.actual? found.declared?)
    p.writeMessage q t.renderer t.output (p.versionConflictMessage found.actual?)

/-- Finds out what there is to generate, and whether it is to be generated. -/
def prepare (p : ProjectSetup) (q : Request) : Part Prepared := do
  p.clear q (← p.locate q)

/-! ### Generating -/

/-- The feature file as the generator gets it. -/
def featureFile (directory folder input content : String) : FeatureFile :=
  let folder := Path.absolute directory folder
  { path := Path.relative folder (Path.normalize (Path.join folder input)), content }

def noResult : Fault :=
  .builtin "AttributeError" "'NoneType' object has no attribute 'success'"

/-- Has the code generated. The generator is closed on every path, and a fault of closing counts
instead of what came before. -/
def generateCode (q : Request) (t : Target) (content : String) : Part GenerationResult := do
  let generator ← Part.ask .createGenerator t.services.create
  let file := featureFile q.directory t.settings.folder q.input content
  let made := Part.ask (.generate file {}) (generator.generate file {})
  let closed := Part.ask .close generator.close
  let result? ← (⟨made.journal ++ closed.journal, closed.outcome.bind fun _ => made.outcome⟩ :
    Part (Option GenerationResult))
  match result? with
  | some result => return result
  | none => Part.ofOutcome (.error noResult)

/-- The diagnostics of a failed result. All of them are rendered before any is emitted. -/
def errorContent (p : ProjectSetup) (t : Target) (errors : List Diagnostic) : Part Content := do
  Part.log (.warning ("Generation reported " ++ Nat.repr errors.length ++ " error(s)"))
  let separator ← p.config.separator
  let blocks ← errors.mapM fun e => p.render t.renderer e.message?
  return { text := separator.intercalate blocks, diagnostics := errors }

/-- What there is to tell of a fault: its description, where its kind is at home, and where it was
raised. -/
def faultMessage (q : Request) (f : Fault) (separator : String) : String :=
  separator.intercalate [f.summary, "", f.kind.source, String.join q.trace]

def faultContent (p : ProjectSetup) (q : Request) (t : Target) (f : Fault) : Part Content := do
  Part.log (.warning ("Test generator failed for " ++ q.input ++ ": " ++ f.summary))
  let separator ← p.config.separator
  let text ← p.render t.renderer (some (faultMessage q f separator))
  return { text, diagnostics := [.ofFault f] }

/-- The content that a generator's outcome comes to. Only an ordinary fault becomes content. -/
def contentOf (p : ProjectSetup) (q : Request) (t : Target) :
    Except Fault GenerationResult → Part Content
  | .ok result =>
    if result.isSuccess then pure { text := result.code?.getD "" }
    else p.errorContent t result.errors
  | .error f => if f.isOrdinary then p.faultContent q t f else .ofOutcome (.error f)

def content (p : ProjectSetup) (q : Request) (t : Target) (source : String) : Part Content :=
  let code := generateCode q t source
  (p.contentOf q t code.outcome).after code.journal

/-! ### The whole generation -/

/-- Emits notices one after the other, up to the first whose emission a fault leaves. -/
def announce (p : ProjectSetup) : List Notice → Channel → Announcement
  | [], channel => { channel, ending := .returned }
  | notice :: rest, channel =>
    let e := channel |> Channel.emit p.behaviour p.depth notice
    let steps := Step.ofEmission notice e
    match e.ending with
    | .returned =>
      let more := p.announce rest e.channel
      { more with journal := steps ++ more.journal }
    | .raised f => { journal := steps, channel := e.channel, ending := .raised f }

/-- Ends a generation with a fault: an ordinary one is logged and emitted, any other leaves it. -/
def giveUp (p : ProjectSetup) (channel : Channel) (trouble : String) (f : Fault) : Run :=
  if f.isOrdinary then
    let told := p.announce [.other f] channel
    { journal := .log (.error trouble) :: told.journal
      channel := told.channel
      outcome :=
        match told.ending with
        | .returned => .ok none
        | .raised f => .error f }
  else { channel, outcome := .error f }

/-- Goes on with the result of a part, or ends the generation with its fault. -/
def proceed {α : Type} (p : ProjectSetup) (channel : Channel) (trouble : String) (part : Part α)
    (next : α → Run) : Run :=
  match part.outcome with
  | .ok a => (next a).after part.journal
  | .error f => (p.giveUp channel trouble f).after part.journal

def deliver (p : ProjectSetup) (q : Request) (t : Target) (channel : Channel) (text : String) :
    Run :=
  p.proceed channel ("Could not write " ++ t.output)
    (Part.askLogged (.write t.output text) (q.writer t.output text)) fun _ =>
      { journal := [.log (.debug ("Wrote " ++ t.output))]
        channel
        outcome := .ok (some t.output) }

def contentTrouble (q : Request) : String :=
  "Could not render diagnostics for " ++ q.input

def publish (p : ProjectSetup) (q : Request) (t : Target) (channel : Channel) (content : Content) :
    Run :=
  let told := p.announce (content.diagnostics.map .generation) channel
  match told.ending with
  | .returned => (p.deliver q t told.channel content.text).after told.journal
  | .raised f => (p.giveUp told.channel (contentTrouble q) f).after told.journal

/-- Has the content made and publishes it. -/
def generate (p : ProjectSetup) (q : Request) (t : Target) (channel : Channel) (source : String) :
    Run :=
  p.proceed channel (contentTrouble q) (p.content q t source) (p.publish q t channel)

/-- Reads the feature file and generates from it. -/
def readAndGenerate (p : ProjectSetup) (q : Request) (channel : Channel) (t : Target) : Run :=
  p.proceed channel ("Could not read " ++ q.input)
    (Part.askLogged (.read q.input) (q.reader q.input)) (p.generate q t channel)

/-- Generates one file. -/
def run (p : ProjectSetup) (channel : Channel) (q : Request) : Run :=
  let start : LogRecord :=
    .debug ("Generating " ++ q.input ++ " for project '" ++ p.project.name ++ "'")
  (p.proceed channel ("Could not prepare generation of " ++ q.input) (p.prepare q) fun
    | .written path => { channel, outcome := .ok (some path) }
    | .ready t => p.readAndGenerate q channel t).after [.log start]

end ProjectSetup

end CodeBehind
