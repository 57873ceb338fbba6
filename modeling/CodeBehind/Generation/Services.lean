import CodeBehind.Diagnostic
import CodeBehind.TextFile
import CodeBehind.Version

/-!
The world around a generation.

The compiler of feature files lies outside this library. A generation reaches it through services,
which tell the settings of the project and their own version and hand out one generator for each
file. All that matters of a collaborator is how its calls end, since none is called twice in one
generation.
-/

namespace CodeBehind

/-- A project: its name and the version of the framework that it references, if it does. -/
structure Project where
  name : String
  referenced? : Option Version := none
deriving DecidableEq, Repr

/-- What the services tell of a project. -/
structure ProjectSettings where
  folder : String
  language? : Option String
deriving DecidableEq, Repr

/-- A feature file as the generator gets it: its path as seen from the project's folder, and its
text. -/
structure FeatureFile where
  path : String
  content : String
deriving DecidableEq, Repr

/-- What a generator is asked to do besides generating. -/
structure GenerationSettings where
  checkUpToDate : Bool := false
  writeResultToFile : Bool := false
deriving DecidableEq, Repr

/-- A generator for one file. It may return nothing at all. -/
structure TestGenerator where
  generate : FeatureFile → GenerationSettings → Except Fault (Option GenerationResult)
  close : Except Fault Unit

/-- The services of a project. -/
structure Services where
  settings : Except Fault ProjectSettings
  version : Except Fault (Option Version)
  create : Except Fault TestGenerator

abbrev InputReader := String → Reply String

abbrev OutputWriter := String → String → Reply Unit

end CodeBehind
