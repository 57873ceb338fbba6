/-!
The pages of the command line.

Every command has a page with its usage and its help, set out for eighty columns.
-/

namespace CodeBehind.CommandLine

/-- The page of a command: its full name, its usage, and what help shows after the usage. -/
structure Page where
  program : String
  usage : String
  details : String
deriving DecidableEq, Repr

def Page.help (p : Page) : String :=
  p.usage ++ "\n" ++ p.details

def programName : String := "featuregen"

def programVersion : String := "0.1.0"

/-- What asking for the version shows. -/
def versionLine : String :=
  programName ++ " " ++ programVersion ++ "\n"

def mainPage : Page where
  program := programName
  usage :=
    "usage: featuregen [-h] [--version] [--log-level \x7bDEBUG,INFO,WARNING,ERROR\x7d]\n" ++
    "                  \x7bgenerate,languages\x7d ...\n"
  details :=
    "Generate test code behind feature files\n" ++
    "\n" ++
    "positional arguments:\n" ++
    "  \x7bgenerate,languages\x7d\n" ++
    "    generate            Generate the file behind a feature file\n" ++
    "    languages           List supported target languages\n" ++
    "\n" ++
    "options:\n" ++
    "  -h, --help            show this help message and exit\n" ++
    "  --version             show program's version number and exit\n" ++
    "  --log-level \x7bDEBUG,INFO,WARNING,ERROR\x7d\n" ++
    "                        Logging level (default: WARNING)\n" ++
    "\n" ++
    "Examples:\n" ++
    "  featuregen generate Features/Login.feature --services my_gen.services:create " ++
      "--referenced-version 3.9\n" ++
    "  featuregen generate Login.feature -o Login.feature.cs --services my_gen.services:create\n" ++
    "  featuregen languages\n"

def generatePage : Page where
  program := programName ++ " generate"
  usage :=
    "usage: featuregen generate [-h] [--output OUTPUT] --services MODULE:FACTORY\n" ++
    "                           [--project-name PROJECT_NAME]\n" ++
    "                           [--referenced-version X.Y[.Z]] [--config FILE]\n" ++
    "                           [--verbose]\n" ++
    "                           input\n"
  details :=
    "positional arguments:\n" ++
    "  input                 Feature file, relative to the project folder or\n" ++
    "                        absolute\n" ++
    "\n" ++
    "options:\n" ++
    "  -h, --help            show this help message and exit\n" ++
    "  --output OUTPUT, -o OUTPUT\n" ++
    "                        Output file (default: input plus language extension)\n" ++
    "  --services MODULE:FACTORY\n" ++
    "                        Callable returning the generator services\n" ++
    "  --project-name PROJECT_NAME\n" ++
    "                        Name of the consuming project\n" ++
    "  --referenced-version X.Y[.Z]\n" ++
    "                        Framework version referenced by the project (omit if\n" ++
    "                        not referenced)\n" ++
    "  --config FILE         JSON configuration file\n" ++
    "  --verbose             Print the written output\n"

def languagesPage : Page where
  program := programName ++ " languages"
  usage := "usage: featuregen languages [-h]\n"
  details :=
    "options:\n" ++
    "  -h, --help  show this help message and exit\n"

end CodeBehind.CommandLine
