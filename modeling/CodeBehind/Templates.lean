import CodeBehind.Template.Render

/-!
Named templates.

A collection holds the sources of templates by name. Two names are always there: the message about a
project that does not reference the framework and the message about versions that do not fit. Both
can be replaced.
-/

namespace CodeBehind

/-- The sources of templates, by name. -/
abbrev Templates := Assoc String

namespace Templates

def versionConflict : String := "version_conflict"

def noReference : String := "no_reference"

def versionConflictSource : String :=
  "Version conflict - \x7b\x7b framework_name \x7d\x7d Visual Studio extension attempted to use " ++
    "\x7b\x7b framework_name \x7d\x7d code-behind generator " ++
    "\x7b\x7b generator_version.to_string(2) \x7d\x7d, but project " ++
    "'\x7b\x7b project_name \x7d\x7d' references \x7b\x7b framework_name \x7d\x7d " ++
    "\x7b\x7b referenced_version.to_string(2) \x7d\x7d.\n" ++
    "We recommend migrating to MSBuild code-behind generation to resolve this issue.\n" ++
    "For more information see \x7b\x7b documentation_url \x7d\x7d"

def noReferenceSource : String :=
  "Could not find a reference to \x7b\x7b framework_name \x7d\x7d in project " ++
    "'\x7b\x7b project_name \x7d\x7d'.\n" ++
    "Please add the '\x7b\x7b framework_package \x7d\x7d' package to the project and use " ++
    "MSBuild generation instead of using \x7b\x7b framework_name \x7d\x7dSingleFileGenerator.\n" ++
    "For more information see \x7b\x7b documentation_url \x7d\x7d"

/-- The templates that are always there. -/
def builtin : Templates :=
  [(versionConflict, versionConflictSource), (noReference, noReferenceSource)]

/-- The templates that are always there, with others added or put in their place. -/
def withAdded (added : Assoc String) : Templates :=
  Assoc.merge builtin added

def add (t : Templates) (name source : String) : Templates :=
  Assoc.put t name source

def holds (t : Templates) (name : String) : Bool :=
  Assoc.has t name

/-- A context may say anything but what the template itself is. -/
def checkContext (context : Context) : Except TemplateError Unit :=
  if context.has "self" then
    .error (.fault (.builtin "TypeError"
      "Template.render() got multiple values for argument 'self'"))
  else .ok ()

def render (t : Templates) (name : String) (context : Context) : Except Fault String :=
  Except.mapError (TemplateError.toFault name) do
    match Assoc.get? t name with
    | none => throw (.unknown name)
    | some source =>
      let template ← Template.read source
      checkContext context
      Template.render name context template

end Templates

/-- What renders named templates for a generation. -/
structure TemplateEngine where
  render : String → Context → Except Fault String

/-- A collection of sources renders its own templates. -/
instance : Coe Templates TemplateEngine :=
  ⟨fun t => ⟨t.render⟩⟩

end CodeBehind
