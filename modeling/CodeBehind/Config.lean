import CodeBehind.Value.Entries

/-!
Configurations.

A configuration has four settings that name the test framework and set out its diagnostics, and a
further value for settings that somebody else understands. A configuration can be made from any
values; one that comes from settings (`ofSettings`) has texts for the four, one of the two line
endings, and its unknown settings collected.

`settings` lists a configuration's fields, `flattened` puts the further settings next to the four,
which is the form that is saved.
-/

namespace CodeBehind

/-- A configuration. -/
structure Config where
  frameworkName : Value
  frameworkPackage : Value
  documentationUrl : Value
  lineEnding : Value
  custom : Value
deriving Repr, BEq

def Fault.config (text : String) : Fault :=
  ⟨.config, some text⟩

namespace Config

/-- The configuration that holds where nothing else is said. -/
def standard : Config where
  frameworkName := .text "SpecFlow"
  frameworkPackage := .text "TechTalk.SpecFlow"
  documentationUrl := .text "https://specflow.org/documentation/Generate-Tests-from-MsBuild/"
  lineEnding := .text "\n"
  custom := .object []

def textFields : List String :=
  ["framework_name", "framework_package", "documentation_url", "line_ending"]

def customField : String := "custom"

def fields : List String :=
  textFields ++ [customField]

def isField (name : String) : Bool :=
  fields.contains name

def textSettings (c : Config) : Assoc Value := [
  ("framework_name", c.frameworkName),
  ("framework_package", c.frameworkPackage),
  ("documentation_url", c.documentationUrl),
  ("line_ending", c.lineEnding)]

def settings (c : Config) : Assoc Value :=
  c.textSettings ++ [(customField, c.custom)]

/-- The configuration with the given settings, the standard one filling the gaps. -/
def ofFields (given : Assoc Value) : Config where
  frameworkName := (given.get? "framework_name").getD standard.frameworkName
  frameworkPackage := (given.get? "framework_package").getD standard.frameworkPackage
  documentationUrl := (given.get? "documentation_url").getD standard.documentationUrl
  lineEnding := (given.get? "line_ending").getD standard.lineEnding
  custom := (given.get? customField).getD standard.custom

/-- The name that stands for the configuration itself while it is made. -/
def ownName : String := "self"

/-- Makes a configuration from settings as they are. Only the names are checked. -/
def make (given : Assoc Value) : Except Fault Config :=
  match given.find? (!isField ·.1) with
  | some (name, _) =>
    let complaint :=
      if name = ownName then "multiple values for argument" else "an unexpected keyword argument"
    .error (.builtin "TypeError"
      ("GeneratorConfig.__init__() got " ++ complaint ++ " '" ++ name ++ "'"))
  | none => .ok (ofFields given)

/-! ### From settings and back -/

/-- A dictionary with fields put into it. -/
def extend (dictionary : Value) (fields : Assoc Value) : Except Fault Value :=
  match dictionary with
  | .object inner => .ok (.object (Assoc.merge inner fields))
  | v => do return ((← Entries.ofValue v).merge (.ofFields fields)).toValue

/-- The settings with the unknown ones moved into the value for further settings, where they win. A
void value there counts as nothing. -/
def collect (given : Assoc Value) : Except Fault (Assoc Value) :=
  let known : Assoc Value := given.filter (isField ·.1)
  let unknown : Assoc Value := given.filter (!isField ·.1)
  if unknown.isEmpty then .ok known
  else do
    let custom := (known.get? customField).getD .null
    return known.put customField (← extend (if custom.isVoid then .object [] else custom) unknown)

/-- A setting is a text wherever it is given. -/
def checkText (given : Assoc Value) (name : String) : Except Fault Unit :=
  match given.get? name with
  | none | some (.text _) => .ok ()
  | some _ => .error (.config ("Configuration value '" ++ name ++ "' must be a string"))

def lineEndings : List String := ["\n", "\r\n"]

def checkLineEnding (given : Assoc Value) : Except Fault Unit :=
  match given.get? "line_ending" with
  | some (.text s) =>
    if lineEndings.contains s then .ok ()
    else .error (.config "line_ending must be '\\n' or '\\r\\n'")
  | _ => .ok ()

/-- The configuration that settings give. -/
def ofSettings (given : Assoc Value) : Except Fault Config := do
  let given ← collect given
  textFields.forM (checkText given)
  checkLineEnding given
  return ofFields given

/-- The configuration that a file's settings and then some overrides give, on top of the standard
one. -/
def layered (fromFile overrides : Assoc Value) : Except Fault Config :=
  ofSettings ((standard.settings.merge fromFile).merge overrides)

/-- A dictionary of the settings of a configuration, with the further ones next to the four. A
further setting of the same name replaces one of the four. -/
def flattened (c : Config) : Except Fault Value :=
  match c.custom with
  | .object fields => .ok (.object (c.textSettings.merge fields))
  | v => do return ((Entries.ofFields c.textSettings).merge (← Entries.ofValue v)).toValue

end Config

end CodeBehind
