import CodeBehind.Assoc
import CodeBehind.Language.Bundled
import CodeBehind.Text.Lowercase
import CodeBehind.Value

/-!
The registry of languages.

Renderers are kept under the lower-cased name of their language, and further names lead to such a
key. Looking up a name drops the blanks around it, lower-cases it, and prefers a language to an
alias. A registration that is not to replace anything is refused as a whole at the first of its
aliases that is a language or leads to another one. The name of the language itself may be an alias
of another language, and is then preferred to it.
-/

namespace CodeBehind

/-- Renderers by language and languages by alias, both in order of registration. -/
structure Registry where
  renderers : Assoc Renderer := []
  aliases : Assoc String := []

/-- What is offered for registration. Only a renderer can be registered. -/
inductive Candidate where
  | renderer (r : Renderer)
  | foreign

/-- What can go wrong with a registry. -/
inductive RegistryError where
  | notARenderer
  | noName
  | aliasIsLanguage (synonym : String)
  | aliasTaken (synonym language : String)
  | unknownLanguage (language? : Option String) (available : List String)
  | missingRenderer (key : String)
  | nameless
deriving DecidableEq, Repr

namespace RegistryError

def message : RegistryError → String
  | .notARenderer => "Renderer must be a LanguageRenderer"
  | .noName => "Renderer must have a language name"
  | .aliasIsLanguage synonym => "Alias '" ++ synonym ++ "' conflicts with existing primary language"
  | .aliasTaken synonym language =>
    "Alias '" ++ synonym ++ "' already points to '" ++ language ++ "'"
  | .unknownLanguage language? available =>
    "No renderer registered for language: " ++ language?.getD Value.null.literal ++
      ". Available: " ++ ", ".intercalate available
  | .missingRenderer key => Text.quoted key
  | .nameless => "'NoneType' object has no attribute 'lower'"

/-- The fault for an error. An alias that leads nowhere and a missing name are faults of built-in
kinds. -/
def fault (e : RegistryError) : Fault :=
  match e with
  | .missingRenderer _ => .builtin "KeyError" e.message
  | .nameless => .builtin "AttributeError" e.message
  | _ => ⟨.registry, some e.message⟩

end RegistryError

namespace Registry

def empty : Registry := {}

def sorted (names : List String) : List String :=
  names.mergeSort (fun a b => a ≤ b)

/-! ### Looking up -/

/-- The language that a name leads to. A missing name is looked up like an empty one. -/
def resolve? (g : Registry) (name? : Option String) : Option String :=
  let key := Text.lowercase (Text.strip (name?.getD ""))
  if g.renderers.has key then some key else g.aliases.get? key

def languages (g : Registry) : List String :=
  sorted g.renderers.keys

def get (g : Registry) (name? : Option String) : Except RegistryError Renderer :=
  match g.resolve? name? with
  | none => .error (.unknownLanguage name? g.languages)
  | some key =>
    match g.renderers.get? key with
    | some renderer => .ok renderer
    | none => .error (.missingRenderer key)

def isSupported (g : Registry) (name? : Option String) : Bool :=
  (g.resolve? name?).isSome

def aliasesOf (g : Registry) (language : String) : List String :=
  let key := Text.lowercase language
  sorted ((g.aliases.filter (·.2 = key)).map (·.1))

/-- The aliases of a language that must be named. -/
def aliasesFor (g : Registry) (name? : Option String) : Except RegistryError (List String) :=
  match name? with
  | some name => .ok (g.aliasesOf name)
  | none => .error .nameless

/-- Every language with its names, itself first, in order of registration. -/
def allNames (g : Registry) : List (String × List String) :=
  g.renderers.keys.map fun language => (language, language :: g.aliasesOf language)

/-! ### Changing -/

/-- The first alias that another language has already, with the reason why it cannot be given. -/
def conflict? (g : Registry) (key : String) : List String → Option RegistryError
  | [] => none
  | synonym :: rest =>
    let aliasKey := Text.lowercase synonym
    if aliasKey = key then conflict? g key rest
    else if g.renderers.has aliasKey then some (.aliasIsLanguage synonym)
    else
      match g.aliases.get? aliasKey with
      | some language =>
        if language = key then conflict? g key rest else some (.aliasTaken synonym language)
      | none => conflict? g key rest

/-- Lets aliases lead to a language, the language's own name apart. -/
def withAliases (aliases : Assoc String) (key : String) (names : List String) : Assoc String :=
  names.foldl
    (fun aliases synonym =>
      let aliasKey := Text.lowercase synonym
      if aliasKey = key then aliases else aliases.put aliasKey key)
    aliases

/-- Enters a renderer with its aliases, whatever they meant before. -/
def enter (g : Registry) (r : Renderer) (aliases : List String) : Registry :=
  let key := Text.lowercase r.name
  { renderers := g.renderers.put key r
    aliases := withAliases g.aliases key (r.aliases ++ aliases) }

/-- Registers a renderer under its name, its aliases and further ones. A language that is already
there is left as it is unless it is to be replaced. -/
def register (g : Registry) (candidate : Candidate) (aliases : List String) (replace : Bool) :
    Except RegistryError Registry :=
  match candidate with
  | .foreign => .error .notARenderer
  | .renderer r =>
    if r.name.isEmpty then .error .noName
    else
      let key := Text.lowercase r.name
      if g.renderers.has key && !replace then .ok g
      else
        match if replace then none else g.conflict? key (r.aliases ++ aliases) with
        | some e => .error e
        | none => .ok (g.enter r aliases)

/-- Removes a language, named in any way, with all aliases that lead to it. A name that leads
nowhere is taken for the key of a language. -/
def unregister (g : Registry) (name? : Option String) : Except RegistryError Registry :=
  let remove (key : String) : Registry :=
    { renderers := g.renderers.erase key, aliases := g.aliases.filter (·.2 ≠ key) }
  match g.resolve? name?, name? with
  | some key, _ => .ok (remove key)
  | none, some name => .ok (remove (Text.lowercase name))
  | none, none => .error .nameless

/-- A registry with the given renderers, registered one after the other. -/
def ofList (candidates : List Candidate) : Except RegistryError Registry :=
  candidates.foldlM (fun g c => g.register c [] false) empty

/-! ### Information -/

/-- What is told of a language. -/
structure LanguageInfo where
  name : String
  displayName : String
  fileExtension : String
  aliases : List String
  sample : String
deriving DecidableEq, Repr

def info (g : Registry) (name? : Option String) : Except Fault LanguageInfo := do
  let r ← (g.get name?).mapError RegistryError.fault
  let sample ← r.statement "message"
  return {
    name := r.name
    displayName := r.shownName
    fileExtension := r.fileExtension
    aliases := g.aliasesOf r.name
    sample }

/-- What is told of every language, in ascending order of the languages. -/
def allInfo (g : Registry) : Except Fault (List (String × LanguageInfo)) :=
  g.languages.mapM fun language => do return (language, ← g.info (some language))

def bundled : Registry :=
  Language.bundled.foldl (fun g r => g.enter r []) empty

end Registry

end CodeBehind
