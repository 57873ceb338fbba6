import CodeBehind.Template.Reader

/-!
Rendering templates.

A name stands for what the context says, and otherwise for one of the things that every template
knows. An expression that stands for nothing may be asked for its kind and for nothing else. The
placeholders are filled from the first to the last, and the first one that cannot be filled decides
the error.
-/

namespace CodeBehind.Template

/-! ### Things that every template knows -/

/-- The kind of things that go through a row of things in circles. -/
def cyclerKind : String :=
  "jinja2.utils.Cycler"

/-- The kind of things that stand between others. -/
def joinerKind : String :=
  "jinja2.utils.Joiner"

/-- The kind of things that hold names. -/
def namespaceKind : String :=
  "jinja2.utils.Namespace"

/-- The kind of what is absent. -/
def absentKind : String :=
  "jinja2.runtime.StrictUndefined"

/-- A template as its own placeholders see it. -/
def itself (template : String) : Thing :=
  .other "jinja2.runtime.TemplateReference" ("<TemplateReference " ++ Text.quoted template ++ ">")

/-- The things that every template knows. -/
def known : Context := [
  ("range", .kind "range"),
  ("dict", .kind "dict"),
  ("lipsum", .other "function" "<function generate_lorem_ipsum>"),
  ("cycler", .kind cyclerKind),
  ("joiner", .kind joinerKind),
  ("namespace", .kind namespaceKind)]

/-- What a thing answers when a template called `template` calls it. -/
def answer (t : Thing) (a : Thing.Arguments) : Except Fault Thing :=
  match t with
  | .kind path =>
    if path = cyclerKind ∧ a.count = 0 then
      .error (.builtin "RuntimeError" "at least one item has to be provided")
    else if path = joinerKind then .ok (.other path "<jinja2.utils.Joiner object>")
    else if path = namespaceKind ∧ a.count = 0 then .ok (.other path "<Namespace \x7b\x7d>")
    else t.call a
  | t => t.call a

/-! ### Expressions -/

def lookup (template : String) (context : Context) (name : String) : Except Absence Thing :=
  if name = "self" then .ok (itself template)
  else
    match (context.get? name).orElse fun _ => known.get? name with
    | some t => .ok t
    | none => .error (.name name)

/-- A member of a thing, or else the element that has the name for its key. -/
def member (t : Thing) (name : String) : Except Absence Thing :=
  match (t.member? name).orElse fun _ => t.element? (.text name) with
  | some t => .ok t
  | none => .error (.attribute t.owner name)

def element (t key : Thing) : Except Absence Thing :=
  let found? :=
    match key with
    | .value key => t.element? key
    | _ => none
  match found?, key with
  | some t, _ => .ok t
  | none, .value (.text name) => member t name
  | none, key => .error (.element t.owner key.literal)

def present (found : Except Absence Thing) : Except TemplateError Thing :=
  found.mapError .absent

def withSign (negative : Bool) (t : Thing) : Except TemplateError Thing :=
  match t.member? (if negative then "__neg__" else "__pos__") with
  | some operation => (operation.call {}).mapError .fault
  | none =>
    .error (.fault (.builtin "TypeError"
      ("bad operand type for unary " ++ (if negative then "-" else "+") ++ ": '" ++ t.kindName ++
        "'")))

/-- Things as a list. Values make a value. -/
def ofList (parts : List Thing) : Thing :=
  match parts.mapM fun | .value v => some v | _ => none with
  | some values => .value (.list values)
  | none => .other "list" ("[" ++ ", ".intercalate (parts.map Thing.literal) ++ "]")

/-- Things as a dictionary. Values make a value. -/
def ofEntries (entries : List (Thing × Thing)) : Except Fault Thing := do
  let values? := entries.mapM fun
    | (.value k, .value v) => some (k, v)
    | _ => none
  match values? with
  | some values =>
    values.forM fun e => Entries.checkKey e.1
    return .value (Entries.merge [] values).toValue
  | none =>
    let shown := entries.map fun e => e.1.literal ++ ": " ++ e.2.literal
    return .other "dict" ("\x7b" ++ ", ".intercalate shown ++ "\x7d")

mutual

def find (template : String) (context : Context) :
    Expression → Except TemplateError (Except Absence Thing)
  | .literal v => .ok (.ok (.value v))
  | .name s => .ok (lookup template context s)
  | .member e name => do
    match ← find template context e with
    | .ok t => return member t name
    | .error a => if name = "__class__" then return .ok (.kind absentKind) else throw (.absent a)
  | .element e key => do
    let t ← present (← find template context e)
    return element t (← present (← find template context key))
  | .call e placed named => do
    let t ← present (← find template context e)
    let placed ← findAll template context placed
    let named ← findNamed template context named
    return .ok (← (answer t { placed, named }).mapError .fault)
  | .row parts => do return .ok (.row (← findAll template context parts))
  | .list parts => do return .ok (ofList (← findAll template context parts))
  | .dictionary entries => do
    return .ok (← (ofEntries (← findEntries template context entries)).mapError .fault)
  | .sign negative e => do
    return .ok (← withSign negative (← present (← find template context e)))
  | .operation op a b => do
    let a ← present (← find template context a)
    return .ok (← (Thing.apply op a (← present (← find template context b))).mapError .fault)
  | .comparison a rest => do
    let a ← present (← find template context a)
    return .ok (.value (.bool (← compareAll template context a rest)))
  | .negation e => do
    return .ok (.value (.bool (← present (← find template context e)).isVoid))
  | .both a b => do
    let t ← present (← find template context a)
    if t.isVoid then return .ok t else find template context b
  | .either a b => do
    let t ← present (← find template context a)
    if t.isVoid then find template context b else return .ok t

def findAll (template : String) (context : Context) :
    List Expression → Except TemplateError (List Thing)
  | [] => .ok []
  | e :: rest => do
    return (← present (← find template context e)) :: (← findAll template context rest)

def findEntries (template : String) (context : Context) :
    List (Expression × Expression) → Except TemplateError (List (Thing × Thing))
  | [] => .ok []
  | (key, e) :: rest => do
    let key ← present (← find template context key)
    let t ← present (← find template context e)
    return (key, t) :: (← findEntries template context rest)

/-- Every one of several comparisons holds, the first of them with `a` on its left side. -/
def compareAll (template : String) (context : Context) (a : Thing) :
    List (Thing.Comparison × Expression) → Except TemplateError Bool
  | [] => .ok true
  | (c, e) :: rest => do
    let b ← present (← find template context e)
    if ← (Thing.holds c a b).mapError .fault then compareAll template context b rest
    else return false

def findNamed (template : String) (context : Context) :
    List (String × Expression) → Except TemplateError (List (String × Thing))
  | [] => .ok []
  | (name, e) :: rest => do
    return (name, ← present (← find template context e)) ::
      (← findNamed template context rest)

end

def evaluate (template : String) (context : Context) (e : Expression) :
    Except TemplateError Thing := do
  present (← find template context e)

/-! ### Templates -/

/-- What a part of the template called `template` shows. -/
def renderPart (template : String) (context : Context) :
    TemplatePart → Except TemplateError String
  | .text s => .ok s
  | .placeholder e => do (← evaluate template context e).shown.mapError .fault

def render (name : String) (context : Context) (template : Template) :
    Except TemplateError String := do
  return String.join (← template.mapM (renderPart name context))

end CodeBehind.Template
