import CodeBehind.Text.Digits
import CodeBehind.Text.Quoted
import CodeBehind.Text.Lines

/-!
Reading command lines.

A command line is read by a grammar: switches, each with its spellings and perhaps a value, and at
most one operand, which is a word or a command with all that follows it. Long switches may be
shortened as far as they stay unambiguous, and values may be joined to them with an equals sign. Two
dashes on their own end the switches.

Reading has two phases. First every argument is classed by its looks (`classify`), then the
arguments are consumed from left to right (`consume`). A request for help or for the version is met
as soon as it is consumed.
-/

namespace CodeBehind.CommandLine

/-! ### Grammars -/

/-- What a switch is for. A value may be limited to some choices. -/
inductive Purpose where
  | help
  | version
  | flag
  | value (choices : List String)
deriving DecidableEq, Repr

/-- A switch with its spellings, the first of which is its name. -/
structure Switch where
  spellings : List String
  purpose : Purpose
  required : Bool := false
deriving DecidableEq, Repr

/-- What a command line holds besides switches. -/
inductive Operand where
  | word (name : String)
  | command (name : String) (choices : List String)
deriving DecidableEq, Repr

/-- What a command line may hold. -/
structure Grammar where
  switches : List Switch
  operand? : Option Operand := none
deriving DecidableEq, Repr

namespace Switch

def name (s : Switch) : String :=
  s.spellings.head?.getD ""

/-- All spellings of a switch, as messages give them. -/
def label (s : Switch) : String :=
  "/".intercalate s.spellings

def takesValue (s : Switch) : Bool :=
  match s.purpose with
  | .value _ => true
  | _ => false

end Switch

/-! ### Complaints -/

/-- What can be wrong with a command line. -/
inductive Complaint where
  | ambiguous (argument : String) (spellings : List String)
  | missingValue (switch : String)
  | unwantedValue (switch value : String)
  | invalidChoice (name value : String) (choices : List String)
  | missing (names : List String)
  | unrecognized (arguments : List String)
deriving DecidableEq, Repr

def Complaint.message : Complaint → String
  | .ambiguous argument spellings =>
    "ambiguous option: " ++ argument ++ " could match " ++ ", ".intercalate spellings
  | .missingValue switch => "argument " ++ switch ++ ": expected one argument"
  | .unwantedValue switch value =>
    "argument " ++ switch ++ ": ignored explicit argument " ++ Text.quoted value
  | .invalidChoice name value choices =>
    "argument " ++ name ++ ": invalid choice: " ++ Text.quoted value ++ " (choose from " ++
      ", ".intercalate (choices.map Text.quoted) ++ ")"
  | .missing names => "the following arguments are required: " ++ ", ".intercalate names
  | .unrecognized arguments => "unrecognized arguments: " ++ " ".intercalate arguments

/-- Why reading stops early. -/
inductive Halt where
  | help
  | version
  | complaint (c : Complaint)
deriving DecidableEq, Repr

/-! ### Classes of arguments -/

/-- A switch found in an argument, by one of its spellings. A value may be joined to it, after an
equals sign or directly. -/
structure Hit where
  switch : Switch
  spelling : String
  joined? : Option (List Char) := none
deriving DecidableEq, Repr

/-- The class of an argument: an operand, the two dashes, or a switch, which may be unknown. -/
inductive ArgumentClass where
  | operand
  | dashes
  | switch (hit? : Option Hit)
deriving DecidableEq, Repr

/-- An argument with its class. -/
abbrev Item := String × ArgumentClass

def isSwitch (i : Item) : Bool :=
  match i.2 with
  | .switch _ => true
  | _ => false

def isDashes (i : Item) : Bool :=
  match i.2 with
  | .dashes => true
  | _ => false

def splitEquals? (cs : List Char) : Option (List Char × List Char) :=
  match cs.span (· != '=') with
  | (name, _ :: value) => some (name, value)
  | (_, []) => none

/-- A negative number, which is no switch. A line end may follow it. -/
def isNegativeNumber (cs : List Char) : Bool :=
  match cs with
  | '-' :: rest =>
    match Text.splitOn '.' (if rest.getLast? = some '\n' then rest.dropLast else rest) with
    | [whole] => !whole.isEmpty && whole.all Text.isDecimalDigit
    | [whole, fraction] =>
      whole.all Text.isDecimalDigit && !fraction.isEmpty && fraction.all Text.isDecimalDigit
    | _ => false
  | _ => false

namespace Grammar

def spellings (g : Grammar) : List (String × Switch) :=
  g.switches.flatMap fun s => s.spellings.map (·, s)

def spelled? (g : Grammar) (spelling : String) : Option Switch :=
  (g.spellings.find? (·.1 = spelling)).map (·.2)

/-- The switches that an argument may be short for. After two dashes a spelling may be cut anywhere;
after one dash a value may follow the letter. -/
def hits (g : Grammar) (cs : List Char) : List Hit :=
  match cs with
  | '-' :: '-' :: _ =>
    let (start, joined?) : List Char × Option (List Char) :=
      match splitEquals? cs with
      | some (start, value) => (start, some value)
      | none => (cs, none)
    g.spellings.filterMap fun (spelling, switch) =>
      if start.isPrefixOf spelling.toList then some { switch, spelling, joined? } else none
  | _ =>
    g.spellings.filterMap fun (spelling, switch) =>
      if spelling.toList = cs.take 2 then
        some { switch, spelling, joined? := some (cs.drop 2) }
      else if cs.isPrefixOf spelling.toList then some { switch, spelling }
      else none

/-- The switch that an argument names in full, perhaps with a value joined to it. -/
def exactHit? (g : Grammar) (argument : String) : Option Hit :=
  match g.spelled? argument with
  | some switch => some { switch, spelling := argument }
  | none => do
    let (spelling, value) ← splitEquals? argument.toList
    let switch ← g.spelled? (String.ofList spelling)
    return { switch, spelling := String.ofList spelling, joined? := some value }

def classify (g : Grammar) (argument : String) : Except Halt ArgumentClass :=
  let cs := argument.toList
  if cs.head? ≠ some '-' ∨ cs.length = 1 then .ok .operand
  else
    match g.exactHit? argument with
    | some hit => .ok (.switch (some hit))
    | none =>
      match g.hits cs with
      | [hit] => .ok (.switch (some hit))
      | [] => .ok (if isNegativeNumber cs || cs.contains ' ' then .operand else .switch none)
      | hits => .error (.complaint (.ambiguous argument (hits.map (·.spelling))))

/-- The arguments with their classes. After the two dashes there are operands only. -/
def classes (g : Grammar) : List String → Except Halt (List Item)
  | [] => .ok []
  | argument :: rest =>
    if argument = "--" then .ok ((argument, .dashes) :: rest.map (·, .operand))
    else do return (argument, ← g.classify argument) :: (← g.classes rest)

end Grammar

/-! ### Consuming -/

/-- The value of a switch. The two dashes are dropped wherever they come first, and where nothing
else is joined to a switch, its value is a list without anything in it. -/
inductive SwitchValue where
  | text (s : String)
  | emptyList
deriving DecidableEq, Repr

namespace SwitchValue

/-- The value that an argument makes. -/
def ofArgument (argument : String) : SwitchValue :=
  if argument = "--" then .emptyList else .text argument

def display : SwitchValue → String
  | .text s => s
  | .emptyList => "[]"

def text? : SwitchValue → Option String
  | .text s => some s
  | .emptyList => none

end SwitchValue

/-- What has been read: the switches with their values in order, the operand, and what nobody
asked for. -/
structure Reading where
  values : List (String × SwitchValue) := []
  operand? : Option (List String) := none
  extras : List String := []
deriving DecidableEq, Repr

namespace Reading

def value? (r : Reading) (name : String) : Option SwitchValue :=
  (r.values.reverse.find? (·.1 = name)).map (·.2)

def has (r : Reading) (name : String) : Bool :=
  (r.value? name).isSome

def addExtras (r : Reading) (arguments : List String) : Reading :=
  { r with extras := r.extras ++ arguments }

/-- Meets a switch with its value. A list without anything in it is a choice that nobody has to have
offered. -/
def meet (r : Reading) (s : Switch) (value : SwitchValue) : Except Halt Reading :=
  let met : Reading := { r with values := r.values ++ [(s.name, value)] }
  match s.purpose, value with
  | .help, _ => .error .help
  | .version, _ => .error .version
  | .value choices, .text given =>
    if choices.isEmpty ∨ choices.contains given then .ok met
    else .error (.complaint (.invalidChoice s.label given choices))
  | _, _ => .ok met

def takeOperand (r : Reading) (o : Operand) (arguments : List String) : Except Halt Reading :=
  match o, arguments with
  | .word _, arguments => .ok { r with operand? := some (arguments.erase "--") }
  | .command name choices, first :: rest =>
    if choices.contains first then .ok { r with operand? := some (first :: rest) }
    else .error (.complaint (.invalidChoice name first choices))
  | .command _ _, [] => .ok r

end Reading

/-- What comes of a switch: the switches to meet with their values, and the items that are left. -/
structure Use where
  met : List (Switch × SwitchValue)
  rest : List Item
deriving DecidableEq, Repr

namespace Grammar

/-- Uses a switch without a joined value, which takes one from the next item. -/
def useAlone (s : Switch) (rest : List Item) : Except Halt Use :=
  if s.takesValue then
    match rest with
    | (argument, .operand) :: rest => .ok { met := [(s, .ofArgument argument)], rest }
    | _ => .error (.complaint (.missingValue s.label))
  else .ok { met := [(s, .text "")], rest }

def unwanted {α : Type} (s : Switch) (value : List Char) : Except Halt α :=
  .error (.complaint (.unwantedValue s.label (String.ofList value)))

/-- Uses a switch with a joined value. A switch of one letter that takes no value may have other
letters joined to it, each of which must be a switch as well. -/
def useJoined (g : Grammar) (rest : List Item) (s : Switch) (spelling : String) :
    List Char → Except Halt Use
  | [] => if s.takesValue then .ok { met := [(s, .text "")], rest } else unwanted s []
  | c :: more =>
    if s.takesValue then
      .ok { met := [(s, .ofArgument (String.ofList (c :: more)))], rest }
    else
      let next := String.ofList ['-', c]
      match if spelling.startsWith "--" then none else g.spelled? next with
      | none => unwanted s (c :: more)
      | some t => do
        let u ← if more.isEmpty then useAlone t rest else useJoined g rest t next more
        return { u with met := (s, .text "") :: u.met }

def use (g : Grammar) (hit : Hit) (rest : List Item) : Except Halt Use :=
  match hit.joined? with
  | none => useAlone hit.switch rest
  | some value => g.useJoined rest hit.switch hit.spelling value

/-- How many items belong to the operand if it begins here: a word with the dashes around it, or a
command with all that follows. -/
def operandSize (o : Operand) (items : List Item) : Nat :=
  let lead := (items.takeWhile isDashes).length
  match items.drop lead with
  | (_, .operand) :: rest =>
    match o with
    | .word _ => lead + 1 + (rest.takeWhile isDashes).length
    | .command _ _ => items.length
  | _ => 0

/-- Takes the operand if it is still expected and begins here, and says how many items it has. -/
def tryOperand (g : Grammar) (items : List Item) (r : Reading) : Except Halt (Nat × Reading) :=
  match g.operand?, r.operand? with
  | some o, none =>
    match operandSize o items with
    | 0 => .ok (0, r)
    | n => do return (n, ← r.takeOperand o ((items.take n).map (·.1)))
  | _, _ => .ok (0, r)

/-- Consumes items. Each round consumes one of them at least, so there are no more rounds than
items. -/
def consume (g : Grammar) : Nat → List Item → Reading → Except Halt Reading
  | 0, _, r => .ok r
  | rounds + 1, items, r =>
    if items.any isSwitch then do
      let before := items.takeWhile (!isSwitch ·)
      let (n, r) ← if before.isEmpty then pure (0, r) else g.tryOperand items r
      if 0 < n then g.consume rounds (items.drop n) r
      else
        let r := r.addExtras (before.map (·.1))
        match items.drop before.length with
        | (argument, .switch none) :: rest => g.consume rounds rest (r.addExtras [argument])
        | (_, .switch (some hit)) :: rest =>
          let u ← g.use hit rest
          let r ← u.met.foldlM (fun r (s, value) => r.meet s value) r
          g.consume rounds u.rest r
        | _ => return r
    else do
      let (n, r) ← g.tryOperand items r
      return r.addExtras ((items.drop n).map (·.1))

/-- The names of what must be there and is not. A command need not be there. -/
def missing (g : Grammar) (r : Reading) : List String :=
  let word : List String :=
    match g.operand?, r.operand? with
    | some (.word name), none => [name]
    | _, _ => []
  word ++ (g.switches.filter fun s => s.required && !r.has s.name).map (·.label)

def read (g : Grammar) (arguments : List String) : Except Halt Reading := do
  let items ← g.classes arguments
  let r ← g.consume (items.length + 1) items {}
  match g.missing r with
  | [] => return r
  | names => throw (.complaint (.missing names))

end Grammar

end CodeBehind.CommandLine
