import CodeBehind.Text.Uppercase
import CodeBehind.Text.Utf8
import CodeBehind.Text.Word
import CodeBehind.Thing.Member
import CodeBehind.Version.Parse

/-!
Calls of things.

Methods and kinds can be called. A method without arguments answers with a thing, and a kind makes a
thing of itself. The methods of versions that make a text or a version are the ones that take
arguments. Nothing that is called changes its owner.
-/

namespace CodeBehind.Thing

/-- What a call is given: arguments by their place and arguments by their name. -/
structure Arguments where
  placed : List Thing := []
  named : List (String × Thing) := []

def Arguments.count (a : Arguments) : Nat :=
  a.placed.length + a.named.length

/-- The fault of a call with unsuitable arguments. -/
def unsuitable (text : String) : Fault :=
  .builtin "TypeError" text

def ofText (cs : List Char) : Thing :=
  .value (.text (String.ofList cs))

def ofBool (b : Bool) : Thing :=
  .value (.bool b)

def ofInt (n : Int) : Thing :=
  .value (.int n)

def ofOctets (octets : List UInt8) : Thing :=
  let letters := octets.map fun b => Char.ofNat b.toNat
  .other "bytes"
    ("b" ++ String.ofList (Text.quoteWith (fun c => 0x20 ≤ c.toNat && c.toNat < 0x7F) letters))

def ofPair (a b : Value) : Thing :=
  .row [.value a, .value b]

/-! ### Texts -/

/-- The line breaks of a text that is cut into its lines. -/
def breaksLine (c : Char) : Bool :=
  (0x0A ≤ c.toNat && c.toNat ≤ 0x0D) || (0x1C ≤ c.toNat && c.toNat ≤ 0x1E) || c.toNat == 0x85 ||
    c.toNat == 0x2028 || c.toNat == 0x2029

/-- The lines of a text, of which `line` has been read, nearest first. -/
def linesAfter (line : List Char) : List Char → List (List Char)
  | [] => if line.isEmpty then [] else [line.reverse]
  | '\r' :: '\n' :: rest => line.reverse :: linesAfter [] rest
  | c :: rest =>
    if breaksLine c then line.reverse :: linesAfter [] rest else linesAfter (c :: line) rest

def expandTabs (column : Nat) : List Char → List Char
  | [] => []
  | c :: rest =>
    if c = '\t' then
      let width := 8 - column % 8
      List.replicate width ' ' ++ expandTabs (column + width) rest
    else if c = '\n' ∨ c = '\r' then c :: expandTabs 0 rest
    else c :: expandTabs (column + 1) rest

/-- A letter, as far as it is none of the numbers. -/
def isLetter (c : Char) : Bool :=
  Text.isWordChar c && c != '_' && !Text.isDecimalDigit c && !Text.inRanges Text.strayRanges c

/-- All characters are so, and there is one. -/
def allAre (p : Char → Bool) (cs : List Char) : Thing :=
  ofBool (!cs.isEmpty && cs.all p)

def ofTexts (texts : List (List Char)) : Thing :=
  .value (.list (texts.map fun cs => .text (String.ofList cs)))

def textAnswer? (cs : List Char) : String → Option Thing
  | "__len__" => some (ofInt cs.length)
  | "capitalize" => some (ofText (Text.capitalize cs))
  | "casefold" => some (ofText (Text.foldCase cs))
  | "encode" => some (ofOctets (Text.Utf8.encode cs))
  | "expandtabs" => some (ofText (expandTabs 0 cs))
  | "format" => some (ofText cs)
  | "isalnum" => some (allAre (fun c => Text.isWordChar c && c != '_') cs)
  | "isalpha" => some (allAre isLetter cs)
  | "isascii" => some (ofBool (cs.all (·.toNat < 0x80)))
  | "isdecimal" | "isdigit" | "isnumeric" => some (allAre Text.isDecimalDigit cs)
  | "isidentifier" => some (ofBool (Text.isIdentifier cs))
  | "islower" => some (ofBool (cs.any Text.isCased && !cs.any Text.isCapital))
  | "isprintable" => some (ofBool (cs.all Text.isPrintable))
  | "isspace" => some (allAre Text.isBlank cs)
  | "istitle" => some (ofBool (Text.isTitle cs))
  | "isupper" => some (ofBool (cs.any Text.isCased && !cs.any Text.isSmall))
  | "lower" => some (ofText (Text.lower cs))
  | "lstrip" => some (ofText (Text.trimLeft cs))
  | "rsplit" | "split" => some (ofTexts (Text.words cs))
  | "rstrip" => some (ofText (Text.trimRight cs))
  | "splitlines" => some (ofTexts (linesAfter [] cs))
  | "strip" => some (ofText (Text.trim cs))
  | "swapcase" => some (ofText (Text.swapCase cs))
  | "title" => some (ofText (Text.title cs))
  | "upper" => some (ofText (Text.upper cs))
  | _ => none

/-! ### Numbers -/

def hashModulus : Nat :=
  2305843009213693951

/-- The hash of a quotient of an integer and a power of two. Minus one is taken for something
else. -/
def hashRatio (num : Int) (den : Nat) : Int :=
  let inverse := Number.twoTo (61 - den.log2 % 61)
  let h : Int := (num.natAbs * inverse % hashModulus : Nat)
  let h := if num < 0 then -h else h
  if h = -1 then -2 else h

/-- The hash of a floating-point number. -/
def hashFloat (x : Number.Binary64) : Int :=
  match x.ratio?, x with
  | some (num, den), _ => hashRatio num den
  | none, .infinite negative => if negative then -314159 else 314159
  | none, _ => 0

/-- Mixes the hash of one part into the hash of a row. -/
def mixHash (h : UInt64) (part : Int) : UInt64 :=
  let h := h + UInt64.ofInt part * 14029467366897019727
  ((h <<< 31) ||| (h >>> 33)) * 11400714785074694791

/-- The hash of a row of integers. -/
def hashRow (parts : List Int) : Int :=
  let start : UInt64 := 2870177450012600261
  let mixed := (parts.map (hashRatio · 1)).foldl mixHash start
  let h := mixed + (UInt64.ofNat parts.length ^^^ (start ^^^ 3527539))
  if h = 0xFFFFFFFFFFFFFFFF then 1546275796 else h.toInt64.toInt

/-- The number of ones among the binary digits of a number below `2 ^ width`. -/
def onesBelow : Nat → Nat → Nat
  | 0, _ => 0
  | width + 1, n => n % 2 + onesBelow width (n / 2)

def bitLength (n : Nat) : Nat :=
  if n = 0 then 0 else n.log2 + 1

def intAnswer? (n : Int) : String → Option (Except Fault Thing)
  | "__abs__" => some (.ok (ofInt n.natAbs))
  | "__bool__" => some (.ok (ofBool (n != 0)))
  | "__ceil__" | "__floor__" | "__index__" | "__int__" | "__pos__" | "__round__" | "__trunc__"
  | "conjugate" => some (.ok (ofInt n))
  | "__float__" =>
    some (.ok (.value (.float (.ofRatio (n < 0) n.natAbs 1))))
  | "__hash__" => some (.ok (ofInt (hashRatio n 1)))
  | "__invert__" => some (.ok (ofInt (-n - 1)))
  | "__neg__" => some (.ok (ofInt (-n)))
  | "as_integer_ratio" => some (.ok (ofPair (.int n) (.int 1)))
  | "bit_count" => some (.ok (ofInt (onesBelow (bitLength n.natAbs) n.natAbs)))
  | "bit_length" => some (.ok (ofInt (bitLength n.natAbs)))
  | "to_bytes" =>
    some (if n < 0 then .error (.builtin "OverflowError" "can't convert negative int to unsigned")
      else if 256 ≤ n then .error (.builtin "OverflowError" "int too big to convert")
      else .ok (ofOctets [UInt8.ofNat n.toNat]))
  | _ => none

/-- The integer that a quotient is rounded to, to the even one of two that are equally near. -/
def nearestInt (num : Int) (den : Nat) : Int :=
  let low := num / den
  let rest := 2 * (num - low * den)
  if rest < den ∨ rest = den ∧ low % 2 = 0 then low else low + 1

/-- What a method of a floating-point number answers with the integer that `round` makes of it. -/
def rounded (x : Number.Binary64) (round : Int → Nat → Int) : Except Fault Thing :=
  match x.ratio?, x with
  | some (num, den), _ => .ok (ofInt (round num den))
  | none, .nan => .error (.builtin "ValueError" "cannot convert float NaN to integer")
  | none, _ => .error (.builtin "OverflowError" "cannot convert float infinity to integer")

def negated : Number.Binary64 → Number.Binary64
  | .finite negative mantissa exponent => .finite (!negative) mantissa exponent
  | .infinite negative => .infinite !negative
  | .nan => .nan

def magnitude : Number.Binary64 → Number.Binary64
  | .finite _ mantissa exponent => .finite false mantissa exponent
  | .infinite _ => .infinite false
  | .nan => .nan

def floatAnswer? (x : Number.Binary64) : String → Option (Except Fault Thing)
  | "__abs__" => some (.ok (.value (.float (magnitude x))))
  | "__bool__" => some (.ok (ofBool !x.isZero))
  | "__ceil__" => some (rounded x fun num den => -(-num / den))
  | "__float__" | "__pos__" | "conjugate" => some (.ok (.value (.float x)))
  | "__floor__" => some (rounded x fun num den => num / den)
  | "__hash__" => some (.ok (ofInt (hashFloat x)))
  | "__int__" | "__trunc__" => some (rounded x fun num den => num.tdiv den)
  | "__neg__" => some (.ok (.value (.float (negated x))))
  | "__round__" => some (rounded x nearestInt)
  | "as_integer_ratio" =>
    some (match x.ratio?, x with
      | some (num, den), _ =>
        let common := Nat.gcd num.natAbs den
        .ok (ofPair (.int (num / common)) (.int (den / common : Nat)))
      | none, .nan => .error (.builtin "ValueError" "cannot convert NaN to integer ratio")
      | none, _ => .error (.builtin "OverflowError" "cannot convert Infinity to integer ratio"))
  | "is_integer" =>
    some (.ok (ofBool (x.ratio?.any fun (num, den) => num % den == 0)))
  | _ => none

/-! ### Lists and dictionaries -/

def listAnswer? (xs : List Value) : String → Option (Except Fault Thing)
  | "__len__" => some (.ok (ofInt xs.length))
  | "clear" | "reverse" | "sort" => some (.ok (.value .null))
  | "copy" => some (.ok (.value (.list xs)))
  | "pop" =>
    some (match xs.getLast? with
      | some x => .ok (.value x)
      | none => .error (.builtin "IndexError" "pop from empty list"))
  | _ => none

def ofView (kind : String) (parts : List String) : Thing :=
  .other kind (kind ++ "([" ++ ", ".intercalate parts ++ "])")

def dictionaryAnswer? (d : Entries) : String → Option (Except Fault Thing)
  | "__len__" => some (.ok (ofInt d.length))
  | "clear" | "update" => some (.ok (.value .null))
  | "copy" => some (.ok (.value d.toValue))
  | "items" =>
    some (.ok (ofView "dict_items"
      (d.map fun (k, v) => (ofPair k v).literal)))
  | "keys" => some (.ok (ofView "dict_keys" (d.map (·.1.literal))))
  | "popitem" =>
    some (match d.getLast? with
      | some (k, v) => .ok (ofPair k v)
      | none => .error (.builtin "KeyError" (Text.quoted "popitem(): dictionary is empty")))
  | "values" => some (.ok (ofView "dict_values" (d.map (·.2.literal))))
  | _ => none

/-! ### Versions -/

/-- A refusal of an argument that a method of versions does not know. -/
def unknownArgument (method name : String) : Fault :=
  unsuitable ("Version." ++ method ++ "() got an unexpected keyword argument '" ++ name ++ "'")

/-- A refusal of an argument that a method of versions has got already. -/
def doubleArgument (method name : String) : Fault :=
  unsuitable ("Version." ++ method ++ "() got multiple values for argument '" ++ name ++ "'")

/-- The text of a version with the number of fields that a thing says. -/
def versionText (v : Version) (fields : Thing) : Except Fault Thing :=
  let shown (n : Int) : Except Fault Thing := do
    return .value (.text (← (v.textWith n).mapError VersionError.fault))
  match fields with
  | .value (.int n) => shown n
  | .value (.bool b) => shown (if b then 1 else 0)
  | .value (.float x) =>
    if x.ratio?.any fun (num, den) => den ≤ num ∧ num ≤ 3 * den then
      .error (unsuitable "slice indices must be integers or None or have an __index__ method")
    else .error VersionError.fieldCount.fault
  | t =>
    .error (unsuitable
      ("'<=' not supported between instances of 'int' and '" ++ t.kindName ++ "'"))

/-- What `to_string` answers. Its one argument is the number of fields, of which there are three
unless told otherwise. -/
def callToString (v : Version) (a : Arguments) : Except Fault Thing :=
  match a.placed, a.named with
  | [], [] => versionText v (ofInt 3)
  | [fields], [] => versionText v fields
  | placed, (name, fields) :: more =>
    if name = "fields" then
      if !placed.isEmpty then .error (doubleArgument "to_string" name)
      else
        match more with
        | [] => versionText v fields
        | (second, _) :: _ => .error (unknownArgument "to_string" second)
    else .error (unknownArgument "to_string" name)
  | placed, [] =>
    .error (unsuitable
      ("Version.to_string() takes from 1 to 2 positional arguments but " ++
        Nat.repr (placed.length + 1) ++ " were given"))

/-- What `parse` answers. Its one argument is the text of a version; anything that stands for
nothing given is read like an empty text. -/
def callParse (a : Arguments) : Except Fault Thing :=
  let read (text : Thing) : Except Fault Thing :=
    match text with
    | .value (.text s) => do
      return .version (← (Version.parse (some s)).mapError VersionError.fault)
    | t =>
      if t.isVoid then
        .error (.builtin "ValueError" ("Invalid version: " ++ t.literal))
      else
        .error (unsuitable ("expected string or bytes-like object, got '" ++ t.kindName ++ "'"))
  match a.placed, a.named with
  | [], [] =>
    .error (unsuitable "Version.parse() missing 1 required positional argument: 'text'")
  | [text], [] => read text
  | placed, (name, text) :: _ =>
    if name = "text" then
      if placed.isEmpty then read text else .error (doubleArgument "parse" name)
    else .error (unknownArgument "parse" name)
  | placed, [] =>
    .error (unsuitable
      ("Version.parse() takes 2 positional arguments but " ++ Nat.repr (placed.length + 1) ++
        " were given"))

/-! ### Calls -/

/-- What a method of any thing answers. -/
def commonAnswer (t : Thing) : String → Except Fault Thing
  | "__repr__" => (t.ifWritable t.literal).map fun s => .value (.text s)
  | "__str__" => t.shown.map fun s => .value (.text s)
  | "__getstate__" =>
    match t with
    | .version v => .ok ((versionPart? v "__dict__").getD (.value .null))
    | _ => .ok (.value .null)
  | "__subclasshook__" => .ok (.other "NotImplementedType" "NotImplemented")
  | "__bool__" => .ok (ofBool false)
  | "__hash__" =>
    match t with
    | .version v => .ok (ofInt (hashRow v.components))
    | _ => .ok (.value .null)
  | "__len__" =>
    match t with
    | .row parts => .ok (ofInt parts.length)
    | _ => .ok (.value .null)
  | _ => .ok (.value .null)

/-- What a method answers without arguments. -/
def answer (t : Thing) (name : String) : Except Fault Thing :=
  let own? : Option (Except Fault Thing) :=
    match t with
    | .value (.text s) => (textAnswer? s.toList name).map .ok
    | .value (.int n) => intAnswer? n name
    | .value (.bool b) => intAnswer? (if b then 1 else 0) name
    | .value (.float x) => floatAnswer? x name
    | .value (.list xs) => listAnswer? xs name
    | .value (.object fields) => dictionaryAnswer? (Entries.ofFields fields) name
    | .value (.mapping entries) => dictionaryAnswer? entries name
    | _ => none
  own?.getD (commonAnswer t name)

/-- The refusal of arguments by a method that takes none. -/
def overfull (t : Thing) (name : String) (count : Nat) : String :=
  match t with
  | .version _ =>
    "Version." ++ name ++ "() takes 1 positional argument but " ++ Nat.repr (count + 1) ++
      " were given"
  | t =>
    if operations.contains name then "expected 0 arguments, got " ++ Nat.repr count
    else t.kindName ++ "." ++ name ++ "() takes no arguments (" ++ Nat.repr count ++ " given)"

/-- What a kind makes of itself without arguments. -/
def make (path : String) : Except Fault Thing :=
  if path = Version.kindPath then
    .error (unsuitable "Version.__init__() missing 1 required positional argument: 'major'")
  else
    match path with
    | "NoneType" => .ok (.value .null)
    | "bool" => .ok (ofBool false)
    | "int" => .ok (ofInt 0)
    | "float" => .ok (.value (.float (.zero false)))
    | "str" => .ok (ofText [])
    | "list" => .ok (.value (.list []))
    | "dict" => .ok (.value (.object []))
    | "tuple" => .ok (.row [])
    | "bytes" => .ok (ofOctets [])
    | "range" => .error (unsuitable "range expected at least 1 argument, got 0")
    | "type" => .error (unsuitable "type() takes 1 or 3 arguments")
    | "function" =>
      .error (unsuitable "function() missing required argument 'code' (pos 1)")
    | "module" => .error (unsuitable "module() missing required argument 'name' (pos 1)")
    | path => .ok (.other path ("<" ++ path ++ " object>"))

def makeRange (a : Arguments) : Except Fault Thing :=
  let bounds? := a.placed.mapM fun
    | .value v => index? v
    | _ => none
  match bounds? with
  | none =>
    .error (unsuitable ("'" ++
      ((a.placed.find? fun
        | .value v => (index? v).isNone
        | _ => true).elim "" kindName) ++ "' object cannot be interpreted as an integer"))
  | some bounds =>
    let shown (bounds : List Int) : Except Fault Thing :=
      .ok (.other "range" ("range(" ++ ", ".intercalate (bounds.map Value.intText) ++ ")"))
    match bounds with
    | [] => make "range"
    | [stop] => shown [0, stop]
    | [start, stop] | [start, stop, 1] => shown [start, stop]
    | [start, stop, step] =>
      if step = 0 then .error (.builtin "ValueError" "range() arg 3 must not be zero")
      else shown [start, stop, step]
    | more =>
      .error (unsuitable ("range expected at most 3 arguments, got " ++ Nat.repr more.length))

/-- What a thing answers when it is called. -/
def call (t : Thing) (a : Arguments) : Except Fault Thing :=
  match t with
  | .method (.version v) "to_string" => callToString v a
  | .method (.version _) "parse" => callParse a
  | .method owner "__call__" => call owner a
  | .method owner name =>
    if a.count = 0 then
      match (owner.method? name).bind (·.refusal?) with
      | some refusal => .error (unsuitable refusal)
      | none => answer owner name
    else .error (unsuitable (overfull owner name a.count))
  | .kind path =>
    if path = "range" then makeRange a
    else if a.count = 0 then make path
    else .error (unsuitable (lastPart path ++ "() takes no arguments"))
  | t => .error (unsuitable ("'" ++ t.kindName ++ "' object is not callable"))

def isCallable : Thing → Bool
  | .method _ _ | .kind _ => true
  | _ => false

end CodeBehind.Thing
