import CodeBehind.Thing.Call

/-!
Operators on things.

Numbers can be reckoned with, texts and lists can be put together and repeated, and things can be
compared. Floating-point results are the numbers nearest to the exact ones. What an operator cannot
be applied to it refuses.
-/

namespace CodeBehind.Thing

/-- Operators that make a thing of two. -/
inductive Operator where
  | add
  | subtract
  | multiply
  | divide
  | quotient
  | remainder
  | join
deriving DecidableEq, Repr

def Operator.mark : Operator → String
  | .add => "+"
  | .subtract => "-"
  | .multiply => "*"
  | .divide => "/"
  | .quotient => "//"
  | .remainder => "%"
  | .join => "~"

/-- Comparisons of two things. -/
inductive Comparison where
  | equal
  | unequal
  | less
  | atMost
  | greater
  | atLeast
deriving DecidableEq, Repr

def Comparison.mark : Comparison → String
  | .equal => "=="
  | .unequal => "!="
  | .less => "<"
  | .atMost => "<="
  | .greater => ">"
  | .atLeast => ">="

/-! ### Reckoning -/

def zeroDivision (text : String) : Fault :=
  .builtin "ZeroDivisionError" text

/-- The floating-point number nearest to a quotient, as a thing. -/
def ofQuotient (num den : Int) : Thing :=
  .value (.float (.ofRatio (decide (num < 0) != decide (den < 0)) num.natAbs den.natAbs))

def reckonInt (op : Operator) (a b : Int) : Except Fault Thing :=
  match op with
  | .add => .ok (ofInt (a + b))
  | .subtract => .ok (ofInt (a - b))
  | .multiply => .ok (ofInt (a * b))
  | .divide => if b = 0 then .error (zeroDivision "division by zero") else .ok (ofQuotient a b)
  | .quotient =>
    if b = 0 then .error (zeroDivision "integer division or modulo by zero")
    else .ok (ofInt (a.fdiv b))
  | .remainder =>
    if b = 0 then .error (zeroDivision "integer modulo by zero") else .ok (ofInt (a.fmod b))
  | .join => .ok (ofText (Value.intText a ++ Value.intText b).toList)

def reckonRatio (op : Operator) (a b : Int × Nat) : Except Fault Thing :=
  let (m, d) := a
  let (n, e) := b
  let down := (m * e).fdiv (d * n)
  match op with
  | .add => .ok (ofQuotient (m * e + n * d) (d * e))
  | .subtract => .ok (ofQuotient (m * e - n * d) (d * e))
  | .multiply | .join => .ok (ofQuotient (m * n) (d * e))
  | .divide =>
    if n = 0 then .error (zeroDivision "float division by zero")
    else .ok (ofQuotient (m * e) (d * n))
  | .quotient =>
    if n = 0 then .error (zeroDivision "float floor division by zero") else .ok (ofQuotient down 1)
  | .remainder =>
    if n = 0 then .error (zeroDivision "float modulo")
    else .ok (ofQuotient (m * e - n * d * down) (d * e))

def inapplicable (op : Operator) (a b : Thing) : Fault :=
  unsuitable
    ("unsupported operand type(s) for " ++ op.mark ++ ": '" ++ a.kindName ++ "' and '" ++
      b.kindName ++ "'")

/-- What several copies of a thing make together, if it has parts. -/
def repeated? (t : Thing) (count : Nat) : Option Thing :=
  match t with
  | .value (.text s) => some (ofText (List.replicate count s.toList).flatten)
  | .value (.list xs) => some (.value (.list (List.replicate count xs).flatten))
  | .row parts => some (.row (List.replicate count parts).flatten)
  | _ => none

/-- Repeats a thing as often as another one says. -/
def repeatBy (t times : Thing) : Except Fault Thing :=
  let count? :=
    match times with
    | .value v => index? v
    | _ => none
  match count?.bind fun n => t.repeated? n.toNat with
  | some t => .ok t
  | none =>
    .error (unsuitable ("can't multiply sequence by non-int of type '" ++ times.kindName ++ "'"))

def combine (op : Operator) (a b : Thing) : Except Fault Thing :=
  match op, a, b with
  | .add, .value (.text s), .value (.text t) => .ok (.value (.text (s ++ t)))
  | .add, .value (.list xs), .value (.list ys) => .ok (.value (.list (xs ++ ys)))
  | .add, .row xs, .row ys => .ok (.row (xs ++ ys))
  | .add, a, b =>
    if (a.repeated? 0).isSome then
      .error (unsuitable ("can only concatenate " ++ a.kindName ++ " (not \"" ++ b.kindName ++
        "\") to " ++ a.kindName))
    else .error (inapplicable op a b)
  | .remainder, .value (.text _), _ =>
    .error (unsuitable "not all arguments converted during string formatting")
  | .multiply, a, b =>
    if (a.repeated? 0).isSome then repeatBy a b
    else if (b.repeated? 0).isSome then repeatBy b a
    else .error (inapplicable op a b)
  | _, a, b => .error (inapplicable op a b)

def apply (op : Operator) (a b : Thing) : Except Fault Thing :=
  if op = .join then do return .value (.text ((← a.shown) ++ (← b.shown)))
  else
    match a, b with
    | .value x, .value y =>
      match index? x, index? y, x.ratio?, y.ratio? with
      | some m, some n, _, _ => reckonInt op m n
      | _, _, some p, some q => reckonRatio op p q
      | _, _, _, _ => combine op a b
    | a, b => combine op a b

/-! ### Comparing -/

/-- The order of two lists in which the parts are ordered by `order`. -/
def orderLists {α : Type} (order : α → α → Ordering) : List α → List α → Ordering
  | [], [] => .eq
  | [], _ :: _ => .lt
  | _ :: _, [] => .gt
  | a :: as, b :: bs => (order a b).then (orderLists order as bs)

def order? (a b : Thing) : Option Ordering :=
  match a, b with
  | .value (.text s), .value (.text t) =>
    some (orderLists (fun c d => compare c.toNat d.toNat) s.toList t.toList)
  | .value x, .value y =>
    match x.ratio?, y.ratio? with
    | some (m, d), some (n, e) => some (compare (m * e) (n * d))
    | _, _ => none
  | .version v, .version w => some (orderLists compare v.components w.components)
  | _, _ => none

/-- Two things are equal. Numbers of different kinds may be. -/
def isEqual (a b : Thing) : Bool :=
  match a, b with
  | .value x, .value y => x.isSameKey y || x == y
  | .version v, .version w => v == w
  | a, b => a.kindPath == b.kindPath && a.literal == b.literal

/-- What a comparison says of two things. -/
def holds (c : Comparison) (a b : Thing) : Except Fault Bool :=
  let ordered (p : Ordering → Bool) : Except Fault Bool :=
    match order? a b with
    | some o => .ok (p o)
    | none =>
      .error (unsuitable ("'" ++ c.mark ++ "' not supported between instances of '" ++
        a.kindName ++ "' and '" ++ b.kindName ++ "'"))
  match c with
  | .equal => .ok (isEqual a b)
  | .unequal => .ok !(isEqual a b)
  | .less => ordered (· == .lt)
  | .atMost => ordered (· != .gt)
  | .greater => ordered (· == .gt)
  | .atLeast => ordered (· != .lt)

end CodeBehind.Thing
