import CodeBehind.Fault
import CodeBehind.Text.Digits
import CodeBehind.Value

/-!
Versions of the test framework and of its generator.

A version has three components and is ordered by the first in which two versions differ. It is shown
with its first components only where fewer are asked for. The components can be any integers, but
those of too many digits cannot be shown.
-/

namespace CodeBehind

/-- A version `major.minor.patch`. -/
structure Version where
  major : Int
  minor : Int := 0
  patch : Int := 0
deriving DecidableEq, Repr

/-- What can go wrong with versions and their texts. -/
inductive VersionError where
  | malformed (text? : Option String)
  | tooManyDigits (count : Nat)
  | tooLong
  | fieldCount
deriving DecidableEq, Repr

namespace Version

def components (v : Version) : List Int :=
  [v.major, v.minor, v.patch]

def lt (a b : Version) : Prop :=
  a.major < b.major ∨
    a.major = b.major ∧ (a.minor < b.minor ∨ a.minor = b.minor ∧ a.patch < b.patch)

instance : LT Version := ⟨lt⟩

instance : LE Version := ⟨fun a b => a < b ∨ a = b⟩

instance (a b : Version) : Decidable (lt a b) := by
  unfold lt; infer_instance

instance (a b : Version) : Decidable (a < b) :=
  inferInstanceAs (Decidable (lt a b))

instance (a b : Version) : Decidable (a ≤ b) :=
  inferInstanceAs (Decidable (a < b ∨ a = b))

def sort (versions : List Version) : List Version :=
  versions.mergeSort (fun a b => a ≤ b)

/-- The digits of the first `count` components with dots between them. -/
def digits (v : Version) (count : Nat) : String :=
  ".".intercalate ((v.components.take count).map Value.intText)

/-- The first `count` components can be written. -/
def isWritable (v : Version) (count : Nat) : Bool :=
  (v.components.take count).all Value.isWritableInt

/-- The first `count` components joined with dots. -/
def shortText (v : Version) (count : Nat) : Except VersionError String :=
  if v.isWritable count then .ok (v.digits count) else .error .tooLong

def text (v : Version) : Except VersionError String :=
  v.shortText 3

/-- The text with a given number of fields, which must be one, two or three. -/
def textWith (v : Version) (fields : Int) : Except VersionError String :=
  if 1 ≤ fields ∧ fields ≤ 3 then v.shortText fields.toNat else .error .fieldCount

end Version

def VersionError.message : VersionError → String
  | .malformed text? =>
    "Invalid version: " ++
      match text? with
      | some text => Text.quoted text
      | none => Value.null.literal
  | .tooManyDigits count => Text.tooManyDigits count
  | .tooLong => Text.tooLong
  | .fieldCount => "fields must be between 1 and 3"

def VersionError.fault (e : VersionError) : Fault :=
  .builtin "ValueError" e.message

end CodeBehind
