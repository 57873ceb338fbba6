import CodeBehind.Fault
import CodeBehind.Version

/-!
Compatibility of the loaded generator with a project.

Generated code calls the framework that it was generated for, so the generator and the framework
that a project declares must agree in their first two components. Patch releases do not matter.
-/

namespace CodeBehind

/-- The outcomes of the check. -/
inductive CompatibilityStatus where
  | compatible
  | noDeclaredDependency
  | versionMismatch
deriving DecidableEq, Repr

def CompatibilityStatus.word : CompatibilityStatus → String
  | .compatible => "compatible"
  | .noDeclaredDependency => "no_declared_dependency"
  | .versionMismatch => "version_mismatch"

/-- An outcome with the versions it is about. -/
structure Compatibility where
  status : CompatibilityStatus
  actual? : Option Version := none
  declared? : Option Version := none
deriving DecidableEq, Repr

namespace Compatibility

/-- The two versions agree as far as it matters. -/
def Agrees (declared actual : Version) : Prop :=
  actual.major = declared.major ∧ actual.minor = declared.minor

instance (declared actual : Version) : Decidable (Agrees declared actual) := by
  unfold Agrees; infer_instance

/-- A dependency is declared but the generator's version is missing. -/
def missingVersion : Fault :=
  .builtin "ValueError" "Generator version is required when a dependency is declared"

def check (declared? actual? : Option Version) : Except Fault Compatibility :=
  match declared?, actual? with
  | none, actual? => .ok { status := .noDeclaredDependency, actual? }
  | some _, none => .error missingVersion
  | some declared, some actual =>
    .ok {
      status := if Agrees declared actual then .compatible else .versionMismatch
      actual? := some actual
      declared? := some declared }

end Compatibility

end CodeBehind
