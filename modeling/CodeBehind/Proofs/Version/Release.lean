import CodeBehind.Proofs.Generation.Dependency
import CodeBehind.Proofs.Text.Digits
import Mathlib.Data.List.Basic

/-!
Compatible versions and the releases that messages show.

The gate compares the first two components of two versions, a message about them shows the texts of
these components with a point between them. The text tells the components (`release_inj`), so the
gate is shut exactly when the message would show two different releases (`check_by_release`).
Versions that fit each other form classes, and in the order of versions nothing else lies between
two versions of a class (`Compatible.between`).
-/

namespace CodeBehind

namespace Version

variable {a b c : Version}

theorem toList_release (v : Version) :
    v.release.toList = (Value.intText v.major).toList ++ '.' :: (Value.intText v.minor).toList := by
  have point : ".".toList = ['.'] := rfl
  rw [release, String.toList_append, String.toList_append, point, List.append_assoc]
  rfl

/-- A release tells the two components that it shows. -/
theorem release_inj : a.release = b.release ↔ a.major = b.major ∧ a.minor = b.minor := by
  rw [← String.toList_inj, toList_release, toList_release,
    List.append_cons_inj_of_notMem (Value.point_not_mem_intText _) (Value.point_not_mem_intText _),
    String.toList_inj, String.toList_inj, Value.intText_inj, Value.intText_inj]
  simp

/-- A version with two fields is shown as its release. -/
theorem textWith_two {v : Version} (shows : v.isWritable 2) : v.textWith 2 = .ok v.release :=
  v.shortText_two.trans (if_pos shows)

theorem le_iff : a ≤ b ↔ a < b ∨ a = b :=
  Iff.rfl

/-- Versions are ordered by the first component that differs. -/
theorem lt_iff : a < b ↔ a.major < b.major ∨
    a.major = b.major ∧ (a.minor < b.minor ∨ a.minor = b.minor ∧ a.patch < b.patch) :=
  Iff.rfl

/-- The first two components ascend with the version. -/
theorem le_release_of_le (h : a ≤ b) :
    a.major < b.major ∨ a.major = b.major ∧ a.minor ≤ b.minor := by
  rcases le_iff.mp h with below | rfl
  · rcases lt_iff.mp below with major | ⟨major, minor | ⟨minor, -⟩⟩
    · exact .inl major
    · exact .inr ⟨major, Int.le_of_lt minor⟩
    · exact .inr ⟨major, Int.le_of_eq minor⟩
  · exact .inr ⟨rfl, Int.le_refl _⟩

end Version

namespace Compatibility

variable {a b c declared actual : Version}

theorem agrees_iff : Agrees declared actual ↔ actual.release = declared.release :=
  Version.release_inj.symm

/-- The check finds the two versions compatible. -/
def Compatible (declared actual : Version) : Prop :=
  check (some declared) (some actual) =
    .ok { status := .compatible, actual? := some actual, declared? := some declared }

/-- Versions are compatible if they have the same release. -/
theorem compatible_iff : Compatible declared actual ↔ actual.release = declared.release := by
  rw [← agrees_iff, Compatible]
  constructor
  · intro found
    by_contra differs
    rw [check_of_differs differs] at found
    cases found
  · exact check_of_agrees

/-- Versions are a mismatch if they have different releases. -/
theorem mismatch_iff :
    check (some declared) (some actual) =
        .ok { status := .versionMismatch, actual? := some actual, declared? := some declared } ↔
      actual.release ≠ declared.release := by
  rw [ne_eq, ← agrees_iff]
  constructor
  · intro found agrees
    rw [check_of_agrees agrees] at found
    cases found
  · exact check_of_differs

theorem compatible_equivalence : Equivalence Compatible where
  refl _ := compatible_iff.mpr rfl
  symm same := compatible_iff.mpr (compatible_iff.mp same).symm
  trans first second :=
    compatible_iff.mpr ((compatible_iff.mp second).trans (compatible_iff.mp first))

/-- Between two versions that fit each other lie only versions that fit both. -/
theorem Compatible.between (h : a ≤ b) (h' : b ≤ c) (ends : Compatible a c) :
    Compatible a b ∧ Compatible b c := by
  obtain ⟨major, minor⟩ := Version.release_inj.mp (compatible_iff.mp ends)
  have same : b.major = a.major ∧ b.minor = a.minor := by
    rcases Version.le_release_of_le h with below | ⟨first, second⟩ <;>
      rcases Version.le_release_of_le h' with below' | ⟨first', second'⟩ <;> omega
  have middle : Compatible a b := compatible_iff.mpr (Version.release_inj.mpr same)
  exact ⟨middle, compatible_equivalence.trans (compatible_equivalence.symm middle) ends⟩

end Compatibility

namespace ProjectSetup

open Compatibility (Compatible)

variable {p : ProjectSetup} {q : Request} {t : Target} {declared actual : Version}

/-- What the gate comes to: it is open and no message is made, or the message about the two versions
is written. -/
theorem clear_by_release (hdeclared : p.project.referenced? = some declared)
    (hactual : t.services.version = .ok (some actual)) (tells : p.CanTell actual declared) :
    actual.release = declared.release ∧ (p.clear q t).outcome = .ok (.ready t) ∨
      actual.release ≠ declared.release ∧ ∃ steps, p.clear q t =
        (p.writeMessage q t.renderer t.output (p.versionConflictMessage (some actual))).after
          steps := by
  by_cases agrees : Compatibility.Agrees declared actual
  · refine .inl ⟨Compatibility.agrees_iff.mp agrees, ?_⟩
    rw [clear_of_agrees q hdeclared hactual agrees]
  · have differ := mt Compatibility.agrees_iff.mpr agrees
    obtain ⟨records, said⟩ := Part.warn_of_told fun strict =>
      versionConflictWarning_ok (p := p) (tells.logged strict).1 (tells.logged strict).2
    refine .inr ⟨differ, [.call .generatorVersion none] ++ records.map .log, ?_⟩
    rw [clear_of_differs q hdeclared hactual agrees, Part.bind_of_ok (congrArg Part.outcome said),
      said, Part.after_after]

end ProjectSetup

namespace Compatibility

/-- The check finds two versions different exactly if the releases are different texts, and
compatible exactly if these are the same. So a generation that gets as far as the check makes the
message about two versions only where the two releases in it differ. Compatibility is an
equivalence, and versions between compatible ones are compatible with both. Versions with too many
digits are compared in the same way, but not shown. -/
theorem check_by_release :
    (∀ v : Version, v.isWritable 2 → v.textWith 2 = .ok v.release) ∧
    (∀ declared actual : Version,
      (check (some declared) (some actual) = .ok ⟨.versionMismatch, some actual, some declared⟩ ↔
        actual.release ≠ declared.release) ∧
      (check (some declared) (some actual) = .ok ⟨.compatible, some actual, some declared⟩ ↔
        actual.release = declared.release)) ∧
    (∀ (p : ProjectSetup) (q : Request) (t : Target) (declared actual : Version),
      p.project.referenced? = some declared → t.services.version = .ok (some actual) →
      p.CanTell actual declared →
      (actual.release = declared.release ∧ (p.clear q t).outcome = .ok (.ready t) ∨
        actual.release ≠ declared.release ∧ ∃ steps, p.clear q t =
          (p.writeMessage q t.renderer t.output (p.versionConflictMessage (some actual))).after
            steps) ∧
      ∀ framework package url, p.templates = Templates.builtin →
        p.config.Names framework package url →
        p.versionConflictMessage (some actual) =
          .ok (versionConflictText framework p.project.name url actual declared)) ∧
    Equivalence Compatible ∧
    ∀ a b c, a ≤ b → b ≤ c → Compatible a c → Compatible a b ∧ Compatible b c := by
  refine ⟨fun _ => Version.textWith_two, ?_, ?_, compatible_equivalence,
    fun _ _ _ => Compatible.between⟩
  · exact fun declared actual => ⟨mismatch_iff, compatible_iff⟩
  · intro p q t declared actual hdeclared hactual tells
    refine ⟨ProjectSetup.clear_by_release hdeclared hactual tells, ?_⟩
    intro framework package url builtin names
    rw [ProjectSetup.versionConflictMessage_eq builtin names actual hdeclared,
      if_pos tells.releases]

/-! ### Releases that look alike -/

open ProjectSetup (braced bracedServices bracedRequest)

def conflicting : ProjectSetup :=
  braced (some ⟨3, 1, 10⟩)

def conflictingTarget : Target where
  services := bracedServices
  settings := { folder := "/proj", language? := some "VB.NET" }
  renderer := Language.visualBasic
  output := "Login.feature.vb"

/-- The releases `3.1` and `3.10` are different ones, and a third component makes no difference. -/
theorem check_by_release_conflicting :
    (∃ steps, conflicting.clear bracedRequest conflictingTarget =
      (conflicting.writeMessage bracedRequest Language.visualBasic "Login.feature.vb"
        (.ok (versionConflictText "\x7b# \"Spec\" #\x7d" conflicting.project.name "\x7b\x7b"
          ⟨3, 10, 1⟩ ⟨3, 1, 10⟩))).after steps) ∧
      Compatible ⟨-3, 10, 0⟩ ⟨-3, 10, 7⟩ ∧ Compatible ⟨-3, 10, 7⟩ ⟨-3, 10, 9⟩ := by
  obtain ⟨gate, message⟩ := check_by_release.2.2.1 conflicting bracedRequest conflictingTarget
    ⟨3, 1, 10⟩ ⟨3, 10, 1⟩ rfl rfl ⟨⟨by decide, by decide⟩, nofun⟩
  have names : conflicting.config.Names "\x7b# \"Spec\" #\x7d"
      "Spec\u2028\x7b\x7b 1 / 0 \x7d\x7d" "\x7b\x7b" := ⟨rfl, rfl, rfl⟩
  have ends : Compatible ⟨-3, 10, 0⟩ ⟨-3, 10, 9⟩ := rfl
  refine ⟨?_, check_by_release.2.2.2.2 _ _ _ (by decide) (by decide) ends⟩
  rcases gate with ⟨same, -⟩ | ⟨-, steps, cleared⟩
  · exact absurd same (by decide)
  · rw [message _ _ _ rfl names] at cleared
    exact ⟨steps, cleared⟩

end Compatibility

end CodeBehind
