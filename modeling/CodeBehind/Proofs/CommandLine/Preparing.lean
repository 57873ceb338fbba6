import CodeBehind.CommandLine
import CodeBehind.Proofs.Outcome

/-!
Beginning a generation.

A generation begins with a setup and services when version, configuration and services are found
(`prepare_eq_ok`). What keeps it from beginning is a matter of the command line, but for services
that are named by what is no text, and for trouble that other code raises while they are looked for
(`Modules.Trouble`): importing a module and asking for a member may raise anything
(`Modules.factory_eq_error`, `prepare_eq_error`).
-/

namespace CodeBehind

/-! ### Services that cannot be found -/

namespace Modules

variable {modules : Modules} {path name attributes : String} {m : LoadedModule} {f : Fault}

/-- Trouble in looking for services that the command line does not answer for: importing their
module raises what is no fault of importing, or one that cannot be asked for its description, or
asking for a member raises something else than that it is missing. -/
inductive Trouble (modules : Modules) (path : String) : Fault → Prop
  | importing {name attributes : String} {f : Fault} (parts : parts? path = some (name, attributes))
      (raised : modules.find name = .error f) (other : f.isA Fault.importing = false) :
      Trouble modules path f
  | speechless {name attributes : String} {f : Fault}
      (parts : parts? path = some (name, attributes)) (raised : modules.find name = .error f)
      (importing : f.isA Fault.importing = true) (silent : f.description? = none) :
      Trouble modules path .indescribable
  | member {name attributes : String} {m : LoadedModule} {f : Fault}
      (parts : parts? path = some (name, attributes)) (imported : modules.find name = .ok m)
      (raised : (Member.group m.members).follow (namesOf attributes) = .error f)
      (other : f.isA Member.missing = false) : Trouble modules path f

/-- Looking for services is importing a module and then following names in it. -/
theorem factory_of_parts (parts : parts? path = some (name, attributes)) :
    modules.factory path = (modules.find name).mapError (toldOfModule name) >>= fun m =>
      ((Member.group m.members).follow (namesOf attributes)).mapError
        (toldOfMember name attributes) >>= callable path := by
  rw [factory, parts]

/-- Trouble in looking for services leaves the search. -/
theorem Trouble.factory (trouble : Trouble modules path f) : modules.factory path = .error f := by
  cases trouble with
  | @importing name _ _ parts raised other =>
    have told : toldOfModule name f = f := by
      rw [toldOfModule, other]
      rfl
    rw [factory_of_parts parts]
    exact Outcome.bind_eq_error.mpr (.inl (Outcome.mapError_eq_error.mpr ⟨f, raised, told⟩))
  | @speechless name _ e parts raised importing silent =>
    have told : toldOfModule name e = .indescribable := by
      rw [toldOfModule, if_pos importing, Fault.toldAs, silent]
      rfl
    rw [factory_of_parts parts]
    exact Outcome.bind_eq_error.mpr (.inl (Outcome.mapError_eq_error.mpr ⟨e, raised, told⟩))
  | @member name attributes _ _ parts imported raised other =>
    have told : toldOfMember name attributes f = f := by
      rw [toldOfMember, other]
      rfl
    have unfollowed := Outcome.mapError_eq_error.mpr ⟨f, raised, told⟩
    rw [factory_of_parts parts]
    refine Outcome.bind_eq_error.mpr (.inr ⟨_, Outcome.mapError_eq_ok.mpr imported, ?_⟩)
    exact Outcome.bind_eq_error.mpr (.inl unfollowed)

end Modules

namespace CommandLine

variable {w : World} {level : Severity} {g : GenerateArguments}

/-! ### What a generation needs -/

/-- What preparing comes to. -/
theorem prepare_eq_ok {setup : ProjectSetup} {services : Except Fault Services} :
    prepare w level g = .ok (setup, services) ↔
    ∃ referenced? config, referencedVersion g.referencedVersion? = .ok referenced? ∧
      loadConfig w g.config? = .ok config ∧ findServices w g.services = .ok services ∧
      setup = { project := { name := g.projectName.display, referenced? }, config,
                behaviour := printing, strictLog := level.rank ≤ Severity.warning.rank } := by
  constructor
  · intro prepared
    obtain ⟨referenced?, version, prepared⟩ := Outcome.bind_eq_ok.mp prepared
    obtain ⟨config, loaded, prepared⟩ := Outcome.bind_eq_ok.mp prepared
    obtain ⟨provided, found, prepared⟩ := Outcome.bind_eq_ok.mp prepared
    cases prepared
    exact ⟨referenced?, config, version, loaded, found, rfl⟩
  · rintro ⟨referenced?, config, version, loaded, found, rfl⟩
    rw [prepare, version, loaded, found]
    rfl

/-- The services are asked for when version and configuration are fine. -/
theorem prepare_of_services_error (level : Severity) {referenced? : Option Version}
    {config : Config} {f : Fault}
    (version : referencedVersion g.referencedVersion? = .ok referenced?)
    (loaded : loadConfig w g.config? = .ok config)
    (unfound : findServices w g.services = .error f) : prepare w level g = .error f := by
  rw [prepare, version, loaded, unfound]
  rfl

theorem findServices_of_trouble {path : String} {f : Fault} (services : g.services = .text path)
    (trouble : w.modules.Trouble path f) : findServices w g.services = .error f := by
  rw [services, findServices, trouble.factory]
  rfl

end CommandLine

end CodeBehind
