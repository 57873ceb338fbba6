import CodeBehind.Proofs.Generation.Part

/-!
The stages of a generation.

Preparing can go three ways (`Preparation`): a fault stops it while it is still asking, the gate is
shut and the project gets its message, or there is a target to generate for. A message of the gate
is rendered and then written, unless it cannot be made or rendered (`writeMessage_cases`).
-/

namespace CodeBehind

namespace Step

/-- A step of finding out what there is to generate. -/
inductive IsInquiry : Step → Prop where
  | provideServices (fault? : Option Fault) : IsInquiry (.call .provideServices fault?)
  | projectSettings (fault? : Option Fault) : IsInquiry (.call .projectSettings fault?)
  | generatorVersion (fault? : Option Fault) : IsInquiry (.call .generatorVersion fault?)
  | log (record : LogRecord) : IsInquiry (.log record)

/-- A step of making the content of a file. -/
inductive IsRendering : Step → Prop where
  | render (message? : Option String) : IsRendering (.render message?)
  | log (record : LogRecord) : IsRendering (.log record)

section Views

variable {s : Step}

theorem IsInquiry.message?_eq_none (h : s.IsInquiry) : s.message? = none := by
  cases h <;> rfl

theorem IsInquiry.diagnostic?_eq_none (h : s.IsInquiry) : s.diagnostic? = none := by
  cases h <;> rfl

theorem IsInquiry.fault?_eq_none (h : s.IsInquiry) : s.fault? = none := by
  cases h <;> rfl

theorem IsInquiry.writing?_eq_none (h : s.IsInquiry) : s.writing? = none := by
  cases h <;> rfl

theorem IsRendering.move?_eq_none (h : s.IsRendering) : s.move? = none := by
  cases h <;> rfl

theorem IsRendering.diagnostic?_eq_none (h : s.IsRendering) : s.diagnostic? = none := by
  cases h <;> rfl

theorem IsRendering.fault?_eq_none (h : s.IsRendering) : s.fault? = none := by
  cases h <;> rfl

theorem IsRendering.writing?_eq_none (h : s.IsRendering) : s.writing? = none := by
  cases h <;> rfl

end Views

end Step

namespace Compatibility

variable {declared actual : Version}

/-- Versions that agree are compatible. -/
theorem check_of_agrees (h : Agrees declared actual) :
    check (some declared) (some actual) =
      .ok { status := .compatible, actual? := some actual, declared? := some declared } := by
  rw [check, if_pos h]

/-- Versions that do not agree are a mismatch. -/
theorem check_of_differs (h : ¬ Agrees declared actual) :
    check (some declared) (some actual) =
      .ok { status := .versionMismatch, actual? := some actual, declared? := some declared } := by
  rw [check, if_neg h]

end Compatibility

namespace Journal

theorem isInquiry_unwriting {steps : List Step} (h : ∀ s ∈ steps, s.IsInquiry) :
    writerCalls steps = [] :=
  filterMap_eq_nil (fun _ hs => hs.writing?_eq_none) h

theorem isRendering_unwriting {steps : List Step} (h : ∀ s ∈ steps, s.IsRendering) :
    writerCalls steps = [] :=
  filterMap_eq_nil (fun _ hs => hs.writing?_eq_none) h

end Journal

namespace ProjectSetup

variable (p : ProjectSetup) (q : Request)

/-! ### Preparing -/

/-- A target is what the collaborators of a request say it is. -/
structure Located (t : Target) : Prop where
  services : q.provider = .ok t.services
  settings : t.services.settings = .ok t.settings
  renderer : p.registry.get t.settings.language? = .ok t.renderer
  output : t.output = q.output?.getD (q.input ++ t.renderer.fileExtension)

/-- All targets of a request have the same services. -/
theorem Located.services_eq {p : ProjectSetup} {q : Request} {t t' : Target} (h : p.Located q t)
    (h' : p.Located q t') : t.services = t'.services := by
  have same := h.services.symm.trans h'.services
  cases t
  cases same
  rfl

theorem Located.resolved {p : ProjectSetup} {q : Request} {t : Target} (h : p.Located q t)
    {services : Services} {settings : ProjectSettings} {r : Renderer}
    (provided : q.provider = .ok services) (told : services.settings = .ok settings)
    (found : p.registry.get settings.language? = .ok r) :
    t.services = services ∧ t.renderer = r := by
  have services_eq : t.services = services := Except.ok.inj (h.services.symm.trans provided)
  have settings_eq : t.settings = settings := by
    have answer := h.settings
    rw [services_eq, told] at answer
    exact (Except.ok.inj answer).symm
  have renderer := h.renderer
  rw [settings_eq, found] at renderer
  exact ⟨services_eq, (Except.ok.inj renderer).symm⟩

/-- The project references the framework, in a version that the generator of the services fits. -/
def Fits (services : Services) : Prop :=
  ∃ declared actual, p.project.referenced? = some declared ∧
    services.version = .ok (some actual) ∧ Compatibility.Agrees declared actual

/-- The gate is shut: the project references nothing, or a version that the generator of the
services does not fit. -/
def Shut (services : Services) : Prop :=
  p.project.referenced? = none ∨
    ∃ declared actual, p.project.referenced? = some declared ∧
      services.version = .ok (some actual) ∧ ¬ Compatibility.Agrees declared actual

/-- Where the generator fits, the gate is not shut. -/
theorem Fits.not_shut {p : ProjectSetup} {services : Services} (h : p.Fits services) :
    ¬ p.Shut services := by
  obtain ⟨declared, actual, hdeclared, hactual, agrees⟩ := h
  rintro (absent | ⟨declared', actual', hdeclared', hactual', differs⟩)
  · rw [hdeclared] at absent
    cases absent
  · rw [hdeclared] at hdeclared'
    rw [hactual] at hactual'
    cases hdeclared'
    cases hactual'
    exact differs agrees

/-- The moves up to the gate. -/
def opening : List Move :=
  [.provideServices, .projectSettings] ++
    if p.project.referenced?.isSome then [.generatorVersion] else []

/-- The ways in which preparing can go. -/
inductive Preparation : Part Prepared → Prop where
  | stuck {steps : List Step} {f : Fault} (inquiry : ∀ s ∈ steps, s.IsInquiry)
      (begins : Journal.moves steps <+: p.opening)
      (asked : Move.generatorVersion ∈ Journal.moves steps ↔
        p.project.referenced?.isSome ∧ ∃ t, p.Located q t)
      (unfit : ∀ t, p.Located q t → ¬ p.Fits t.services) : Preparation ⟨steps, .error f⟩
  | shut {steps : List Step} {t : Target} {message : Except Fault String}
      (inquiry : ∀ s ∈ steps, s.IsInquiry) (moves : Journal.moves steps = p.opening)
      (located : p.Located q t) (closed : p.Shut t.services) :
      Preparation ((p.writeMessage q t.renderer t.output message).after steps)
  | ready {steps : List Step} {t : Target} (inquiry : ∀ s ∈ steps, s.IsInquiry)
      (moves : Journal.moves steps = p.opening) (located : p.Located q t)
      (fits : p.Fits t.services) : Preparation ⟨steps, .ok (.ready t)⟩

/-- Locating asks for the services and then for the settings. -/
theorem locate_of_located {t : Target} (h : p.Located q t) :
    p.locate q = ⟨[.call .provideServices none, .call .projectSettings none], .ok t⟩ := by
  obtain ⟨services, settings, renderer, output⟩ := t
  obtain ⟨hservices, hsettings, hrenderer, houtput⟩ := h
  simp only at hservices hsettings hrenderer houtput
  rw [locate, Part.bind_of_ok (x := Part.ask _ q.provider) hservices,
    Part.bind_of_ok (x := Part.ask _ services.settings) hsettings, hrenderer, houtput,
    Part.ask, Part.ask, hservices, hsettings]
  rfl

/-- The calls that find a target are inquiries, however they end. -/
theorem isInquiry_of_locating (f g : Option Fault) :
    ∀ s ∈ [Step.call .provideServices f, .call .projectSettings g], s.IsInquiry := by
  intro s hs
  simp only [List.mem_cons, List.not_mem_nil, or_false] at hs
  rcases hs with rfl | rfl
  · exact .provideServices f
  · exact .projectSettings g

/-- Where there is no target, locating ends with a fault of the services, of their settings or of
the registry. -/
theorem locate_of_not_located (h : ¬ ∃ t, p.Located q t) :
    ∃ steps f, p.locate q = ⟨steps, .error f⟩ ∧ (∀ s ∈ steps, s.IsInquiry) ∧
      Journal.moves steps <+: [.provideServices, .projectSettings] := by
  cases hservices : q.provider with
  | error f =>
    refine ⟨[.call .provideServices (some f)], f, ?_, ?_, ⟨[.projectSettings], rfl⟩⟩
    · rw [locate, Part.bind_of_error (x := Part.ask _ q.provider) hservices, Part.ask, hservices]
      rfl
    · exact List.forall_mem_singleton.mpr (.provideServices _)
  | ok services =>
    cases hsettings : services.settings with
    | error f =>
      refine ⟨[.call .provideServices none, .call .projectSettings (some f)], f, ?_, ?_,
        List.prefix_rfl⟩
      · rw [locate, Part.bind_of_ok (x := Part.ask _ q.provider) hservices,
          Part.bind_of_error (x := Part.ask _ services.settings) hsettings, Part.ask, Part.ask,
          hservices, hsettings]
        rfl
      · exact isInquiry_of_locating _ _
    | ok settings =>
      cases hrenderer : p.registry.get settings.language? with
      | error e =>
        refine ⟨[.call .provideServices none, .call .projectSettings none], e.fault, ?_, ?_,
          List.prefix_rfl⟩
        · rw [locate, Part.bind_of_ok (x := Part.ask _ q.provider) hservices,
            Part.bind_of_ok (x := Part.ask _ services.settings) hsettings, hrenderer, Part.ask,
            Part.ask, hservices, hsettings]
          rfl
        · exact isInquiry_of_locating _ _
      | ok renderer =>
        let t : Target := { services, settings, renderer
                            output := q.output?.getD (q.input ++ renderer.fileExtension) }
        exact absurd ⟨t, hservices, hsettings, hrenderer, rfl⟩ h

/-- What locating returns is located. -/
theorem located_of_locate {t : Target} (h : (p.locate q).outcome = .ok t) : p.Located q t := by
  by_cases found : ∃ t, p.Located q t
  · obtain ⟨t', located⟩ := found
    rw [p.locate_of_located q located] at h
    cases h
    exact located
  · obtain ⟨steps, f, locate_eq, -⟩ := p.locate_of_not_located q found
    rw [locate_eq] at h
    cases h

section Clear

variable {p} {t : Target}

/-- Without a reference, the generator is not asked for its version. -/
theorem clear_of_unreferenced (h : p.project.referenced? = none) :
    p.clear q t = Part.warn p.strictLog p.noReferenceWarning >>= fun _ =>
      p.writeMessage q t.renderer t.output p.noReferenceMessage := by
  rw [clear, generatorVersion, h]
  rfl

variable {declared : Version} (hdeclared : p.project.referenced? = some declared)
include hdeclared

theorem clear_of_version_error {f : Fault} (h : t.services.version = .error f) :
    p.clear q t = ⟨[.call .generatorVersion (some f)], .error f⟩ := by
  rw [clear, generatorVersion, hdeclared, h]
  rfl

/-- A generator without a version is a fault where the project references one. -/
theorem clear_of_no_version (h : t.services.version = .ok none) :
    p.clear q t = ⟨[.call .generatorVersion none], .error Compatibility.missingVersion⟩ := by
  rw [clear, generatorVersion, hdeclared, h]
  rfl

variable {actual : Version} (hactual : t.services.version = .ok (some actual))
include hactual

/-- A version that agrees clears the target. -/
theorem clear_of_agrees (agrees : Compatibility.Agrees declared actual) :
    p.clear q t = ⟨[.call .generatorVersion none], .ok (.ready t)⟩ := by
  rw [clear, generatorVersion, hdeclared, hactual]
  change (liftM (Compatibility.check (some declared) (some actual)) >>= _ : Part _).after _ = _
  rw [Compatibility.check_of_agrees agrees]
  rfl

/-- A version that differs is logged and told in place of the code. -/
theorem clear_of_differs (differs : ¬ Compatibility.Agrees declared actual) :
    p.clear q t = (Part.warn p.strictLog
        (p.versionConflictWarning (some actual) (some declared)) >>= fun _ =>
      p.writeMessage q t.renderer t.output (p.versionConflictMessage (some actual))).after
        [.call .generatorVersion none] := by
  rw [clear, generatorVersion, hdeclared, hactual]
  change (liftM (Compatibility.check (some declared) (some actual)) >>= _ : Part _).after _ = _
  rw [Compatibility.check_of_differs differs]
  rfl

end Clear

/-- Where there is a target, preparing finds it and then clears it. -/
theorem prepare_of_located {t : Target} (located : p.Located q t) :
    p.prepare q =
      (p.clear q t).after [.call .provideServices none, .call .projectSettings none] := by
  rw [prepare, p.locate_of_located q located]
  rfl

/-- Behind an open gate, preparing consists of three calls that return. -/
theorem prepare_of_fits {t : Target} (located : p.Located q t) (fits : p.Fits t.services) :
    p.prepare q = ⟨[.call .provideServices none, .call .projectSettings none,
      .call .generatorVersion none], .ok (.ready t)⟩ := by
  obtain ⟨declared, actual, hdeclared, hactual, agrees⟩ := fits
  rw [p.prepare_of_located q located, clear_of_agrees q hdeclared hactual agrees]
  rfl

section Located

variable {p q} {t : Target} (located : p.Located q t)

/-- Steps of asking, after the two calls that find a target. -/
theorem isInquiry_of_located {steps : List Step} (h : ∀ s ∈ steps, s.IsInquiry) :
    ∀ s ∈ [Step.call .provideServices none, .call .projectSettings none] ++ steps, s.IsInquiry := by
  intro s hs
  rcases List.mem_append.mp hs with early | late
  · exact isInquiry_of_locating none none s early
  · exact h s late

/-- The version is asked for if the project references one. -/
theorem generatorVersion_mem_opening :
    Move.generatorVersion ∈ p.opening ↔ p.project.referenced?.isSome := by
  cases h : p.project.referenced? <;> simp [opening, h]

theorem opening_of_referenced {declared : Version} (h : p.project.referenced? = some declared) :
    p.opening = [.provideServices, .projectSettings, .generatorVersion] := by
  rw [opening, h]
  rfl

include located

/-- A referenced version is of no use where the generator does not tell its own. -/
theorem Preparation.stuck_of_unknown {declared : Version}
    (hdeclared : p.project.referenced? = some declared)
    (unknown : ∀ actual, t.services.version ≠ .ok (some actual)) (fault? : Option Fault)
    (f : Fault) :
    p.Preparation q ⟨[.call .provideServices none, .call .projectSettings none] ++
      [.call .generatorVersion fault?], .error f⟩ := by
  have opening_eq := opening_of_referenced hdeclared
  refine .stuck (isInquiry_of_located ?_) (opening_eq ▸ List.prefix_rfl) ?_ ?_
  · exact List.forall_mem_singleton.mpr (.generatorVersion fault?)
  · exact iff_of_true (.tail _ (.tail _ (.head _))) ⟨by simp [hdeclared], t, located⟩
  · rintro t' located' ⟨-, actual, -, hactual, -⟩
    rw [located'.services_eq located] at hactual
    exact unknown actual hactual

/-- A gate that is shut leads to its message, unless a strict log stops there. -/
theorem Preparation.of_shut {steps : List Step} {warning message : Except Fault String}
    (inquiry : ∀ s ∈ steps, s.IsInquiry)
    (moves : Journal.moves ([.call .provideServices none, .call .projectSettings none] ++ steps) =
      p.opening) (closed : p.Shut t.services) :
    p.Preparation q ((Part.warn p.strictLog warning >>= fun _ =>
      p.writeMessage q t.renderer t.output message).after
        ([.call .provideServices none, .call .projectSettings none] ++ steps)) := by
  have asked := isInquiry_of_located inquiry
  rcases Part.warn_cases p.strictLog warning with ⟨f, -, stopped⟩ | ⟨records, said⟩
  · rw [Part.bind_of_error (congrArg Part.outcome stopped), stopped, Part.after_error]
    refine .stuck asked (moves ▸ List.prefix_rfl) ?_ ?_
    · rw [moves, generatorVersion_mem_opening]
      exact ⟨fun referenced => ⟨referenced, t, located⟩, And.left⟩
    · intro t' located' fits
      rw [located'.services_eq located] at fits
      exact fits.not_shut closed
  · have unmoved : Journal.moves (records.map Step.log) = [] :=
      Journal.filterMap_eq_nil (fun s hs => hs) (List.forall_mem_map.mpr fun _ _ => rfl)
    rw [Part.bind_of_ok (congrArg Part.outcome said), said, Part.after_after]
    refine .shut ?_ ?_ located closed
    · refine List.forall_mem_append.mpr ⟨asked, List.forall_mem_map.mpr ?_⟩
      exact fun record _ => .log record
    · rw [Journal.moves, List.filterMap_append, ← Journal.moves, moves]
      exact (congrArg (p.opening ++ ·) unmoved).trans (List.append_nil _)

theorem Preparation.of_located :
    p.Preparation q ((p.clear q t).after
      [.call .provideServices none, .call .projectSettings none]) := by
  cases hdeclared : p.project.referenced? with
  | none =>
    rw [clear_of_unreferenced q hdeclared]
    refine .of_shut located (List.forall_mem_nil _) ?_ (.inl hdeclared)
    rw [opening, hdeclared]
    rfl
  | some declared =>
    have opening_eq := opening_of_referenced hdeclared
    cases hversion : t.services.version with
    | error f =>
      rw [clear_of_version_error q hdeclared hversion]
      exact .stuck_of_unknown located hdeclared (by simp [hversion]) _ _
    | ok version? =>
      cases version? with
      | none =>
        rw [clear_of_no_version q hdeclared hversion]
        exact .stuck_of_unknown located hdeclared (by simp [hversion]) _ _
      | some actual =>
        have asked : ∀ s ∈ [Step.call .generatorVersion none], s.IsInquiry :=
          List.forall_mem_singleton.mpr (.generatorVersion _)
        by_cases agrees : Compatibility.Agrees declared actual
        · rw [clear_of_agrees q hdeclared hversion agrees]
          exact .ready (isInquiry_of_located asked) opening_eq.symm located
            ⟨declared, actual, hdeclared, hversion, agrees⟩
        · rw [clear_of_differs q hdeclared hversion agrees, Part.after_after]
          exact .of_shut located asked opening_eq.symm
            (.inr ⟨declared, actual, hdeclared, hversion, agrees⟩)

end Located

/-- Preparing comes to one of the ways to prepare. -/
theorem preparation : p.Preparation q (p.prepare q) := by
  by_cases found : ∃ t, p.Located q t
  · obtain ⟨t, located⟩ := found
    rw [p.prepare_of_located q located]
    exact .of_located located
  · obtain ⟨steps, f, locate_eq, inquiry, begins⟩ := p.locate_of_not_located q found
    have prepare_eq : p.prepare q = ⟨steps, .error f⟩ := by
      rw [prepare, locate_eq]
      rfl
    have unasked : .generatorVersion ∉ Journal.moves steps := fun h => by
      simpa using begins.subset h
    rw [prepare_eq]
    refine .stuck inquiry (begins.trans (List.prefix_append _ _)) ?_ ?_
    · exact iff_of_false unasked fun h => found h.2
    · exact fun t located _ => found ⟨t, located⟩

/-! ### Writing a message -/

/-- A message of the gate that can be rendered is written. -/
theorem writeMessage_of_rendered {r : Renderer} {text content : String} (output : String)
    (h : (p.render r (some text)).outcome = .ok content) :
    p.writeMessage q r output (.ok text) =
      (Part.askLogged (.write output content) (q.writer output content) >>= fun _ =>
        pure (.written output)).after [.render (some text)] := by
  have writeMessage_eq : p.writeMessage q r output (.ok text) = (do
      let content ← p.render r (some text)
      Part.askLogged (.write output content) (q.writer output content)
      return .written output) := rfl
  rw [writeMessage_eq, Part.bind_of_ok h]
  rfl

theorem writeMessage_error (r : Renderer) (output : String) (f : Fault) :
    p.writeMessage q r output (.error f) = ⟨[], .error f⟩ :=
  rfl

/-- A message of the gate is written unless it cannot be made or rendered. -/
theorem writeMessage_cases (r : Renderer) (output : String) (message : Except Fault String) :
    (∃ f, (p.writeMessage q r output message).outcome = .error f ∧
      (p.writeMessage q r output message).All Step.IsRendering) ∨
    ∃ text content, (p.render r (some text)).outcome = .ok content ∧
      p.writeMessage q r output message =
        (Part.askLogged (.write output content) (q.writer output content) >>= fun _ =>
          pure (.written output)).after [.render (some text)] := by
  cases message with
  | error f => exact .inl ⟨f, rfl, Part.All.ofOutcome (.error f)⟩
  | ok text =>
    cases hcontent : (p.render r (some text)).outcome with
    | error f =>
      have stopped : p.writeMessage q r output (.ok text) =
          ⟨[.render (some text)], .error f⟩ := Part.bind_of_error hcontent _
      rw [stopped]
      exact .inl ⟨f, rfl, List.forall_mem_singleton.mpr (.render _)⟩
    | ok content =>
      exact .inr ⟨text, content, hcontent, p.writeMessage_of_rendered q output hcontent⟩

/-- A message of the gate leaves no target to generate for. -/
theorem writeMessage_not_ready {r : Renderer} {output : String} {message : Except Fault String}
    {t : Target} : (p.writeMessage q r output message).outcome ≠ .ok (.ready t) := by
  intro h
  obtain ⟨text, -, h⟩ := Part.bind_eq_ok.mp h
  obtain ⟨content, -, h⟩ := Part.bind_eq_ok.mp h
  obtain ⟨_, -, h⟩ := Part.bind_eq_ok.mp h
  cases h

/-- A target that is ready is located, and its generator fits. -/
theorem ready_of_prepare {t : Target} (h : (p.prepare q).outcome = .ok (.ready t)) :
    p.Located q t ∧ p.Fits t.services := by
  have prepared := p.preparation q
  generalize p.prepare q = x at h prepared
  cases prepared with
  | stuck => cases h
  | shut => exact absurd h (p.writeMessage_not_ready q)
  | ready inquiry moves located fits =>
    cases h
    exact ⟨located, fits⟩

end ProjectSetup

end CodeBehind
