import CodeBehind.Proofs.CommandLine.Preparing
import CodeBehind.Proofs.Generation.Saving
import CodeBehind.Proofs.Template.Ordinary

/-!
Faults of a generation that the program runs.

The reader and the writer of files, the templates, the bundled languages and the printing handlers
raise no faults that interrupt the program, and neither does a thing that is called for services. So
where the services keep to this as well, the whole generation does (`prepare_isOrdinary`).
-/

namespace CodeBehind

/-! ### Files -/

theorem AccessError.fault_isOrdinary (path : String) (e : AccessError) :
    (e.fault path).isOrdinary = true := by
  cases e <;> rfl

namespace TextFile

theorem refused_isOrdinary (task path : String) (e : AccessError) :
    (refused task path e).isOrdinary = true := by
  unfold refused
  dsimp only
  split
  · rfl
  · exact e.fault_isOrdinary path

/-- The reader of files raises ordinary faults only. -/
theorem read_onlyOrdinary (d : Disk) (path : String) : OnlyOrdinary (read d path).outcome := by
  unfold read
  dsimp only
  split
  · exact .error (AccessError.fault_isOrdinary _ _)
  · exact .error rfl
  · refine (OnlyOrdinary.mapError (refused_isOrdinary _ _) _).bind fun octets _ => ?_
    exact OnlyOrdinary.mapError (fun _ => rfl) _

/-- So does the writer. -/
theorem write_onlyOrdinary (d : Disk) (path content : String) :
    OnlyOrdinary (write d path content).outcome :=
  OnlyOrdinary.mapError (refused_isOrdinary _ _) _

end TextFile

/-- Writing to a disk raises no fault that interrupts the program. -/
theorem Disk.writer_onlyOrdinary (d : Disk) (path content : String) :
    OnlyOrdinary (d.writer path content).outcome := by
  have wrote := TextFile.write_onlyOrdinary d path content
  rw [writer]
  dsimp only
  cases reply : (TextFile.write d path content).outcome with
  | ok d' => exact .ok ()
  | error f => exact .error (wrote f reply)

/-- A diagnostic that cannot be printed is an ordinary fault. -/
theorem Diagnostic.text_onlyOrdinary (d : Diagnostic) : OnlyOrdinary d.text := by
  unfold text
  split
  · cases d.message? with
    | none => exact .error rfl
    | some message => exact .ok message
  · dsimp only
    split
    · exact .ok _
    · exact .error rfl

/-! ### Services -/

/-- No code of the services raises a fault that interrupts the program. -/
structure Services.IsOrdinary (s : Services) : Prop where
  settings : OnlyOrdinary s.settings
  version : OnlyOrdinary s.version
  create : OnlyOrdinary s.create
  generate : ∀ generator file settings, s.create = .ok generator →
    OnlyOrdinary (generator.generate file settings)
  close : ∀ generator, s.create = .ok generator → OnlyOrdinary generator.close

/-- Providing services raises no such fault, and neither does any code of what is provided. -/
structure Services.ProvidedOrdinarily (provided : Except Fault Services) : Prop where
  provider : OnlyOrdinary provided
  services : ∀ s, provided = .ok s → s.IsOrdinary

/-- A thing that is called never gives services. -/
theorem Modules.services_of_thing (t : Thing) :
    Services.ProvidedOrdinarily (Factory.thing t).services where
  provider := (Thing.call_onlyOrdinary t {}).bind fun _ _ => .error rfl
  services := by
    intro s provided
    obtain ⟨_, -, wrong⟩ := Outcome.bind_eq_ok.mp provided
    cases wrong

namespace CommandLine

/-! ### Notices -/

theorem markupError_isOrdinary (e : Console.MarkupError) :
    e.fault.isOrdinary = true := by
  cases e <;> rfl

/-- Telling of a notice raises no fault that interrupts the program. -/
theorem noticeLine_onlyOrdinary (notice : Notice) : OnlyOrdinary (noticeLine notice) := by
  unfold noticeLine
  dsimp only
  split
  · next d => exact d.text_onlyOrdinary.bind fun _ _ => .mapError markupError_isOrdinary _
  · split
    · exact OnlyOrdinary.mapError markupError_isOrdinary _
    · exact .error rfl

/-- The printing handlers raise no fault that interrupts the program. -/
theorem printing_isOrdinary : printing.IsOrdinary := by
  intro handler notice f raised
  have line := noticeLine_onlyOrdinary notice
  unfold printing at raised
  cases shown : noticeLine notice with
  | ok text =>
    rw [shown] at raised
    cases raised
  | error g =>
    rw [shown] at raised
    cases List.mem_singleton.mp raised
    exact line f shown

/-! ### The generation -/

variable {w : World} {level : Severity} {g : GenerateArguments} {setup : ProjectSetup}
  {services : Except Fault Services}

def World.OffersOrdinary (w : World) (named : SwitchValue) : Prop :=
  ∀ path provided, named = .text path → w.modules.factory path = .ok (.provider provided) →
    Services.ProvidedOrdinarily provided

/-- Services that were found are provided ordinarily, if the modules offer ordinary ones. -/
theorem findServices_ordinary (offers : w.OffersOrdinary g.services)
    (found : findServices w g.services = .ok services) : Services.ProvidedOrdinarily services := by
  cases named : g.services with
  | emptyList =>
    rw [named] at found
    cases found
  | text path =>
    rw [named] at found
    obtain ⟨factory, leads, result⟩ := Outcome.bind_eq_ok.mp found
    cases result
    cases factory with
    | provider provided => exact offers path provided named leads
    | thing t => exact Modules.services_of_thing t

theorem request_writer_onlyOrdinary (path content : String) :
    OnlyOrdinary ((request w g services).writer path content).outcome := by
  unfold request
  split
  · exact .error rfl
  · exact w.disk.writer_onlyOrdinary path content

theorem request_provider : (request w g services).provider = services := by
  unfold request
  split <;> rfl

theorem request_reader : (request w g services).reader = w.disk.reader := by
  unfold request
  split <;> rfl

/-- Where the services are ordinary, all of the generation is. -/
theorem prepare_isOrdinary (offers : w.OffersOrdinary g.services)
    (prepared : prepare w level g = .ok (setup, services)) :
    setup.IsOrdinary (request w g services) := by
  obtain ⟨referenced?, config, -, -, found, rfl⟩ := prepare_eq_ok.mp prepared
  obtain ⟨provider, ordinary⟩ := findServices_ordinary offers found
  have provides : ∀ s, (request w g services).provider = .ok s → s.IsOrdinary := fun s given =>
    ordinary s (request_provider.symm.trans given)
  exact {
    provider := request_provider ▸ provider
    settings := fun s given => (provides s given).settings
    version := fun s given => (provides s given).version
    create := fun s given => (provides s given).create
    generate := fun s generator file given => (provides s given).generate generator file {}
    close := fun s generator given => (provides s given).close generator
    reader := request_reader ▸ TextFile.read_onlyOrdinary _ _
    writer := request_writer_onlyOrdinary
    templates := Templates.builtin_onlyOrdinary
    statements := fun _ _ => ProjectSetup.bundled_statement_onlyOrdinary
    handlers := printing_isOrdinary }

end CommandLine

end CodeBehind
