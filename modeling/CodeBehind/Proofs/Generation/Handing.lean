import CodeBehind.Proofs.Generation.Closing
import CodeBehind.Proofs.Path.Way

/-!
What a generator is handed.

A generator gets one feature file (`handed_of_created`), and none is handed out without a target, a
text that was read and a generator (`exists_of_mem_handed`). Its path is a way from the project's
folder: joined to the folder it denotes what the input path denotes there, and it goes up only where
it must (`run_hands_way`).
-/

namespace CodeBehind

def Step.file? : Step → Option FeatureFile
  | .call (.generate file _) _ => some file
  | _ => none

theorem Step.file?_eq_none {s : Step} (h : ¬ s.IsGeneratorCall) : s.file? = none := by
  cases s with
  | call c fault? =>
    cases c with
    | generate file settings => exact absurd (.generate file settings fault?) h
    | _ => rfl
  | _ => rfl

abbrev Journal.handed (journal : List Step) : List FeatureFile :=
  journal.filterMap Step.file?

theorem Journal.handed_eq_nil {journal : List Step} (h : ∀ s ∈ journal, ¬ s.IsGeneratorCall) :
    handed journal = [] :=
  filterMap_eq_nil (fun _ => Step.file?_eq_none) h

def Request.folder (q : Request) (t : Target) : String :=
  Path.absolute q.directory t.settings.folder

namespace ProjectSetup

variable {p : ProjectSetup} {q : Request} {t : Target} {source : String} {generator : TestGenerator}

/-- What a generator gets it gets between the approach to it and what follows its outcome. -/
theorem handed_eq {rest : Run} {steps : List Step} {channel : Channel}
    {code : Except Fault GenerationResult} (rest_eq : rest = p.finish q t channel code) :
    Journal.handed (rest.after (p.approach q ++ steps)).journal = Journal.handed steps := by
  have before := Journal.handed_eq_nil (approach_not_isGeneratorCall (p := p) (q := q))
  have later := Journal.handed_eq_nil (finish_not_isGeneratorCall (p := p) (q := q) t channel code)
  rw [Journal.handed] at before later
  rw [Run.after, rest_eq, Journal.handed, List.filterMap_append, List.filterMap_append, before,
    later, List.append_nil, List.nil_append]

/-- A generator that is created gets the one feature file. -/
theorem handed_of_created (located : p.Located q t) (fits : p.Fits t.services)
    (reads : (q.reader q.input).outcome = .ok source)
    (created : t.services.create = .ok generator) (channel : Channel) :
    Journal.handed (p.run channel q).journal =
      [featureFile q.directory t.settings.folder q.input source] := by
  rw [run_of_created located fits reads created, handed_eq rfl]
  rfl

/-- A generator that is not created gets nothing. -/
theorem handed_of_not_created {f : Fault} (located : p.Located q t) (fits : p.Fits t.services)
    (reads : (q.reader q.input).outcome = .ok source) (failed : t.services.create = .error f)
    (channel : Channel) : Journal.handed (p.run channel q).journal = [] := by
  rw [run_of_reads p q located fits reads, generate_eq_finish,
    generateCode_of_not_created q t failed, Run.after_after, handed_eq rfl]
  rfl

/-- The same services tell the same settings. -/
theorem Located.settings_eq {p' : ProjectSetup} {q' : Request} {t' : Target}
    (h' : p'.Located q' t') (h : p.Located q t) (provider : q'.provider = q.provider) :
    t'.settings = t.settings := by
  have services : t'.services = t.services :=
    Except.ok.inj (h'.services.symm.trans (provider.trans h.services))
  exact Except.ok.inj (h'.settings.symm.trans (services ▸ h.settings))

/-- Whatever a generator gets is the feature file of the run. -/
theorem exists_of_mem_handed {channel : Channel} {file : FeatureFile}
    (h : file ∈ Journal.handed (p.run channel q).journal) :
    ∃ t source, p.Located q t ∧ (q.reader q.input).outcome = .ok source ∧
      file = featureFile q.directory t.settings.folder q.input source := by
  by_cases reached : ∃ t source, p.Located q t ∧ p.Fits t.services ∧
      (q.reader q.input).outcome = .ok source
  · obtain ⟨t, source, located, fits, reads⟩ := reached
    refine ⟨t, source, located, reads, ?_⟩
    cases created : t.services.create with
    | ok generator =>
      rw [handed_of_created located fits reads created] at h
      exact List.mem_singleton.mp h
    | error f =>
      rw [handed_of_not_created located fits reads created] at h
      cases h
  · rw [Journal.handed_eq_nil (not_isGeneratorCall_of_unreached reached channel)] at h
    cases h

/-! ### The path of the file -/

/-- A generator gets the way from the project's folder to the input. -/
theorem featureFile_eq (source : String) :
    featureFile q.directory t.settings.folder q.input source =
      ⟨Path.wayTo (q.folder t) q.input, source⟩ := by
  rw [featureFile, Path.wayTo, Request.folder]

/-- A generator that is created gets a file whose path leads from the project's folder to the input,
and it is the same path when the input is given in full. -/
theorem run_hands_way (located : p.Located q t) (fits : p.Fits t.services)
    (reads : (q.reader q.input).outcome = .ok source)
    (created : t.services.create = .ok generator)
    (rooted : Path.isAbsolute q.directory = true)
    (folder_root : Path.root (Path.join q.directory t.settings.folder) ≠ "//")
    (input_root : Path.root (Path.join (q.folder t) q.input) ≠ "//") (channel : Channel) :
    ∃ way, Journal.handed (p.run channel q).journal = [⟨way, source⟩] ∧
      Path.Leads (q.folder t) q.input way ∧
      ∀ (p' : ProjectSetup) (channel' : Channel) (q' : Request), q'.provider = q.provider →
        q'.directory = q.directory → q'.input = Path.join (q.folder t) q.input →
        ∀ file ∈ Journal.handed (p'.run channel' q').journal, file.path = way := by
  have absolute : Path.isAbsolute (q.folder t) = true := Path.isAbsolute_absolute rooted _
  have root_folder : Path.root (q.folder t) = "/" := by
    refine Path.root_of_isAbsolute absolute ?_
    rwa [Request.folder, Path.absolute_eq, Path.root_normalize]
  have root_input := Path.root_of_isAbsolute (Path.isAbsolute_join absolute) input_root
  refine ⟨Path.wayTo (q.folder t) q.input, ?_, ?_, ?_⟩
  · rw [handed_of_created located fits reads created, featureFile_eq]
  · exact Path.leads_wayTo (fun _ => Path.isName_of_mem_absolute rooted) absolute
      (root_input.trans root_folder.symm)
  · intro p' channel' q' provider directory input file mem
    obtain ⟨t', source', located', -, rfl⟩ := exists_of_mem_handed mem
    have same : q'.folder t' = q.folder t := by
      rw [Request.folder, located'.settings_eq located provider, directory, Request.folder]
    rw [featureFile_eq, same, input, Path.wayTo_join absolute]

/-! ### A detour -/

def detourServices : Services where
  settings := .ok { folder := "work/./shop/", language? := some "CS" }
  version := .ok (some ⟨3, 9, 1⟩)
  create := .ok { generate := fun _ _ => .ok none, close := .ok () }

/-- An input beside the project's folder, with more steps than it needs. -/
def detourRequest : Request where
  input := "..//features/./old/../Login.feature"
  provider := .ok detourServices
  reader := fun _ => { outcome := .ok "Feature: Login" }
  writer := fun _ _ => { outcome := .ok () }
  directory := "/home"

def detourProject : ProjectSetup where
  project := { name := "Bookshop", referenced? := some ⟨3, 9, 0⟩ }
  behaviour := fun _ _ => []

def detourTarget : Target where
  services := detourServices
  settings := { folder := "work/./shop/", language? := some "CS" }
  renderer := Language.csharp
  output := "..//features/./old/../Login.feature.cs"

/-- A detour on the input's path is left out of the way, which begins by going up. -/
theorem run_hands_way_detour :
    Journal.handed (detourProject.run {} detourRequest).journal =
        [⟨"../features/Login.feature", "Feature: Login"⟩] ∧
      Path.Leads "/home/work/shop" detourRequest.input "../features/Login.feature" := by
  have located : detourProject.Located detourRequest detourTarget := ⟨rfl, rfl, rfl, rfl⟩
  have fits : detourProject.Fits detourTarget.services := ⟨_, _, rfl, rfl, by decide⟩
  have folder : detourRequest.folder detourTarget = "/home/work/shop" := by decide +kernel
  have handed : Journal.handed (detourProject.run {} detourRequest).journal =
      [⟨"../features/Login.feature", "Feature: Login"⟩] := by decide +kernel
  obtain ⟨way, handed', leads, -⟩ := run_hands_way located fits rfl rfl (by decide)
    (by decide +kernel) (by decide +kernel) {}
  cases handed.symm.trans handed'
  exact ⟨handed, folder ▸ leads⟩

end ProjectSetup

end CodeBehind
