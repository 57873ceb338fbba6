import CodeBehind.Proofs.Disk.Place
import CodeBehind.Proofs.Generation.Handing

/-!
What a generation on a disk reads.

The text that a generator gets is what the reader makes of the input file, whatever else there is to
the run (`contents_congr`). So byte order marks and the style of line ends do not come through to it
(`TextFile.read_written`).

The reader takes the input from the directory that relative paths start from, and the path that the
generator gets with the text is the way from the project's folder. Where these are two places, path
and text belong together only if the same text lies at both (`run_reads_elsewhere`).
-/

namespace CodeBehind

namespace ProjectSetup

variable {p : ProjectSetup} {q q' : Request} {t : Target} {source : String}

/-- A provider gives the same services to any request that has it. -/
theorem Located.of_provider (h : p.Located q t) (provider : q'.provider = q.provider) :
    ∃ t', p.Located q' t' ∧ t'.services = t.services :=
  ⟨{ t with output := q'.output?.getD (q'.input ++ t.renderer.fileExtension) },
    ⟨provider.trans h.services, h.settings, h.renderer, rfl⟩, rfl⟩

/-- The generator gets the text that was read. -/
theorem contents_of_created {generator : TestGenerator} (located : p.Located q t)
    (fits : p.Fits t.services) (reads : (q.reader q.input).outcome = .ok source)
    (created : t.services.create = .ok generator) (channel : Channel) :
    (Journal.handed (p.run channel q).journal).map (·.content) = [source] := by
  rw [handed_of_created located fits reads created, featureFile_eq, List.map_singleton]

/-- What a generator reads depends on the provider and on what the reader makes of the input. -/
theorem contents_congr (q q' : Request) (provider : q'.provider = q.provider)
    (reads : (q'.reader q'.input).outcome = (q.reader q.input).outcome)
    (channel channel' : Channel) :
    (Journal.handed (p.run channel' q').journal).map (·.content) =
      (Journal.handed (p.run channel q).journal).map (·.content) := by
  by_cases reached : ∃ t source, p.Located q t ∧ p.Fits t.services ∧
      (q.reader q.input).outcome = .ok source
  · obtain ⟨t, source, located, fits, read⟩ := reached
    obtain ⟨t', located', services⟩ := located.of_provider provider
    have fits' : p.Fits t'.services := services ▸ fits
    have read' := reads.trans read
    cases created : t.services.create with
    | ok generator =>
      have created' : t'.services.create = .ok generator := services ▸ created
      rw [contents_of_created located fits read created,
        contents_of_created located' fits' read' created']
    | error f =>
      have failed : t'.services.create = .error f := services ▸ created
      rw [handed_of_not_created located fits read created,
        handed_of_not_created located' fits' read' failed]
  · have reached' : ¬ ∃ t source, p.Located q' t ∧ p.Fits t.services ∧
        (q'.reader q'.input).outcome = .ok source := by
      rintro ⟨t', source, located', fits', read'⟩
      obtain ⟨t, located, services⟩ := located'.of_provider provider.symm
      exact reached ⟨t, source, located, services ▸ fits', reads.symm.trans read'⟩
    rw [Journal.handed_eq_nil (not_isGeneratorCall_of_unreached reached channel),
      Journal.handed_eq_nil (not_isGeneratorCall_of_unreached reached' channel')]

end ProjectSetup

/-! ### What comes through -/

/-- What is written is read without one byte order mark in front and with line feeds for line ends.
So it is read as it is exactly if it has neither a mark in front nor a carriage return, and a
generator gets the same of any two files that have the same lines behind their marks. -/
theorem TextFile.read_written {d d' : Disk} {path content : String}
    (written : (write d path content).outcome = .ok d') :
    HoldsText d' path content ∧
      (read d' path).outcome = .ok (String.ofList (Text.replace ['\r'] ['\n']
        (Text.replace ['\r', '\n'] ['\n'] (Text.Utf8.withoutMark content.toList)))) ∧
      ((read d' path).outcome = .ok content ↔
        '\r' ∉ content.toList ∧ content.toList.head? ≠ some '\uFEFF') ∧
      ∀ (p : ProjectSetup) (provider : Except Fault Services) (channel₁ channel₂ : Channel)
        (d₁ d₂ : Disk) (input₁ input₂ : String) (output₁? output₂? : Option String)
        (trace₁ trace₂ : List String) (a b : String),
        HoldsText d₁ input₁ a → HoldsText d₂ input₂ b →
        Text.SameButEnds (Text.Utf8.withoutMark a.toList) (Text.Utf8.withoutMark b.toList) →
        (Journal.handed
            (p.run channel₁ (.onDisk d₁ input₁ output₁? provider trace₁)).journal).map (·.content) =
          (Journal.handed
            (p.run channel₂ (.onDisk d₂ input₂ output₂? provider trace₂)).journal).map
            (·.content) := by
  have held := holdsText_of_write written
  have back := read_of_holdsText held
  refine ⟨held, ?_, ?_, ?_⟩
  · rw [back, asRead, Text.unifyBreaks_eq_replace]
  · rw [back, ← asRead_eq_self_iff]
    exact ⟨Except.ok.inj, congrArg _⟩
  · intro p provider channel₁ channel₂ d₁ d₂ input₁ input₂ _ _ _ _ a b held₁ held₂ same
    have reads : (d₁.reader input₁).outcome = (d₂.reader input₂).outcome := by
      rw [Disk.reader, read_of_holdsText held₁, asRead_eq_iff.mpr same, ← read_of_holdsText held₂,
        Disk.reader]
    exact ProjectSetup.contents_congr (.onDisk d₂ input₂ _ provider _)
      (.onDisk d₁ input₁ _ provider _) rfl reads channel₂ channel₁

namespace TextFile

def loginLines : List (List Char) :=
  ["Feature: Login".toList, [], "Scenario: Out".toList, []]

def markedText : String :=
  String.ofList ('\uFEFF' :: Text.LineEnd.returnFeed.chars.intercalate loginLines)

def bareText : String :=
  String.ofList (Text.LineEnd.bareReturn.chars.intercalate loginLines)

def loginDisk (text : String) : Disk where
  home := ["work"]
  files := [⟨["work", "Login.feature"], text.toUTF8.data.toList⟩]

def loginContents (text : String) : List String :=
  (Journal.handed (ProjectSetup.detourProject.run {} (.onDisk (loginDisk text) "Login.feature" none
    (.ok ProjectSetup.detourServices) [])).journal).map (·.content)

/-- A mark is passed over, and both files come to the generator as the same lines. -/
theorem read_written_marked :
    (write { home := ["work"] } "Login.feature" markedText).outcome = .ok (loginDisk markedText) ∧
      (read (loginDisk markedText) "Login.feature").outcome =
        .ok "Feature: Login\n\nScenario: Out\n" ∧
      loginContents markedText = loginContents bareText ∧
      loginContents bareText = ["Feature: Login\n\nScenario: Out\n"] := by
  have written : (write { home := ["work"] } "Login.feature" markedText).outcome =
      .ok (loginDisk markedText) := by decide +kernel
  have bare : HoldsText (loginDisk bareText) "Login.feature" bareText := by decide +kernel
  have same : Text.SameButEnds (Text.Utf8.withoutMark markedText.toList)
      (Text.Utf8.withoutMark bareText.toList) := by
    rw [markedText, bareText, String.toList_ofList, String.toList_ofList]
    exact Text.sameButEnds_intercalate .returnFeed .bareReturn (by decide)
  obtain ⟨marked, reads, -, same_contents⟩ := read_written written
  refine ⟨written, reads.trans (by decide +kernel), ?_, by decide +kernel⟩
  exact same_contents _ _ _ _ _ _ _ _ _ _ _ _ _ _ marked bare same

end TextFile

/-! ### Path and text -/

namespace ProjectSetup

section Place

variable {p : ProjectSetup} {t : Target} {d : Disk} {input : String} {output? : Option String}
  {provider : Except Fault Services} {trace : List String}

/-- The text that a generator gets lies where the input leads from the disk's home, and the path
that comes with it names the place where the input leads from the project's folder. So the two
belong together exactly if both places hold the same text, as they do when the input is given in
full and when the project's folder is the disk's home. -/
theorem run_reads_elsewhere (names : d.HasNames)
    (located : p.Located (.onDisk d input output? provider trace) t) {channel : Channel}
    {file : FeatureFile}
    (handed : file ∈
      Journal.handed (p.run channel (.onDisk d input output? provider trace)).journal) :
    d.text? (Path.place d.homePath input) = some file.content ∧
      Path.place (Path.absolute d.homePath t.settings.folder) file.path =
        Path.place (Path.absolute d.homePath t.settings.folder) input ∧
      (d.text? (Path.place (Path.absolute d.homePath t.settings.folder) file.path) =
          some file.content ↔
        d.text? (Path.place (Path.absolute d.homePath t.settings.folder) input) =
          d.text? (Path.place d.homePath input)) ∧
      (Path.isAbsolute input = true ∨
          Path.components (Path.absolute d.homePath t.settings.folder) = d.home →
        d.text? (Path.place (Path.absolute d.homePath t.settings.folder) file.path) =
          some file.content) := by
  obtain ⟨t', source, located', reads, rfl⟩ := exists_of_mem_handed handed
  have same_folder : (Request.onDisk d input output? provider trace).folder t' =
      Path.absolute d.homePath t.settings.folder := by
    rw [Request.folder, located'.settings_eq located rfl]
    rfl
  rw [featureFile_eq, same_folder, Request.onDisk]
  dsimp only
  have rooted : Path.isAbsolute d.homePath = true := Disk.isAbsolute_homePath names
  have absolute : Path.isAbsolute (Path.absolute d.homePath t.settings.folder) = true :=
    Path.isAbsolute_absolute rooted _
  have folderNames : ∀ c ∈ Path.components (Path.absolute d.homePath t.settings.folder),
      Path.IsName c := fun _ => Path.isName_of_mem_absolute rooted
  generalize Path.absolute d.homePath t.settings.folder = folder at *
  have read : d.text? (Path.place d.homePath input) = some source := Disk.text?_of_read names reads
  have named : Path.place folder (Path.wayTo folder input) = Path.place folder input :=
    Path.place_wayTo folderNames absolute input
  refine ⟨read, named, ?_, ?_⟩
  · rw [named, read]
  · intro meets
    have same_place : Path.place folder input = Path.place d.homePath input := by
      rcases meets with absoluteInput | home
      · exact Path.place_of_isAbsolute absoluteInput
      · refine Path.place_congr (fun c hc => ?_) rooted absolute ?_ input
        · exact names c (Disk.components_homePath names ▸ hc)
        · rw [home, Disk.components_homePath names]
    exact (congrArg d.text? (named.trans same_place)).trans read

end Place

/-! ### Two feature files of one name -/

def shopDisk : Disk where
  home := ["work"]
  files := [⟨["work", "Login.feature"], "Feature: outer\n".toUTF8.data.toList⟩,
    ⟨["work", "shop", "Login.feature"], "Feature: inner\n".toUTF8.data.toList⟩]

def shopServices : Services where
  settings := .ok { folder := "shop", language? := some "csharp" }
  version := .ok (some ⟨3, 9, 1⟩)
  create := .ok { generate := fun _ _ => .ok none, close := .ok () }

def shopRequest : Request :=
  .onDisk shopDisk "Login.feature" none (.ok shopServices) []

def shopTarget : Target where
  services := shopServices
  settings := { folder := "shop", language? := some "csharp" }
  renderer := Language.csharp
  output := "Login.feature.cs"

/-- What the generator gets: the path of the inner file with the text of the outer one. -/
def shopFile : FeatureFile :=
  ⟨"Login.feature", "Feature: outer\n"⟩

theorem shopDisk_hasNames : shopDisk.HasNames := by
  intro name mem
  cases List.mem_singleton.mp mem
  exact ⟨⟨by decide, by decide, by decide⟩, by decide⟩

theorem shopTarget_located : detourProject.Located shopRequest shopTarget :=
  ⟨rfl, rfl, rfl, rfl⟩

/-- The generator gets the path of the inner file with the text of the outer one. -/
theorem shopFile_handed : shopFile ∈ Journal.handed (detourProject.run {} shopRequest).journal := by
  decide +kernel

/-- The file at the path that the generator gets, seen from the project's folder, is another one
than the file whose text it gets. -/
theorem run_reads_elsewhere_outer :
    shopDisk.text? (Path.place "/work" "Login.feature") = some shopFile.content ∧
      shopDisk.text? (Path.place "/work/shop" shopFile.path) = some "Feature: inner\n" ∧
      shopDisk.text? (Path.place "/work/shop" shopFile.path) ≠ some shopFile.content := by
  obtain ⟨read, -, belongs, -⟩ :=
    run_reads_elsewhere shopDisk_hasNames shopTarget_located shopFile_handed
  have home : shopDisk.homePath = "/work" := by decide +kernel
  have folder : Path.absolute shopDisk.homePath shopTarget.settings.folder = "/work/shop" := by
    decide +kernel
  rw [folder, home] at belongs
  rw [home] at read
  refine ⟨read, by decide +kernel, fun same => ?_⟩
  exact absurd (belongs.mp same) (by decide +kernel)

/-- The text that a generator gets does not always belong to the path that it gets. -/
theorem not_forall_belongs :
    ¬ ∀ (p : ProjectSetup) (channel : Channel) (d : Disk) (input : String)
      (output? : Option String) (provider : Except Fault Services) (trace : List String)
      (t : Target) (file : FeatureFile), d.HasNames →
      p.Located (.onDisk d input output? provider trace) t →
      file ∈ Journal.handed (p.run channel (.onDisk d input output? provider trace)).journal →
      d.text? (Path.place (Path.absolute d.homePath t.settings.folder) file.path) =
        some file.content := by
  intro belongs
  have same := belongs detourProject {} shopDisk "Login.feature" none (.ok shopServices) []
    shopTarget shopFile shopDisk_hasNames shopTarget_located shopFile_handed
  revert same
  decide +kernel

end ProjectSetup

end CodeBehind
