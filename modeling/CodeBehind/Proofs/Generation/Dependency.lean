import CodeBehind.Proofs.Generation.Announcement
import CodeBehind.Proofs.Generation.Content
import CodeBehind.Proofs.Language.Rendering
import CodeBehind.Proofs.Language.Statement
import CodeBehind.Proofs.Template.Form
import CodeBehind.Proofs.Text.Digits
import Mathlib.Algebra.Ring.Int.Defs

/-!
The messages about a dependency.

The two templates that are always there are forms (`source_noReferenceForm`,
`source_versionConflictForm`), so their messages are fixed texts with the names and versions in
their places (`noReferenceMessage_eq`, `versionConflictMessage_eq`). A run whose gate is shut writes
the statements of its message, whatever the names hold; only a version that cannot be shown leaves
nothing to write (`run_writes_dependency`).
-/

namespace CodeBehind

namespace Templates

open Template (Slot Form)

/-! ### The templates as forms -/

def projectName : Slot :=
  .name "project_name" (by decide +kernel)

def frameworkName : Slot :=
  .name "framework_name" (by decide +kernel)

def frameworkPackage : Slot :=
  .name "framework_package" (by decide +kernel)

def documentationUrl : Slot :=
  .name "documentation_url" (by decide +kernel)

def generatorRelease : Slot :=
  .release "generator_version" (by decide +kernel)

def referencedRelease : Slot :=
  .release "referenced_version" (by decide +kernel)

def noReferenceForm : Form := [
  ⟨"Could not find a reference to ", frameworkName, by decide +kernel⟩,
  ⟨" in project '", projectName, by decide +kernel⟩,
  ⟨"'.\nPlease add the '", frameworkPackage, by decide +kernel⟩,
  ⟨"' package to the project and use MSBuild generation instead of using ", frameworkName,
    by decide +kernel⟩,
  ⟨"SingleFileGenerator.\nFor more information see ", documentationUrl, by decide +kernel⟩]

def versionConflictForm : Form := [
  ⟨"Version conflict - ", frameworkName, by decide +kernel⟩,
  ⟨" Visual Studio extension attempted to use ", frameworkName, by decide +kernel⟩,
  ⟨" code-behind generator ", generatorRelease, by decide +kernel⟩,
  ⟨", but project '", projectName, by decide +kernel⟩,
  ⟨"' references ", frameworkName, by decide +kernel⟩,
  ⟨" ", referencedRelease, by decide +kernel⟩,
  ⟨".\nWe recommend migrating to MSBuild code-behind generation to resolve this issue.\n" ++
    "For more information see ", documentationUrl, by decide +kernel⟩]

/-- The form is the source of the message about a missing reference. -/
theorem source_noReferenceForm : noReferenceForm.source = noReferenceSource := by
  decide +kernel

/-- The form is the source of the message about versions that do not fit. -/
theorem source_versionConflictForm : versionConflictForm.source = versionConflictSource := by
  decide +kernel

theorem get?_noReference : Assoc.get? builtin noReference = some noReferenceForm.source := by
  have apart : versionConflict ≠ noReference := by decide
  rw [builtin, Assoc.get?, if_neg apart, Assoc.get?, if_pos rfl, source_noReferenceForm]

theorem get?_versionConflict :
    Assoc.get? builtin versionConflict = some versionConflictForm.source := by
  rw [builtin, Assoc.get?, if_pos rfl, source_versionConflictForm]

end Templates

/-! ### The messages -/

def Version.release (v : Version) : String :=
  Value.intText v.major ++ "." ++ Value.intText v.minor

/-- A release can be shown if both of its numbers can be. -/
theorem Version.shortText_two (v : Version) :
    v.shortText 2 = if v.isWritable 2 then .ok v.release else .error .tooLong := by
  rfl

def noReferenceText (framework package project url : String) : String :=
  "Could not find a reference to " ++ framework ++ " in project '" ++ project ++
    "'.\nPlease add the '" ++ package ++
    "' package to the project and use MSBuild generation instead of using " ++ framework ++
    "SingleFileGenerator.\nFor more information see " ++ url

def versionConflictText (framework project url : String) (actual declared : Version) : String :=
  "Version conflict - " ++ framework ++ " Visual Studio extension attempted to use " ++ framework ++
    " code-behind generator " ++ actual.release ++ ", but project '" ++ project ++
    "' references " ++ framework ++ " " ++ declared.release ++
    ".\nWe recommend migrating to MSBuild code-behind generation to resolve this issue.\n" ++
    "For more information see " ++ url

namespace Templates

open Template.Form (fill?_cons)

variable (framework package project url : String) (actual declared : Version)

def nameContext : Context := [
  ("project_name", .value (.text project)),
  ("framework_name", .value (.text framework)),
  ("framework_package", .value (.text package)),
  ("documentation_url", .value (.text url))]

def versionContext : Context :=
  [("generator_version", .version actual), ("referenced_version", .version declared)]

/-- The names are shown as they are. -/
theorem shown_names (more : Context) :
    let context := nameContext framework package project url ++ more
    projectName.shown? context = some (.ok project) ∧
      frameworkName.shown? context = some (.ok framework) ∧
      frameworkPackage.shown? context = some (.ok package) ∧
      documentationUrl.shown? context = some (.ok url) :=
  ⟨rfl, rfl, rfl, rfl⟩

theorem shown_generatorRelease :
    generatorRelease.shown?
        (nameContext framework package project url ++ versionContext actual declared) =
      some ((actual.shortText 2).mapError VersionError.fault) :=
  rfl

theorem shown_referencedRelease :
    referencedRelease.shown?
        (nameContext framework package project url ++ versionContext actual declared) =
      some ((declared.shortText 2).mapError VersionError.fault) :=
  rfl

/-- The message about a missing reference shows four names. -/
theorem fill?_noReferenceForm :
    noReferenceForm.fill? (nameContext framework package project url) =
      some (.ok (noReferenceText framework package project url)) := by
  obtain ⟨hproject, hframework, hpackage, hurl⟩ := shown_names framework package project url []
  rw [List.append_nil] at hproject hframework hpackage hurl
  have filled : noReferenceForm.fill? (nameContext framework package project url) = some _ :=
    fill?_cons hframework <|
      fill?_cons hproject <|
      fill?_cons hpackage <|
      fill?_cons hframework <|
      fill?_cons hurl rfl
  rw [filled]
  unfold noReferenceText
  simp only [bind, Except.bind, Except.map, String.append_assoc, String.append_empty]

/-- The message shows two releases, and there is none if one of them cannot be shown. -/
theorem fill?_versionConflictForm :
    versionConflictForm.fill?
        (nameContext framework package project url ++ versionContext actual declared) =
      some (if actual.isWritable 2 ∧ declared.isWritable 2 then
          .ok (versionConflictText framework project url actual declared)
        else .error VersionError.tooLong.fault) := by
  obtain ⟨hproject, hframework, -, hurl⟩ :=
    shown_names framework package project url (versionContext actual declared)
  have hactual := shown_generatorRelease framework package project url actual declared
  have hdeclared := shown_referencedRelease framework package project url actual declared
  have filled : versionConflictForm.fill?
      (nameContext framework package project url ++ versionContext actual declared) = some _ :=
    fill?_cons hframework <|
      fill?_cons hframework <|
      fill?_cons hactual <|
      fill?_cons hproject <|
      fill?_cons hframework <|
      fill?_cons hdeclared <|
      fill?_cons hurl rfl
  rw [filled, Version.shortText_two, Version.shortText_two]
  by_cases shows : actual.isWritable 2
  · by_cases shows' : declared.isWritable 2
    · rw [if_pos shows, if_pos shows', if_pos ⟨shows, shows'⟩]
      unfold versionConflictText
      simp only [bind, Except.bind, Except.map, Except.mapError, String.append_assoc,
        String.append_empty]
    · rw [if_pos shows, if_neg shows', if_neg (mt And.right shows')]
      rfl
  · rw [if_neg shows, if_neg (mt And.left shows)]
    rfl

end Templates

/-- The names that a configuration puts into dependency messages are texts. -/
structure Config.Names (c : Config) (framework package url : String) : Prop where
  framework : c.frameworkName = .text framework
  package : c.frameworkPackage = .text package
  url : c.documentationUrl = .text url

namespace ProjectSetup

variable {p : ProjectSetup} {q : Request} {framework package url : String}

section Messages

variable (builtin : p.templates = Templates.builtin) (names : p.config.Names framework package url)

include names in
/-- The names of both messages are those of the configuration and of the project. -/
theorem messageContext_eq :
    p.messageContext = Templates.nameContext framework package p.project.name url := by
  rw [messageContext, names.framework, names.package, names.url]
  rfl

include builtin in
/-- A template that is a form shows the form with its gaps filled. -/
theorem render_builtin {name : String} {form : Template.Form} {context : Context}
    {text : Except Fault String} (found : Assoc.get? Templates.builtin name = some form.source)
    (foreign : Assoc.has context "self" = false) (filled : form.fill? context = some text) :
    p.templates.render name context = text := by
  rw [builtin]
  exact Templates.render_form found foreign filled

include builtin names

/-- The message about a missing reference is its text with the names as they are. -/
theorem noReferenceMessage_eq :
    p.noReferenceMessage = .ok (noReferenceText framework package p.project.name url) := by
  rw [noReferenceMessage, messageContext_eq names]
  exact render_builtin builtin Templates.get?_noReference rfl
    (Templates.fill?_noReferenceForm framework package p.project.name url)

/-- The message about versions is its text with names and releases as they are, where the releases
can be shown. -/
theorem versionConflictMessage_eq {declared : Version} (actual : Version)
    (hdeclared : p.project.referenced? = some declared) :
    p.versionConflictMessage (some actual) =
      if actual.isWritable 2 ∧ declared.isWritable 2 then
        .ok (versionConflictText framework p.project.name url actual declared)
      else .error VersionError.tooLong.fault := by
  rw [versionConflictMessage, messageContext_eq names, hdeclared]
  exact render_builtin builtin Templates.get?_versionConflict rfl
    (Templates.fill?_versionConflictForm framework package p.project.name url actual declared)

end Messages

/-! ### What is logged -/

/-- What is logged of a missing reference can always be shown. -/
theorem noReferenceWarning_ok (names : p.config.Names framework package url) :
    ∃ text, p.noReferenceWarning = .ok text := by
  rw [noReferenceWarning, names.framework]
  exact ⟨_, rfl⟩

/-- The warning shows both versions whole. -/
theorem versionConflictWarning_ok {actual declared : Version} (shows : actual.isWritable 3)
    (shows' : declared.isWritable 3) :
    ∃ text, p.versionConflictWarning (some actual) (some declared) = .ok text := by
  have shown : ∀ v : Version, v.isWritable 3 → (versionThing (some v)).shown = .ok (v.digits 3) :=
    fun v writable => if_pos writable
  rw [versionConflictWarning, shown actual shows, shown declared shows']
  exact ⟨_, rfl⟩

/-- What is logged of a conflict cannot be shown where one of the two versions cannot. -/
theorem versionConflictWarning_error {actual declared : Version}
    (unshown : ¬ (actual.isWritable 3 ∧ declared.isWritable 3)) :
    p.versionConflictWarning (some actual) (some declared) = .error Value.tooLong := by
  have shown : ∀ v : Version, (versionThing (some v)).shown =
      if v.isWritable 3 then .ok (v.digits 3) else .error Value.tooLong := fun v => rfl
  rw [versionConflictWarning, shown, shown]
  by_cases shows : actual.isWritable 3
  · rw [if_pos shows, if_neg fun shows' => unshown ⟨shows, shows'⟩]
    rfl
  · rw [if_neg shows]
    rfl

/-! ### Writing them -/

/-- Unless preparing finds something to generate for, a run writes what preparing writes. -/
theorem writerCalls_run_of_not_ready (channel : Channel)
    (h : ∀ t, (p.prepare q).outcome ≠ .ok (.ready t)) :
    Journal.writerCalls (p.run channel q).journal = Journal.writerCalls (p.prepare q).journal := by
  rw [run, Journal.writerCalls_after]
  cases outcome : (p.prepare q).outcome with
  | error f =>
    have silent : Journal.writerCalls
        (p.giveUp channel ("Could not prepare generation of " ++ q.input) f).journal = [] :=
      p.giveUp_unseen (fun _ hs => hs.writing?_eq_none) rfl channel _
    rw [proceed_of_error outcome, Journal.writerCalls_after, silent, List.append_nil]
    rfl
  | ok prepared =>
    cases prepared with
    | ready t => exact absurd outcome (h t)
    | written path =>
      rw [proceed_of_ok outcome, Journal.writerCalls_after]
      exact List.append_nil _

/-- The one call of the writer is that with the statements of the visible lines of the text, and
the line ending between them. -/
def WritesLines (p : ProjectSetup) (q : Request) (channel : Channel) (r : Renderer)
    (ending text : String) : Prop :=
  ∃ statements, (Renderer.visibleLines text).mapM r.statement = .ok statements ∧
    let output := q.output?.getD (q.input ++ r.fileExtension)
    let content := ending.intercalate statements
    Journal.writerCalls (p.run channel q).journal =
      [(output, content, faultOf? (q.writer output content).outcome)]

/-- A text with something to see between two others has something to see. -/
theorem visibleLines_append_ne_nil {c : Char} {fixed : String} (mem : c ∈ fixed.toList)
    (visible : Text.isBlank c = false) (unbroken : Text.isLineBreak c = false)
    (front rest : String) : Renderer.visibleLines (front ++ fixed ++ rest) ≠ [] := by
  have inside : c ∈ (front ++ fixed ++ rest).toList := by
    rw [String.toList_append, String.toList_append]
    exact List.mem_append_left _ (List.mem_append_right _ mem)
  exact Renderer.visibleLines_ne_nil inside visible unbroken

section Gate

variable {t : Target} (located : p.Located q t) {steps : List Step}
  (inquiry : ∀ s ∈ steps, s.IsInquiry)
include located inquiry

/-- A gate that cannot be passed has nothing written, and its fault is reported. -/
theorem run_of_stuck {f : Fault} (ordinary : f.isOrdinary = true)
    (stuck : p.clear q t = ⟨steps, .error f⟩) (channel : Channel) :
    Journal.writerCalls (p.run channel q).journal = [] ∧
      Journal.reported (p.run channel q).journal = [f] := by
  have asked := isInquiry_of_located inquiry
  have prepare_eq : p.prepare q =
      ⟨[.call .provideServices none, .call .projectSettings none] ++ steps, .error f⟩ := by
    rw [p.prepare_of_located q located, stuck]
    rfl
  constructor
  · rw [writerCalls_run_of_not_ready, prepare_eq]
    · exact Journal.isInquiry_unwriting asked
    · intro t' ready
      rw [prepare_eq] at ready
      cases ready
  · have silent : ∀ record, Journal.reported (.log record ::
        ([.call .provideServices none, .call .projectSettings none] ++ steps)) = [] :=
      fun record => Journal.filterMap_eq_nil (fun _ hs => hs.fault?_eq_none)
        (List.forall_mem_cons.mpr ⟨.log record, asked⟩)
    rw [run, proceed_of_error (congrArg Part.outcome prepare_eq), prepare_eq, Run.after_after]
    exact (Journal.filterMap_append_of_unseen (silent _) _).trans
      (giveUp_reported ordinary channel _)

variable (bundled : t.renderer ∈ Language.bundled) {ending : String}
  (hending : p.config.lineEnding = .text ending)
include bundled hending

/-- A gate that is shut with a message has the message's visible lines written. -/
theorem writesLines_of_clear {warning : Except Fault String}
    (told : p.strictLog → ∃ text, warning = .ok text) {text : String}
    (visible : Renderer.visibleLines text ≠ [])
    (cleared : p.clear q t = (Part.warn p.strictLog warning >>= fun _ =>
      p.writeMessage q t.renderer t.output (.ok text)).after steps) (channel : Channel) :
    p.WritesLines q channel t.renderer ending text := by
  obtain ⟨statements, made⟩ := exists_mapM_eq_ok_iff.mpr fun line _ =>
    Language.exists_statement_of_bundled bundled line
  have rendered : (p.render t.renderer (some text)).outcome =
      .ok (ending.intercalate statements) := by
    rw [render_of_separator (separator_of_text hending), Renderer.renderLines_eq_map,
      Renderer.linesOf_of_visible visible, made]
    rfl
  obtain ⟨records, said⟩ := Part.warn_of_told told
  have later : ∀ s ∈ steps ++ records.map Step.log, s.IsInquiry :=
    List.forall_mem_append.mpr ⟨inquiry, List.forall_mem_map.mpr fun record _ => .log record⟩
  have prepare_eq : p.prepare q = (p.writeMessage q t.renderer t.output (.ok text)).after
      ([.call .provideServices none, .call .projectSettings none] ++
        (steps ++ records.map .log)) := by
    rw [p.prepare_of_located q located, cleared, Part.bind_of_ok (congrArg Part.outcome said), said,
      Part.after_after, Part.after_after, List.append_assoc]
  refine ⟨statements, made, ?_⟩
  rw [← located.output, writerCalls_run_of_not_ready, prepare_eq, Part.journal_after,
    Journal.writerCalls, Journal.filterMap_append_of_unseen
      (Journal.isInquiry_unwriting (isInquiry_of_located later)),
    p.writeMessage_of_rendered q t.output rendered, Part.journal_after, Part.journal_bind_pure]
  · exact Part.writerCalls_askLogged _ _ _
  · intro t'
    rw [prepare_eq]
    exact p.writeMessage_not_ready q

end Gate

/-- A conflict of two versions can be told of: the message shows the first two components of each,
and a strict log takes the warning with all three. -/
structure CanTell (p : ProjectSetup) (actual declared : Version) : Prop where
  releases : actual.isWritable 2 ∧ declared.isWritable 2
  logged : p.strictLog → actual.isWritable 3 ∧ declared.isWritable 3

section Conflict

variable {t : Target} {actual declared : Version}
  (builtin : p.templates = Templates.builtin) (names : p.config.Names framework package url)
  (hdeclared : p.project.referenced? = some declared)
  (hactual : t.services.version = .ok (some actual))
  (differs : ¬ Compatibility.Agrees declared actual)
include builtin names hdeclared hactual differs

/-- A conflict that cannot be told of stops the gate: a strict log refuses the warning, or else
there is no message. -/
theorem clear_of_untold (untold : ¬ p.CanTell actual declared) :
    ∃ steps, (∀ s ∈ steps, s.IsInquiry) ∧ p.clear q t = ⟨steps, .error Value.tooLong⟩ := by
  have asked : ∀ s ∈ [Step.call .generatorVersion none], s.IsInquiry :=
    List.forall_mem_singleton.mpr (.generatorVersion none)
  have cleared := clear_of_differs (t := t) q hdeclared hactual differs
  by_cases told : p.strictLog → actual.isWritable 3 ∧ declared.isWritable 3
  · have unsaid : p.versionConflictMessage (some actual) = .error VersionError.tooLong.fault := by
      rw [versionConflictMessage_eq builtin names actual hdeclared]
      exact if_neg fun releases => untold ⟨releases, told⟩
    obtain ⟨records, said⟩ := Part.warn_of_told fun strict =>
      versionConflictWarning_ok (p := p) (told strict).1 (told strict).2
    have later : ∀ s ∈ [Step.call .generatorVersion none] ++ records.map .log, s.IsInquiry :=
      List.forall_mem_append.mpr ⟨asked, List.forall_mem_map.mpr fun record _ => .log record⟩
    rw [Part.bind_of_ok (congrArg Part.outcome said), said, unsaid, Part.after_after,
      writeMessage_error, Part.after_error] at cleared
    exact ⟨_, later, cleared⟩
  · obtain ⟨strict, unshown⟩ := Classical.not_imp.mp told
    have stopped : Part.warn p.strictLog
        (p.versionConflictWarning (some actual) (some declared)) =
          ⟨[], .error Value.tooLong⟩ := by
      rw [versionConflictWarning_error unshown, strict]
      rfl
    rw [Part.bind_of_error (congrArg Part.outcome stopped), stopped, Part.after_error] at cleared
    exact ⟨_, asked, cleared⟩

end Conflict

/-- Versions that differ in one of their first two components do not agree. -/
theorem not_agrees {declared actual : Version}
    (differ : declared.major ≠ actual.major ∨ declared.minor ≠ actual.minor) :
    ¬ Compatibility.Agrees declared actual := by
  rintro ⟨major, minor⟩
  rcases differ with other | other
  · exact other major.symm
  · exact other minor.symm

/-- Where the built-in templates are in use and the project's language is a bundled one, a missing
reference and a version that differs in one of its first two components have the writer called with
the statements of the fixed text, each of its gaps filled with the name or the release as it is. A
conflict of versions that cannot be told of has nothing written, and the fault of the number that is
too long to be shown is reported. -/
theorem run_writes_dependency {ending : String} {services : Services} {settings : ProjectSettings}
    {r : Renderer} (builtin : p.templates = Templates.builtin)
    (names : p.config.Names framework package url) (hending : p.config.lineEnding = .text ending)
    (provided : q.provider = .ok services) (told : services.settings = .ok settings)
    (resolved : p.registry.get settings.language? = .ok r) (bundled : r ∈ Language.bundled)
    (channel : Channel) :
    (p.project.referenced? = none →
      p.WritesLines q channel r ending
        (noReferenceText framework package p.project.name url)) ∧
    ∀ declared actual, p.project.referenced? = some declared →
      services.version = .ok (some actual) →
      declared.major ≠ actual.major ∨ declared.minor ≠ actual.minor →
      (p.CanTell actual declared →
        p.WritesLines q channel r ending
          (versionConflictText framework p.project.name url actual declared)) ∧
      (¬ p.CanTell actual declared →
        Journal.writerCalls (p.run channel q).journal = [] ∧
        Journal.reported (p.run channel q).journal = [Value.tooLong]) := by
  let t : Target := { services, settings, renderer := r
                      output := q.output?.getD (q.input ++ r.fileExtension) }
  have located : p.Located q t := ⟨provided, told, resolved, rfl⟩
  constructor
  · intro absent
    have letter : 'S' ∈ "SingleFileGenerator.\nFor more information see ".toList := by
      decide +kernel
    have cleared := clear_of_unreferenced (t := t) q absent
    rw [noReferenceMessage_eq builtin names] at cleared
    exact writesLines_of_clear located (List.forall_mem_nil _) bundled hending
      (fun _ => noReferenceWarning_ok names)
      (visibleLines_append_ne_nil letter (by decide) (by decide) _ url) cleared channel
  · intro declared actual hdeclared hactual differ
    have differs := not_agrees differ
    have asked : ∀ s ∈ [Step.call .generatorVersion none], s.IsInquiry :=
      List.forall_mem_singleton.mpr (.generatorVersion none)
    constructor
    · intro tells
      have letter : 'F' ∈ "For more information see ".toList := by decide +kernel
      have cleared := clear_of_differs (t := t) q hdeclared hactual differs
      rw [versionConflictMessage_eq builtin names actual hdeclared,
        if_pos tells.releases] at cleared
      exact writesLines_of_clear located asked bundled hending
        (fun strict => versionConflictWarning_ok (tells.logged strict).1 (tells.logged strict).2)
        (visibleLines_append_ne_nil letter (by decide) (by decide) _ url) cleared channel
    · intro untold
      obtain ⟨steps, inquiry, stuck⟩ :=
        clear_of_untold (t := t) builtin names hdeclared hactual differs untold
      exact run_of_stuck located inquiry rfl stuck channel

/-! ### Names that look like templates -/

/-- A project whose names hold placeholders, statements, comments, quotes and line breaks. -/
def braced (referenced? : Option Version) : ProjectSetup where
  project := { name := "\x7b\x7b framework_name \x7d\x7d\r\n\x7b% raw %\x7d", referenced? }
  config :=
    { Config.standard with
      frameworkName := .text "\x7b# \"Spec\" #\x7d"
      frameworkPackage := .text "Spec\u2028\x7b\x7b 1 / 0 \x7d\x7d"
      documentationUrl := .text "\x7b\x7b"
      lineEnding := .text "\r\n" }
  behaviour := fun _ _ => []

def bracedServices : Services where
  settings := .ok { folder := "/proj", language? := some "VB.NET" }
  version := .ok (some ⟨3, 10, 1⟩)
  create := .error Compatibility.missingVersion

def bracedRequest : Request where
  input := "Login.feature"
  provider := .ok bracedServices
  reader := fun _ => { outcome := .ok "Feature: Login" }
  writer := fun _ _ => { outcome := .ok () }
  directory := "/"

def bracedStatements : List String := [
  "#Error Could not find a reference to \x7b# \"Spec\" #\x7d in project '\x7b\x7b " ++
    "framework_name \x7d\x7d",
  "#Error \x7b% raw %\x7d'.",
  "#Error Please add the 'Spec",
  "#Error \x7b\x7b 1 / 0 \x7d\x7d' package to the project and use MSBuild generation instead " ++
    "of using \x7b# \"Spec\" #\x7dSingleFileGenerator.",
  "#Error For more information see \x7b\x7b"]

/-- Placeholders, comments, quotes and line breaks in names are written as they are. -/
theorem run_writes_braced :
    Journal.writerCalls ((braced none).run {} bracedRequest).journal =
        [("Login.feature.vb", "\r\n".intercalate bracedStatements, none)] ∧
      (braced (some ⟨3, 9, 1⟩)).WritesLines bracedRequest {} Language.visualBasic "\r\n"
        (versionConflictText "\x7b# \"Spec\" #\x7d"
          "\x7b\x7b framework_name \x7d\x7d\r\n\x7b% raw %\x7d" "\x7b\x7b" ⟨3, 10, 1⟩
          ⟨3, 9, 1⟩) := by
  have resolved : ∀ referenced?, (braced referenced?).registry.get (some "VB.NET") =
      .ok Language.visualBasic := fun _ => rfl
  have names : ∀ referenced?, (braced referenced?).config.Names "\x7b# \"Spec\" #\x7d"
      "Spec\u2028\x7b\x7b 1 / 0 \x7d\x7d" "\x7b\x7b" := fun _ => ⟨rfl, rfl, rfl⟩
  have bundled : Language.visualBasic ∈ Language.bundled := .tail _ (.head _)
  have run := fun referenced? => run_writes_dependency (p := braced referenced?)
    (q := bracedRequest) rfl (names referenced?) rfl rfl rfl (resolved referenced?) bundled {}
  constructor
  · obtain ⟨statements, made, calls⟩ := (run none).1 rfl
    have shown : (Renderer.visibleLines (noReferenceText "\x7b# \"Spec\" #\x7d"
        "Spec\u2028\x7b\x7b 1 / 0 \x7d\x7d"
        "\x7b\x7b framework_name \x7d\x7d\r\n\x7b% raw %\x7d" "\x7b\x7b")).mapM
          Language.visualBasic.statement = .ok bracedStatements := by
      unfold noReferenceText
      simp only [Renderer.visibleLines, String.toList_append]
      decide +kernel
    cases made.symm.trans shown
    exact calls
  · exact ((run _).2 ⟨3, 9, 1⟩ ⟨3, 10, 1⟩ rfl rfl (.inr (by decide))).1
      ⟨⟨by decide, by decide⟩, nofun⟩

/-- A project that references a version with more digits than numbers are written with. -/
def overlong : ProjectSetup :=
  braced (some ⟨10 ^ Text.maxDigits, 0, 0⟩)

/-- Its conflict with a generator cannot be told of. -/
theorem overlong_untold : ¬ overlong.CanTell ⟨3, 10, 1⟩ ⟨10 ^ Text.maxDigits, 0, 0⟩ := by
  rintro ⟨⟨-, shows⟩, -⟩
  have first := List.all_eq_true.mp shows (10 ^ Text.maxDigits) (.head _)
  have irrefl : ∀ count, ¬ (10 ^ count : Int).natAbs < 10 ^ count := fun count => by
    simp [Int.natAbs_pow]
  exact irrefl _ (Value.isWritableInt_iff.mp first)

/-- Not every conflict of versions is told of. -/
theorem not_forall_writes_dependency :
    ¬ ∀ (p : ProjectSetup) (q : Request) (services : Services) (settings : ProjectSettings)
      (r : Renderer) (declared actual : Version) (framework package url ending : String),
      p.templates = Templates.builtin → p.config.Names framework package url →
      p.config.lineEnding = .text ending → q.provider = .ok services →
      services.settings = .ok settings → p.registry.get settings.language? = .ok r →
      r ∈ Language.bundled → p.project.referenced? = some declared →
      services.version = .ok (some actual) →
      declared.major ≠ actual.major ∨ declared.minor ≠ actual.minor →
      p.WritesLines q {} r ending
        (versionConflictText framework p.project.name url actual declared) := by
  intro all
  let t : Target := {
    services := bracedServices
    settings := { folder := "/proj", language? := some "VB.NET" }
    renderer := Language.visualBasic
    output := "Login.feature.vb" }
  have resolved : overlong.registry.get (some "VB.NET") = .ok Language.visualBasic := rfl
  have located : overlong.Located bracedRequest t := ⟨rfl, rfl, resolved, rfl⟩
  have names : overlong.config.Names "\x7b# \"Spec\" #\x7d" "Spec\u2028\x7b\x7b 1 / 0 \x7d\x7d"
      "\x7b\x7b" := ⟨rfl, rfl, rfl⟩
  have differ : (10 ^ Text.maxDigits : Int) ≠ 3 ∨ (0 : Int) ≠ 10 := .inr (by decide)
  obtain ⟨steps, inquiry, stuck⟩ := clear_of_untold (p := overlong) (q := bracedRequest) (t := t)
    rfl names rfl rfl (not_agrees differ) overlong_untold
  obtain ⟨unwritten, -⟩ := run_of_stuck located inquiry rfl stuck {}
  obtain ⟨statements, -, calls⟩ := all overlong bracedRequest bracedServices t.settings
    Language.visualBasic ⟨10 ^ Text.maxDigits, 0, 0⟩ ⟨3, 10, 1⟩ _ _ _ "\r\n" rfl names rfl rfl rfl
    resolved (.tail _ (.head _)) rfl rfl differ
  cases unwritten.symm.trans calls

end ProjectSetup

end CodeBehind
