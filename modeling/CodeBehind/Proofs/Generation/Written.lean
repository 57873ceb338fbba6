import CodeBehind.Proofs.Generation.Content
import CodeBehind.Proofs.Language.Statement

/-!
What is written.

A run writes the code of a successful result, or rendered messages (`written_cases`). Where the
project's language is a bundled one, rendered messages are statements of this language and nothing
else, whatever texts they are made of (`run_writes_code_or_statements`).
-/

namespace CodeBehind.ProjectSetup

variable {p : ProjectSetup} {q : Request}

/-! ### Calls of the writer -/

section Calls

variable {w : String × String × Option Fault}

/-- What publishing writes is the content, at the target's path. -/
theorem publish_writes {t : Target} {channel : Channel} {content : Content}
    (h : w ∈ Journal.writerCalls (p.publish q t channel content).journal) :
    w.1 = t.output ∧ w.2.1 = content.text := by
  have told : (p.announce (content.diagnostics.map .generation) channel).journal.filterMap
      Step.writing? = [] :=
    p.announce_unseen_of_diagnostics _ _ (fun _ hs => hs.writing?_eq_none) fun _ => rfl
  rw [Journal.writerCalls, publish_filterMap (fun _ hs => hs.writing?_eq_none) (fun _ => rfl), told]
    at h
  split at h
  · rw [List.mem_singleton.mp h]
    exact ⟨rfl, rfl⟩
  · cases h

/-- What is written of a message is what it is rendered to. -/
theorem writeMessage_renders {r : Renderer} {output : String} {message : Except Fault String}
    (h : w ∈ Journal.writerCalls (p.writeMessage q r output message).journal) :
    ∃ text, (p.render r (some text)).outcome = .ok w.2.1 := by
  rcases p.writeMessage_cases q r output message with
    ⟨f, outcome, rendering⟩ | ⟨text, content, rendered, written⟩
  · rw [Journal.isRendering_unwriting rendering] at h
    cases h
  · have calls : w ∈ Journal.writerCalls
        (Part.askLogged (.write output content) (q.writer output content)).journal := by
      rw [written, Part.journal_after, Part.journal_bind_pure] at h
      exact h
    rw [Part.writerCalls_askLogged, List.mem_singleton] at calls
    exact ⟨text, calls ▸ rendered⟩

/-- What preparing writes is the rendering of some message. -/
theorem Preparation.renders {x : Part Prepared} (prepared : p.Preparation q x)
    (h : w ∈ Journal.writerCalls x.journal) :
    ∃ t message, p.Located q t ∧ (p.render t.renderer (some message)).outcome = .ok w.2.1 := by
  have unwriting : ∀ {steps : List Step}, (∀ s ∈ steps, s.IsInquiry) →
      w ∉ Journal.writerCalls steps := fun inquiry =>
    List.eq_nil_iff_forall_not_mem.mp (Journal.isInquiry_unwriting inquiry) w
  cases prepared with
  | stuck inquiry => exact absurd h (unwriting inquiry)
  | ready inquiry => exact absurd h (unwriting inquiry)
  | @shut steps t message inquiry _ located =>
    rw [Part.journal_after, Journal.writerCalls,
      Journal.filterMap_append_of_unseen (Journal.isInquiry_unwriting inquiry)] at h
    obtain ⟨text, rendered⟩ := writeMessage_renders h
    exact ⟨t, text, located, rendered⟩

/-- What a run writes is a message of the gate, or the content of what is behind it. -/
theorem written_cases {channel : Channel}
    (h : w ∈ Journal.writerCalls (p.run channel q).journal) :
    (∃ t message, p.Located q t ∧ (p.render t.renderer (some message)).outcome = .ok w.2.1) ∨
      ∃ t source content, p.Located q t ∧ p.Fits t.services ∧
        (q.reader q.input).outcome = .ok source ∧
        (p.content q t source).outcome = .ok content ∧ content.text = w.2.1 := by
  have blind : ∀ s : Step, s.IsAside → s.writing? = none := fun _ hs => hs.writing?_eq_none
  rw [run, Journal.writerCalls_after] at h
  rcases mem_proceed blind (fun _ => rfl) h with h | ⟨found, hfound, h⟩
  · exact .inl ((p.preparation q).renders h)
  · cases found with
    | written path => cases h
    | ready t =>
      obtain ⟨located, fits⟩ := p.ready_of_prepare q hfound
      rcases mem_proceed blind (fun _ => rfl) h with h | ⟨source, reads, h⟩
      · rw [Part.filterMap_askLogged (fun _ => rfl)] at h
        cases h
      · rcases mem_proceed blind (fun _ => rfl) h with h | ⟨content, made, h⟩
        · rw [show (p.content q t source).journal.filterMap Step.writing? = [] from
            p.content_unwriting q t source] at h
          cases h
        · exact .inr ⟨t, source, content, located, fits, reads, made, (publish_writes h).2.symm⟩

end Calls

/-! ### Code or statements -/

/-- The content of a file is the code of a successful result, or rendered messages. -/
theorem content_cases {t : Target} {source ending : String} {content : Content}
    (separator : p.config.separator = .ok ending)
    (h : (p.content q t source).outcome = .ok content) :
    (∃ generator result, t.services.create = .ok generator ∧
      generator.generate (featureFile q.directory t.settings.folder q.input source) {} =
        .ok (some result) ∧ result.isSuccess = true ∧ content.text = result.code?.getD "") ∨
      Language.IsRendered t.renderer ending content.text := by
  rcases contentOf_eq_ok h with ⟨result, code, success, text_eq⟩ |
    ⟨ending', messages, blocks, separator', nonempty, rendered, text_eq⟩
  · cases hcreate : t.services.create with
    | error f =>
      rw [generateCode_of_not_created q t hcreate] at code
      cases code
    | ok generator =>
      rw [generateCode_of_created q t hcreate] at code
      exact .inl ⟨generator, result, rfl, codeOutcome_eq_ok code, success, text_eq⟩
  · cases separator'.symm.trans separator
    exact .inr ⟨messages, blocks, nonempty, rendered, text_eq⟩

/-- Where the project's language is a bundled one, the writer gets the code of a successful result
or statements of the language, whatever texts the diagnostics are made of. -/
theorem run_writes_code_or_statements {channel : Channel} {services : Services}
    {settings : ProjectSettings} {r : Renderer} {ending path text : String} {fault? : Option Fault}
    (provided : q.provider = .ok services) (told : services.settings = .ok settings)
    (resolved : p.registry.get settings.language? = .ok r)
    (ending_eq : p.config.lineEnding = .text ending) (admitted : ending ∈ Config.lineEndings)
    (written : .call (.write path text) fault? ∈ (p.run channel q).journal) :
    (∃ generator file result, services.create = .ok generator ∧
      .call (.generate file {}) none ∈ (p.run channel q).journal ∧
      generator.generate file {} = .ok (some result) ∧ result.isSuccess = true ∧
      text = result.code?.getD "") ∨
    Language.AllStatements r ending text := by
  have separator := separator_of_text ending_eq
  have call : (path, text, fault?) ∈ Journal.writerCalls (p.run channel q).journal :=
    List.mem_filterMap.mpr ⟨_, written, rfl⟩
  rcases written_cases call with
    ⟨t, message, located, rendered⟩ | ⟨t, source, content, located, fits, reads, made, rfl⟩
  · obtain ⟨-, rfl⟩ := located.resolved provided told resolved
    rw [render_of_separator separator] at rendered
    refine .inr (Language.allStatements_of_rendered admitted ?_)
    refine ⟨[some message], [text], List.cons_ne_nil _ _, ?_, ?_⟩
    · rw [List.mapM_cons, rendered]
      rfl
    · exact (String.intercalate_singleton).symm
  · obtain ⟨rfl, rfl⟩ := located.resolved provided told resolved
    rcases content_cases separator made with
      ⟨generator, result, created, generated, success, code⟩ | rendered
    · let file := featureFile q.directory t.settings.folder q.input source
      have step : Step.call (.generate file {}) none ∈ generatorSteps generator file := by
        rw [generatorSteps, generated]
        exact .tail _ (.head _)
      refine .inl ⟨generator, file, result, created, ?_, generated, success, code⟩
      rw [run_of_created located fits reads created]
      exact List.mem_append_left _ (List.mem_append_right _ step)
    · exact .inr (Language.allStatements_of_rendered admitted rendered)

/-! ### A message that tries to leave its statement -/

/-- A failed result whose message holds line breaks, quotes and a control character. -/
def unruly : GenerationResult :=
  { errors := [{ message? := some "it's\r\n')\n\"quoted\"\u2028\x07 #" }] }

def unrulyServices : Services where
  settings := .ok { folder := "/proj", language? := some "Py" }
  version := .ok (some ⟨3, 9, 1⟩)
  create := .ok { generate := fun _ _ => .ok (some unruly), close := .ok () }

def unrulyRequest : Request where
  input := "Features/Login.feature"
  provider := .ok unrulyServices
  reader := fun _ => { outcome := .ok "Feature: Login" }
  writer := fun _ _ => { outcome := .ok () }
  directory := "/"

def wideEnding : ProjectSetup where
  project := { name := "Bookshop", referenced? := some ⟨3, 9, 0⟩ }
  config := { Config.standard with lineEnding := .text "\r\n" }
  behaviour := fun _ _ => []

def unrulyText : String :=
  "raise RuntimeError(\"it's\")\r\nraise RuntimeError(\"')\")\r\n" ++
    "raise RuntimeError('\"quoted\"')\r\nraise RuntimeError('\\x07 #')"

/-- Every line of an unruly message is a statement of the written text. -/
theorem run_writes_statements_of_unruly :
    .call (.write "Features/Login.feature.py" unrulyText) none ∈
        (wideEnding.run {} unrulyRequest).journal ∧
      Language.AllRaising "\r\n" unrulyText := by
  have resolved : wideEnding.registry.get (some "Py") = .ok Language.python := by rfl
  have written : .call (.write "Features/Login.feature.py" unrulyText) none ∈
      (wideEnding.run {} unrulyRequest).journal := by decide +kernel
  refine ⟨written, ?_⟩
  rcases run_writes_code_or_statements (p := wideEnding) (q := unrulyRequest) rfl rfl resolved rfl
      (by decide) written with
    ⟨generator, file, result, created, -, generated, success, -⟩ | statements
  · cases created
    cases generated
    cases success
  · exact statements.python rfl

end CodeBehind.ProjectSetup
