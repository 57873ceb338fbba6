import CodeBehind.Generation.OnDisk
import CodeBehind.Proofs.Generation.Outcome
import CodeBehind.Proofs.TextFile

/-!
What a generation saves.

Every call of the writer in a generation ends as the writer ends it (`pipeline_heeds`). So where
nothing interrupts the program, a run that returns a path has had its writer write one text there,
and a run that returns none has written nothing (`run_saves`). On a disk the text is at its path
afterwards (`holdsText_written`), and what has written nothing leaves the disk as it was
(`after_of_unwritten`).
-/

namespace CodeBehind

/-- If the step calls a writer, the call ends as this writer ends it. -/
def Step.Heeds (writer : OutputWriter) (s : Step) : Prop :=
  ∀ path content fault?, s.writing? = some (path, content, fault?) →
    fault? = faultOf? (writer path content).outcome

namespace Step

variable {writer : OutputWriter}

theorem heeds_of_unwriting {s : Step} (h : s.writing? = none) : s.Heeds writer := by
  intro path content fault? found
  cases h.symm.trans found

theorem heeds_write (path content : String) :
    (Step.call (.write path content) (faultOf? (writer path content).outcome)).Heeds writer := by
  rintro _ _ _ ⟨⟩
  rfl

end Step

namespace ProjectSetup

variable (p : ProjectSetup) (q : Request)

theorem askLogged_write_heeds (path content : String) :
    (Part.askLogged (.write path content) (q.writer path content)).All (·.Heeds q.writer) :=
  .askLogged (Step.heeds_write path content) fun _ => Step.heeds_of_unwriting rfl

/-- Whatever preparing writes is written by the writer. -/
theorem prepare_heeds : (p.prepare q).All (·.Heeds q.writer) := by
  have inquiries : ∀ {steps : List Step}, (∀ s ∈ steps, s.IsInquiry) →
      ∀ s ∈ steps, s.Heeds q.writer :=
    fun inquiry s mem => Step.heeds_of_unwriting (inquiry s mem).writing?_eq_none
  have prepared := p.preparation q
  generalize p.prepare q = x at prepared
  cases prepared with
  | stuck inquiry => exact inquiries inquiry
  | ready inquiry => exact inquiries inquiry
  | @shut steps t message inquiry =>
    refine .after (inquiries inquiry) ?_
    rcases p.writeMessage_cases q t.renderer t.output message with
      ⟨f, -, rendering⟩ | ⟨text, content, -, written⟩
    · exact fun s mem => Step.heeds_of_unwriting (rendering s mem).writing?_eq_none
    · rw [written]
      refine .after (List.forall_mem_singleton.mpr (Step.heeds_of_unwriting rfl)) ?_
      exact (askLogged_write_heeds q _ _).bind fun _ _ => .ofOutcome (.ok _)

/-- Making the content heeds any writer: it does not write. -/
theorem content_heeds (t : Target) (source : String) :
    (p.content q t source).All (·.Heeds q.writer) := by
  have unwriting := List.filterMap_eq_nil_iff.mp (p.content_unwriting q t source)
  exact fun s mem => Step.heeds_of_unwriting (unwriting s mem)

/-- The journal of a generation tells how the writer ends its calls. -/
theorem pipeline_heeds : (p.pipeline q).All (·.Heeds q.writer) := by
  refine (p.prepare_heeds q).bind fun found _ => ?_
  cases found with
  | written path => exact .ofOutcome (.ok path)
  | ready t =>
    refine Part.All.bind ?_ fun source _ => ?_
    · exact .askLogged (Step.heeds_of_unwriting rfl) fun _ => Step.heeds_of_unwriting rfl
    refine (p.content_heeds q t source).bind fun content _ => ?_
    exact (askLogged_write_heeds q _ _).bind fun _ _ => .ofOutcome (.ok _)

/-- Where nothing interrupts the program, a run returns the path of the one text that its writer has
written, or it returns none and has written nothing. -/
theorem run_saves {p : ProjectSetup} {q : Request} (h : p.IsOrdinary q) (channel : Channel) :
    (∃ path content, (p.run channel q).outcome = .ok (some path) ∧
        Journal.writes (p.run channel q).journal = [(path, content)] ∧
        (q.writer path content).outcome = .ok ()) ∨
      (p.run channel q).outcome = .ok none ∧ Journal.writes (p.run channel q).journal = [] := by
  obtain ⟨outcome, calls, -⟩ := run_mirrors h channel
  have writes := p.pipeline_writes q
  have heeds := p.pipeline_heeds q
  generalize p.pipeline q = x at outcome calls writes heeds
  cases writes with
  | @written journal path content _ hcalls named =>
    cases named
    refine .inl ⟨path, content, outcome, ?_, ?_⟩
    · rw [Journal.writes_eq_filterMap, calls, hcalls]
      rfl
    · obtain ⟨s, mem, writing⟩ :=
        List.mem_filterMap.mp (hcalls ▸ List.mem_singleton_self (path, content, none))
      have returned := heeds s mem _ _ _ writing
      cases reply : (q.writer path content).outcome with
      | ok done => rfl
      | error f =>
        rw [reply] at returned
        cases returned
  | failed hcalls => exact .inr ⟨outcome, Journal.writes_of_failed (calls.trans hcalls)⟩
  | @silent journal ending hcalls unnamed =>
    refine .inr ⟨?_, Journal.writes_of_unwriting (calls.trans hcalls)⟩
    cases ending with
    | ok path => cases unnamed path rfl
    | error f => exact outcome

end ProjectSetup

/-! ### On a disk -/

namespace Disk

variable {d : Disk} {journal : List Step} {path content : String}

/-- What the writer of a disk has written is at its path afterwards. -/
theorem holdsText_written (h : (d.writer path content).outcome = .ok ()) :
    TextFile.HoldsText (d.written path content) path content := by
  rw [written]
  rw [writer] at h
  dsimp only at h
  cases reply : (TextFile.write d path content).outcome with
  | ok d' => exact TextFile.holdsText_of_write reply
  | error f =>
    rw [reply] at h
    cases h

/-- A journal with one file leaves the disk with this file. -/
theorem after_of_written (h : Journal.writes journal = [(path, content)]) :
    d.after journal = d.written path content := by
  rw [after, h]
  rfl

theorem after_of_unwritten (h : Journal.writes journal = []) : d.after journal = d := by
  rw [after, h]
  rfl

end Disk

end CodeBehind
