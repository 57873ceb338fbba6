import CodeBehind.CommandLine
import CodeBehind.Proofs.Console.Escape

/-!
What the program tells.

Telling changes nothing of what was done, and it ends the program only where a text is no markup. A
generation that wrote nothing is always told of, since the input is escaped (`ending_tell_none`).
The path of a file stands in a line and perhaps in a title as it is (`ending_tell_of_line_error`,
`ending_tell_of_title_error`), and so does the text of a refusal (`ending_refuse_of_error`).
-/

namespace CodeBehind

/-! ### Reports -/

namespace CommandLine.Report

variable {r : Report} {code : Int}

@[simp] theorem journal_print (r : Report) (text : Except Console.MarkupError String) :
    (r.print text).journal = r.journal := by
  unfold print
  split <;> rfl

@[simp] theorem disk_print (r : Report) (text : Except Console.MarkupError String) :
    (r.print text).disk = r.disk := by
  unfold print
  split <;> rfl

@[simp] theorem journal_log (r : Report) (record : LogRecord) :
    (r.log record).journal = r.journal := by
  unfold log
  split <;> rfl

@[simp] theorem disk_log (r : Report) (record : LogRecord) : (r.log record).disk = r.disk := by
  unfold log
  split <;> rfl

@[simp] theorem ending_log (r : Report) (record : LogRecord) :
    (r.log record).ending = r.ending := by
  unfold log
  split <;> rfl

/-- What can be printed does not change how the program ends. -/
theorem ending_print_ok (h : r.ending = .returned code) (text : String) :
    (r.print (.ok text)).ending = .returned code := by
  simp only [print, h]

/-- What cannot be printed leaves the program as a fault. -/
theorem ending_print_error (h : r.ending = .returned code) (e : Console.MarkupError) :
    (r.print (.error e)).ending = .raised e.fault := by
  simp only [print, h]

/-- Once a fault has left the program, nothing more is printed. -/
theorem ending_print_raised {f : Fault} (h : r.ending = .raised f)
    (text : Except Console.MarkupError String) : (r.print text).ending = .raised f := by
  simp only [print, h]

end CommandLine.Report

namespace CommandLine

variable {w : World} {g : GenerateArguments}

/-! ### What the program tells -/

def refusalMarkup (text : String) : String :=
  "[red]✗ Error:[/red] " ++ text

def wroteMarkup (path : String) : String :=
  "[green]✓[/green] Wrote [cyan]" ++ path ++ "[/cyan]"

section Tell

variable {journal : List Step} {r : Report} {path : String}

@[simp] theorem journal_tell (outcome : Except Fault (Option String)) :
    (tell g journal r outcome).journal = r.journal := by
  unfold tell
  split
  · rfl
  · exact Report.journal_print _ _
  · dsimp only
    split <;> simp

@[simp] theorem disk_tell (outcome : Except Fault (Option String)) :
    (tell g journal r outcome).disk = r.disk := by
  unfold tell
  split
  · rfl
  · exact Report.disk_print _ _
  · dsimp only
    split <;> simp

/-- A generation that wrote nothing ends with the code 1: what is told of the input is escaped. -/
theorem ending_tell_none : (tell g journal r (.ok none)).ending = .returned 1 := by
  obtain ⟨shown, line⟩ := Console.exists_line_escaped g.input
  rw [tell, line]
  exact Report.ending_print_ok rfl shown

def toldOf (r : Report) (path : String) : Report :=
  { r with ending := .returned 0 }.print (Console.line (wroteMarkup path))

/-- The path of a file is told, and with many words its content too. -/
theorem tell_some :
    tell g journal r (.ok (some path)) =
      if g.verbose then
        (toldOf r path).print (Console.panel path
          (Console.escape ((Assoc.get? (Journal.writes journal) path).getD "")))
      else toldOf r path :=
  rfl

/-- A path that is no markup ends the program with the fault of printing it. -/
theorem ending_toldOf_of_error {e : Console.MarkupError}
    (h : Console.line (wroteMarkup path) = .error e) :
    (toldOf r path).ending = .raised e.fault := by
  rw [toldOf, h]
  exact Report.ending_print_error rfl e

theorem ending_toldOf_of_shown {shown : String} (h : Console.line (wroteMarkup path) = .ok shown) :
    (toldOf r path).ending = .returned 0 := by
  rw [toldOf, h]
  exact Report.ending_print_ok rfl shown

/-- The path of a file that was written is printed as it is, and the fault of printing it leaves the
program. -/
theorem ending_tell_of_line_error {e : Console.MarkupError}
    (h : Console.line (wroteMarkup path) = .error e) :
    (tell g journal r (.ok (some path))).ending = .raised e.fault := by
  have raised := ending_toldOf_of_error (r := r) h
  rw [tell_some]
  split
  · exact Report.ending_print_raised raised _
  · exact raised

/-- In the title of a panel the path is printed once more. -/
theorem ending_tell_of_title_error {e : Console.MarkupError} {shown : String}
    (told : Console.line (wroteMarkup path) = .ok shown) (verbose : g.verbose = true)
    (title : Console.checkTitle path = .error e) :
    (tell g journal r (.ok (some path))).ending = .raised e.fault := by
  rw [tell_some, if_pos verbose, (Console.panel_escape_eq_error_iff path _).mpr title]
  exact Report.ending_print_error (ending_toldOf_of_shown told) e

end Tell

/-! ### Refusals -/

theorem journal_refuse (f : Fault) : (refuse w f).journal = [] := by
  unfold refuse
  split
  · split
    · rw [Report.journal_log, Report.journal_print]
    · rfl
  · rfl

theorem disk_refuse (f : Fault) : (refuse w f).disk = w.disk := by
  unfold refuse
  split
  · split
    · rw [Report.disk_log, Report.disk_print]
    · rfl
  · rfl

/-- What is no matter of the command line leaves the program as it is. -/
theorem ending_refuse_of_untold {f : Fault} (h : isTold f = false) :
    (refuse w f).ending = .raised f := by
  rw [refuse, h]
  rfl

section Told

variable {f : Fault} (told : isTold f = true)
include told

/-- A fault that does not describe itself cannot be told. -/
theorem ending_refuse_of_silent (silent : f.description? = none) :
    (refuse w f).ending = .raised .indescribable := by
  rw [refuse, if_pos told, silent]

variable {text : String} (described : f.description? = some text)
include described

theorem ending_refuse_of_described : (refuse w f).ending =
    (({ ending := .returned 1, disk := w.disk } : Report).print
      (Console.line (refusalMarkup text))).ending := by
  rw [refuse, if_pos told, described]
  exact Report.ending_log _ _

/-- The text of a refusal is printed as it is, and the fault of printing it leaves the program. -/
theorem ending_refuse_of_error {e : Console.MarkupError}
    (h : Console.line (refusalMarkup text) = .error e) :
    (refuse w f).ending = .raised e.fault := by
  rw [ending_refuse_of_described told described, h]
  exact Report.ending_print_error rfl e

end Told

end CommandLine

end CodeBehind
