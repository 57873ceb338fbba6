import CodeBehind.Generation
import Mathlib.Data.List.Infix

/-!
Views of a journal.

A view keeps what the steps of one kind tell: the collaborators called and the diagnostics emitted
(`moves`), the renderings (`rendered`), the diagnostics and the faults that the generation itself
emitted (`diagnosed`, `reported`), and the calls of the writer (`writerCalls`). What handlers emit
in their turn is theirs and counts for none of them.

Announcing notices yields the notices and, next to them, calls of handlers and records of the log
(`Step.IsAside`), of which no view sees anything. So what a view sees of an announcement is what it
sees of the notices, up to the one at which a handler interrupts (`announce_filterMap`).
-/

namespace CodeBehind

/-- What a host sees of a generation: a call of one of its collaborators, or a diagnostic that is
emitted. -/
inductive Move where
  | provideServices
  | projectSettings
  | generatorVersion
  | read
  | createGenerator
  | generate
  | close
  | diagnose
  | write
deriving DecidableEq, Repr

/-- A call without its data. -/
def Call.move : Call → Move
  | .provideServices => .provideServices
  | .projectSettings => .projectSettings
  | .generatorVersion => .generatorVersion
  | .read _ => .read
  | .createGenerator => .createGenerator
  | .generate _ _ => .generate
  | .close => .close
  | .write _ _ => .write

namespace Step

def move? : Step → Option Move
  | .call c _ => some c.move
  | .emit (.generation _) => some .diagnose
  | _ => none

def message? : Step → Option (Option String)
  | .render message? => some message?
  | _ => none

def diagnostic? : Step → Option Diagnostic
  | .emit (.generation d) => some d
  | _ => none

def fault? : Step → Option Fault
  | .emit (.other f) => some f
  | _ => none

def writing? : Step → Option (String × String × Option Fault)
  | .call (.write path content) fault? => some (path, content, fault?)
  | _ => none

/-- A step of an emission other than the notice itself. -/
inductive IsAside : Step → Prop where
  | notify (handler : String) (notice : Notice) : IsAside (.notify handler notice)
  | log (record : LogRecord) : IsAside (.log record)

theorem isAside_ofOccurrence (o : Channel.Occurrence) : (ofOccurrence o).IsAside := by
  cases o with
  | called handler notice => exact .notify handler notice
  | logged record => exact .log record

section Views

variable {s : Step} (h : s.IsAside)
include h

theorem IsAside.move?_eq_none : s.move? = none := by
  cases h <;> rfl

theorem IsAside.message?_eq_none : s.message? = none := by
  cases h <;> rfl

theorem IsAside.diagnostic?_eq_none : s.diagnostic? = none := by
  cases h <;> rfl

theorem IsAside.fault?_eq_none : s.fault? = none := by
  cases h <;> rfl

theorem IsAside.writing?_eq_none : s.writing? = none := by
  cases h <;> rfl

end Views

end Step

namespace Journal

abbrev moves (journal : List Step) : List Move :=
  journal.filterMap Step.move?

abbrev rendered (journal : List Step) : List (Option String) :=
  journal.filterMap Step.message?

abbrev diagnosed (journal : List Step) : List Diagnostic :=
  journal.filterMap Step.diagnostic?

abbrev reported (journal : List Step) : List Fault :=
  journal.filterMap Step.fault?

abbrev writerCalls (journal : List Step) : List (String × String × Option Fault) :=
  journal.filterMap Step.writing?

/-- What was written are the calls of the writer that returned. -/
theorem writes_eq_filterMap (journal : List Step) :
    writes journal = (writerCalls journal).filterMap fun w =>
      if w.2.2 = none then some (w.1, w.2.1) else none := by
  rw [writes, writerCalls, List.filterMap_filterMap]
  apply List.filterMap_congr
  intro s _
  cases s with
  | call c fault? => cases c <;> cases fault? <;> rfl
  | _ => rfl

/-- Nothing is written where the writer is not called. -/
theorem writes_of_unwriting {journal : List Step} (h : writerCalls journal = []) :
    writes journal = [] := by
  rw [writes_eq_filterMap, h]
  rfl

/-- A call of the writer that fails has written nothing. -/
theorem writes_of_failed {journal : List Step} {path content : String} {f : Fault}
    (h : writerCalls journal = [(path, content, some f)]) : writes journal = [] := by
  rw [writes_eq_filterMap, h]
  rfl

section After

variable (steps : List Step) (r : Run)

theorem moves_after : moves (r.after steps).journal = moves steps ++ moves r.journal :=
  List.filterMap_append

theorem rendered_after :
    rendered (r.after steps).journal = rendered steps ++ rendered r.journal :=
  List.filterMap_append

theorem diagnosed_after :
    diagnosed (r.after steps).journal = diagnosed steps ++ diagnosed r.journal :=
  List.filterMap_append

theorem writerCalls_after :
    writerCalls (r.after steps).journal = writerCalls steps ++ writerCalls r.journal :=
  List.filterMap_append

end After

/-! ### Steps that a view does not see -/

section Blind

variable {β : Type} {view : Step → Option β} {journal : List Step}

/-- A view sees nothing of steps that it is blind for. -/
theorem filterMap_eq_nil {P : Step → Prop} (blind : ∀ s, P s → view s = none)
    (h : ∀ s ∈ journal, P s) : journal.filterMap view = [] :=
  List.filterMap_eq_nil_iff.mpr fun s hs => blind s (h s hs)

theorem filterMap_append_of_unseen (h : journal.filterMap view = []) (rest : List Step) :
    (journal ++ rest).filterMap view = rest.filterMap view := by
  rw [List.filterMap_append, h, List.nil_append]

end Blind

/-! ### Emissions -/

section Emission

variable (notice : Notice) (e : Channel.Emission)

theorem isAside_of_mem_occurrences :
    ∀ s ∈ e.occurrences.map Step.ofOccurrence, s.IsAside := by
  intro s hs
  obtain ⟨o, -, rfl⟩ := List.mem_map.mp hs
  exact Step.isAside_ofOccurrence o

/-- A view that sees nothing but notices sees one of them in an emission. -/
theorem filterMap_ofEmission {β : Type} {view : Step → Option β}
    (blind : ∀ s, s.IsAside → view s = none) :
    (Step.ofEmission notice e).filterMap view = (view (.emit notice)).toList := by
  have nothing := filterMap_eq_nil blind (isAside_of_mem_occurrences e)
  rw [Step.ofEmission, List.filterMap_cons, nothing]
  cases view (.emit notice) <;> rfl

end Emission

end Journal

theorem Run.after_after (r : Run) (steps before : List Step) :
    (r.after steps).after before = r.after (before ++ steps) := by
  rw [Run.after, Run.after, Run.after, List.append_assoc]

namespace ProjectSetup

variable (p : ProjectSetup)

/-- What a view sees of an announcement are notices from the first on, and all of them where no
handler interrupts. -/
theorem announce_filterMap {β : Type} {view : Step → Option β}
    (blind : ∀ s, s.IsAside → view s = none) (notices : List Notice) (channel : Channel) :
    let told := p.announce notices channel
    told.journal.filterMap view <+: notices.filterMap (fun n => view (.emit n)) ∧
      (told.ending = .returned →
        told.journal.filterMap view = notices.filterMap (fun n => view (.emit n))) := by
  induction notices generalizing channel with
  | nil => exact ⟨List.prefix_rfl, fun _ => rfl⟩
  | cons notice rest ih =>
    have cons_eq : (notice :: rest).filterMap (fun n => view (.emit n)) =
        (view (.emit notice)).toList ++ rest.filterMap (fun n => view (.emit n)) := by
      rw [List.filterMap_cons]
      cases view (.emit notice) <;> rfl
    have head := fun e => Journal.filterMap_ofEmission notice e blind
    rw [announce, cons_eq]
    split
    · obtain ⟨begins, completes⟩ := ih (Channel.emit p.behaviour _ notice channel).channel
      simp only [List.filterMap_append, head]
      constructor
      · exact (List.prefix_append_right_inj _).mpr begins
      · intro h
        rw [completes h]
    · simp only [head]
      constructor
      · exact List.prefix_append _ _
      · intro h
        cases h

/-- A view that is blind for what handlers do sees the notices only. -/
theorem announce_unseen {β : Type} {view : Step → Option β}
    (blind : ∀ s, s.IsAside → view s = none) {notices : List Notice}
    (h : ∀ n ∈ notices, view (.emit n) = none) (channel : Channel) :
    (p.announce notices channel).journal.filterMap view = [] := by
  have begins := (p.announce_filterMap blind notices channel).1
  rw [List.filterMap_eq_nil_iff.mpr h] at begins
  exact List.prefix_nil.mp begins

/-! ### Diagnostics announced -/

section Diagnostics

variable (diagnostics : List Diagnostic) (channel : Channel)

theorem announce_unseen_of_diagnostics {β : Type} {view : Step → Option β}
    (blind : ∀ s, s.IsAside → view s = none) (h : ∀ d, view (.emit (.generation d)) = none) :
    (p.announce (diagnostics.map .generation) channel).journal.filterMap view = [] := by
  refine p.announce_unseen blind (fun n hn => ?_) channel
  obtain ⟨d, -, rfl⟩ := List.mem_map.mp hn
  exact h d

/-- The diagnostics that are emitted are the first ones of those announced, and all of them where
announcing returns. -/
theorem announce_diagnosed :
    let told := p.announce (diagnostics.map .generation) channel
    Journal.diagnosed told.journal <+: diagnostics ∧
      (told.ending = .returned → Journal.diagnosed told.journal = diagnostics) := by
  have seen := p.announce_filterMap (fun _ hs => hs.diagnostic?_eq_none)
    (diagnostics.map .generation) channel
  have all : (diagnostics.map Notice.generation).filterMap (fun n => (Step.emit n).diagnostic?) =
      diagnostics := by
    rw [List.filterMap_map]
    exact List.filterMap_some
  rwa [all] at seen

/-- Announcing moves once for each diagnostic, as long as nothing interrupts. -/
theorem announce_moves :
    let told := p.announce (diagnostics.map .generation) channel
    let all := List.replicate diagnostics.length Move.diagnose
    Journal.moves told.journal <+: all ∧
      (told.ending = .returned → Journal.moves told.journal = all) := by
  have seen := p.announce_filterMap (fun _ hs => hs.move?_eq_none)
    (diagnostics.map .generation) channel
  have all : (diagnostics.map Notice.generation).filterMap (fun n => (Step.emit n).move?) =
      List.replicate diagnostics.length .diagnose := by
    rw [List.filterMap_map, ← List.map_const']
    exact congrFun (List.filterMap_eq_map (f := fun _ => Move.diagnose)) diagnostics
  rwa [all] at seen

end Diagnostics

/-! ### Going on and giving up -/

/-- A view that is blind for logging and handlers sees the notice of a fault only. -/
theorem giveUp_unseen {β : Type} {view : Step → Option β} (blind : ∀ s, s.IsAside → view s = none)
    {f : Fault} (h : view (.emit (.other f)) = none) (channel : Channel) (trouble : String) :
    (p.giveUp channel trouble f).journal.filterMap view = [] := by
  unfold giveUp
  split
  · rw [List.filterMap_cons, blind _ (.log _)]
    exact p.announce_unseen blind (List.forall_mem_singleton.mpr h) channel
  · rfl

section Proceed

variable {p} {α : Type} {channel : Channel} {trouble : String} {part : Part α} {next : α → Run}

theorem proceed_of_ok {a : α} (h : part.outcome = .ok a) :
    p.proceed channel trouble part next = (next a).after part.journal := by
  rw [proceed, h]

theorem proceed_of_error {f : Fault} (h : part.outcome = .error f) :
    p.proceed channel trouble part next = (p.giveUp channel trouble f).after part.journal := by
  rw [proceed, h]

theorem proceed_after (steps : List Step) :
    p.proceed channel trouble (part.after steps) next =
      (p.proceed channel trouble part next).after steps := by
  cases h : part.outcome with
  | ok a =>
    have hafter : (part.after steps).outcome = .ok a := h
    rw [proceed_of_ok h, proceed_of_ok hafter, Run.after_after]
    rfl
  | error f =>
    have hafter : (part.after steps).outcome = .error f := h
    rw [proceed_of_error h, proceed_of_error hafter, Run.after_after]
    rfl

/-- What a view sees of going on, it sees of the part or of what follows its result. -/
theorem mem_proceed {β : Type} {view : Step → Option β} (blind : ∀ s, s.IsAside → view s = none)
    (unseen : ∀ f, view (.emit (.other f)) = none) {b : β}
    (h : b ∈ (p.proceed channel trouble part next).journal.filterMap view) :
    b ∈ part.journal.filterMap view ∨
      ∃ a, part.outcome = .ok a ∧ b ∈ (next a).journal.filterMap view := by
  cases houtcome : part.outcome with
  | ok a =>
    rw [proceed_of_ok houtcome, Run.after, List.filterMap_append] at h
    rcases List.mem_append.mp h with h | h
    · exact .inl h
    · exact .inr ⟨a, rfl, h⟩
  | error f =>
    rw [proceed_of_error houtcome, Run.after, List.filterMap_append,
      p.giveUp_unseen blind (unseen f), List.append_nil] at h
    exact .inl h

end Proceed

end ProjectSetup

end CodeBehind
