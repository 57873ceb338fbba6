import CodeBehind.Proofs.Generation.Content

/-!
The order of a generation.

Whatever collaborators return or raise, they are called in a fixed order. `Course` lists the ways in
which the moves of a run can go, and `run_course` finds the one of a run. What a host may rely on
follows from it (`run_order`): the gate is passed before anything is read, a generator is created
after the reader returned, and a diagnostic is emitted before the file that holds it is written.
-/

namespace CodeBehind

/-- A generator is handed out when one is asked for. -/
def Request.handsOut (q : Request) : Bool :=
  match q.provider with
  | .ok services => services.create.isOk
  | .error _ => false

theorem Request.handsOut_of_provided {q : Request} {services : Services}
    (h : q.provider = .ok services) : q.handsOut = services.create.isOk := by
  rw [handsOut, h]

namespace ProjectSetup

variable (p : ProjectSetup) (q : Request)

/-- The gate is shut: no version is referenced, or one whose major or minor component is not the
generator's. -/
def IsShut : Prop :=
  p.project.referenced? = none ∨
    ∃ declared services actual, p.project.referenced? = some declared ∧
      q.provider = .ok services ∧ services.version = .ok (some actual) ∧
      ¬ Compatibility.Agrees declared actual

/-- The moves that make the code. -/
def making : List Move :=
  .createGenerator :: if q.handsOut then [.generate, .close] else []

/-- All the moves of a run behind an open gate that emits `n` diagnostics. -/
def full (n : Nat) : List Move :=
  [.provideServices, .projectSettings, .generatorVersion, .read] ++ making q ++
    List.replicate n .diagnose ++ [.write]

/-- What a host may rely on. -/
structure Orderly (moves : List Move) : Prop where
  shut : p.IsShut q → moves <+: p.opening ++ [.write]
  opened : ¬ p.IsShut q → ∃ n, moves <+: full q n
  asked : .generatorVersion ∈ moves ↔ p.project.referenced?.isSome ∧ ∃ t, p.Located q t
  read_iff : .read ∈ moves ↔ ∃ t, p.Located q t ∧ p.Fits t.services
  read_once : moves.count .read ≤ 1
  created : .createGenerator ∈ moves → ∃ source, (q.reader q.input).outcome = .ok source
  stopped : p.IsShut q →
    ∀ m ∈ [Move.read, .createGenerator, .generate, .close, .diagnose], m ∉ moves
  last : ∀ before after, moves = before ++ .write :: after → after = []

/-- The ways in which the moves of a run can go. -/
inductive Course : List Move → Prop where
  | stuck {moves : List Move} (begins : moves <+: p.opening)
      (asked : .generatorVersion ∈ moves ↔ p.project.referenced?.isSome ∧ ∃ t, p.Located q t)
      (unfit : ∀ t, p.Located q t → ¬ p.Fits t.services) : Course moves
  | shut {t : Target} {moves : List Move} (located : p.Located q t) (closed : p.Shut t.services)
      (begins : moves <+: [.write]) : Course (p.opening ++ moves)
  | unread {t : Target} (located : p.Located q t) (fits : p.Fits t.services) :
      Course (p.opening ++ [.read])
  | made {t : Target} {source : String} {n : Nat} {moves : List Move} (located : p.Located q t)
      (fits : p.Fits t.services) (reads : (q.reader q.input).outcome = .ok source)
      (begins : moves <+: making q ++ List.replicate n .diagnose ++ [.write]) :
      Course (p.opening ++ .read :: moves)

variable {p q}

/-! ### The moves of the stages -/

/-- A generator is created, asked and closed, in this order. -/
theorem generateCode_moves {t : Target} (h : q.provider = .ok t.services) (source : String) :
    Journal.moves (generateCode q t source).journal = making q := by
  rw [making, Request.handsOut_of_provided h]
  cases hcreate : t.services.create with
  | error f =>
    rw [generateCode_of_not_created q t hcreate]
    rfl
  | ok generator =>
    rw [generateCode_of_created q t hcreate]
    rfl

/-- A dependency message moves by writing at most. -/
theorem writeMessage_moves (r : Renderer) (output : String) (message : Except Fault String) :
    Journal.moves (p.writeMessage q r output message).journal <+: [.write] := by
  refine (Part.Follows.silent_bind (.of_eq rfl) fun text _ => ?_).begins
  apply Part.Follows.silent_bind (.of_eq rfl)
  intro content _
  refine Part.Follows.bind_silent (.of_eq ?_) fun _ _ => .of_eq rfl
  exact Part.filterMap_askLogged (fun _ => rfl) _ _

theorem giveUp_moves (channel : Channel) (trouble : String) (f : Fault) :
    Journal.moves (p.giveUp channel trouble f).journal = [] :=
  p.giveUp_unseen (fun _ hs => hs.move?_eq_none) rfl channel trouble

section Proceed

variable {α : Type} {channel : Channel} {trouble : String} {part : Part α} {next : α → Run}

theorem proceed_moves_of_ok {a : α} (h : part.outcome = .ok a) :
    Journal.moves (p.proceed channel trouble part next).journal =
      Journal.moves part.journal ++ Journal.moves (next a).journal := by
  rw [proceed_of_ok h, Journal.moves_after]

theorem proceed_moves_of_error {f : Fault} (h : part.outcome = .error f) :
    Journal.moves (p.proceed channel trouble part next).journal = Journal.moves part.journal := by
  rw [proceed_of_error h, Journal.moves_after, giveUp_moves, List.append_nil]

end Proceed

/-! ### The moves of a run -/

/-- Publishing emits the diagnostics and then writes, perhaps up to some point only. -/
theorem publish_moves (t : Target) (channel : Channel) (content : Content) :
    Journal.moves (p.publish q t channel content).journal <+:
      List.replicate content.diagnostics.length .diagnose ++ [.write] := by
  obtain ⟨begins, completes⟩ := p.announce_moves content.diagnostics channel
  rw [Journal.moves] at begins completes ⊢
  rw [publish_filterMap (fun _ hs => hs.move?_eq_none) (fun _ => rfl)]
  split
  · next returned =>
    rw [completes returned]
    exact List.prefix_rfl
  · rw [List.append_nil]
    exact begins.trans (List.prefix_append _ _)

/-- What follows the generator emits diagnostics and writes. -/
theorem finish_moves (t : Target) (channel : Channel) (code : Except Fault GenerationResult) :
    ∃ n, Journal.moves (p.finish q t channel code).journal <+:
      List.replicate n .diagnose ++ [.write] := by
  have quiet : Journal.moves (p.contentOf q t code).journal = [] :=
    Journal.filterMap_eq_nil (fun _ hs => hs.move?_eq_none) (contentOf_isRendering code)
  cases h : (p.contentOf q t code).outcome with
  | error f =>
    refine ⟨0, ?_⟩
    rw [finish, proceed_moves_of_error h, quiet]
    exact List.nil_prefix
  | ok content =>
    refine ⟨content.diagnostics.length, ?_⟩
    rw [finish, proceed_moves_of_ok h, quiet]
    exact publish_moves t channel content

/-- A generation makes the code, emits and writes, perhaps up to some point only. -/
theorem generate_moves {t : Target} (h : q.provider = .ok t.services) (channel : Channel)
    (source : String) :
    ∃ n, Journal.moves (p.generate q t channel source).journal <+:
      making q ++ List.replicate n .diagnose ++ [.write] := by
  obtain ⟨n, begins⟩ := finish_moves (p := p) (q := q) t channel (generateCode q t source).outcome
  refine ⟨n, ?_⟩
  rw [generate_eq_finish, Journal.moves_after, generateCode_moves h, List.append_assoc]
  exact (List.prefix_append_right_inj _).mpr begins

/-- A run with an open gate takes its course from the opening on. -/
theorem readAndGenerate_course {t : Target} (located : p.Located q t) (fits : p.Fits t.services)
    (channel : Channel) :
    p.Course q (p.opening ++ Journal.moves (p.readAndGenerate q channel t).journal) := by
  have reading : Journal.moves (Part.askLogged (.read q.input) (q.reader q.input)).journal =
      [.read] := Part.filterMap_askLogged (fun _ => rfl) _ _
  cases h : (Part.askLogged (.read q.input) (q.reader q.input)).outcome with
  | error f =>
    rw [readAndGenerate, proceed_moves_of_error h, reading]
    exact .unread located fits
  | ok source =>
    obtain ⟨n, begins⟩ := generate_moves (p := p) located.services channel source
    rw [readAndGenerate, proceed_moves_of_ok h, reading]
    exact .made located fits h begins

/-- Every run takes its course. -/
theorem run_course (channel : Channel) : p.Course q (Journal.moves (p.run channel q).journal) := by
  rw [run, Journal.moves_after]
  have prepared := p.preparation q
  generalize p.prepare q = x at prepared
  cases prepared with
  | stuck _ begins asked unfit =>
    rw [proceed_moves_of_error rfl]
    exact .stuck begins asked unfit
  | ready _ moves located fits =>
    rw [proceed_moves_of_ok rfl, moves]
    exact readAndGenerate_course located fits channel
  | @shut steps t message _ moves located closed =>
    let writing := p.writeMessage q t.renderer t.output message
    have begins : Journal.moves writing.journal <+: [.write] := writeMessage_moves _ _ _
    have moves_eq : Journal.moves (writing.after steps).journal =
        p.opening ++ Journal.moves writing.journal := moves ▸ List.filterMap_append
    cases h : (writing.after steps).outcome with
    | error f =>
      rw [proceed_moves_of_error h, moves_eq]
      exact .shut located closed begins
    | ok found =>
      rw [proceed_moves_of_ok h, moves_eq]
      cases found with
      | ready t' => exact absurd h (p.writeMessage_not_ready q)
      | written path =>
        rw [show Journal.moves (_ : Run).journal = [] from rfl, List.append_nil]
        exact .shut located closed begins

/-! ### What follows from the course -/

/-- The gate is shut for the request if it is shut for the services that are found. -/
theorem isShut_iff {t : Target} (located : p.Located q t) : p.IsShut q ↔ p.Shut t.services := by
  refine or_congr_right ⟨?_, ?_⟩
  · rintro ⟨declared, services, actual, hdeclared, hservices, hactual, differs⟩
    cases hservices.symm.trans located.services
    exact ⟨declared, actual, hdeclared, hactual, differs⟩
  · rintro ⟨declared, actual, hdeclared, hactual, differs⟩
    exact ⟨declared, t.services, actual, hdeclared, located.services, hactual, differs⟩

theorem opening_of_open (h : ¬ p.IsShut q) :
    p.opening = [.provideServices, .projectSettings, .generatorVersion] := by
  cases hdeclared : p.project.referenced? with
  | none => exact absurd (.inl hdeclared) h
  | some declared => exact opening_of_referenced hdeclared

/-- The opening has three kinds of moves at most. -/
theorem not_mem_opening {m : Move}
    (h : m ∉ [Move.provideServices, .projectSettings, .generatorVersion]) : m ∉ p.opening := by
  have begins : p.opening <+: [.provideServices, .projectSettings, .generatorVersion] := by
    unfold opening
    split
    · exact List.prefix_rfl
    · exact ⟨[.generatorVersion], rfl⟩
  exact fun mem => h (begins.subset mem)

theorem not_mem_of_making {moves : List Move} {n : Nat} {m : Move}
    (begins : moves <+: making q ++ List.replicate n .diagnose ++ [.write])
    (h : m ∉ [Move.createGenerator, .generate, .close, .diagnose, .write]) : m ∉ moves := by
  intro mem
  have later := begins.subset mem
  unfold making at later
  split at later <;> simp_all [List.mem_replicate]

/-- What ends with something that came nowhere before has it once. -/
theorem eq_nil_of_prefix_concat {α : Type} {a : α} {l rest before after : List α}
    (h : l <+: rest ++ [a]) (ha : a ∉ rest) (hl : l = before ++ a :: after) : after = [] := by
  -- the piece is the whole list, with `a` at its end, or lies within `rest`, where `a` is not
  rcases List.prefix_concat_iff.mp h with eq | begins
  · rcases List.eq_nil_or_concat after with nil | ⟨init, b, rfl⟩
    · exact nil
    · have whole : rest ++ [a] = before ++ a :: init ++ [b] := by
        rw [← eq, hl, List.concat_eq_append, List.append_assoc]
        rfl
      have rest_eq := List.append_inj_left' whole rfl
      exact absurd (rest_eq ▸ List.mem_append_right _ List.mem_cons_self) ha
  · exact absurd (begins.subset (hl ▸ List.mem_append_right _ List.mem_cons_self)) ha

section Course

variable {moves : List Move} (h : p.Course q moves)
include h

/-- Behind a shut gate there is nothing to do but to write. -/
theorem Course.begins_of_shut (closed : p.IsShut q) : moves <+: p.opening ++ [.write] := by
  cases h with
  | stuck begins => exact begins.trans (List.prefix_append _ _)
  | shut _ _ begins => exact (List.prefix_append_right_inj _).mpr begins
  | unread located fits => exact absurd ((isShut_iff located).mp closed) fits.not_shut
  | made located fits => exact absurd ((isShut_iff located).mp closed) fits.not_shut

/-- Behind an open gate a run makes all its moves in order, perhaps up to some point only. -/
theorem Course.begins_of_open (opened : ¬ p.IsShut q) : ∃ n, moves <+: full q n := by
  have full_eq : ∀ n, full q n =
      p.opening ++ .read :: (making q ++ List.replicate n .diagnose ++ [.write]) := by
    intro n
    simp [full, opening_of_open opened]
  cases h with
  | stuck begins => exact ⟨0, full_eq 0 ▸ begins.trans (List.prefix_append _ _)⟩
  | shut located closed => exact absurd ((isShut_iff located).mpr closed) opened
  | unread =>
    refine ⟨0, full_eq 0 ▸ (List.prefix_append_right_inj _).mpr ?_⟩
    exact (List.prefix_cons_inj _).mpr List.nil_prefix
  | @made _ _ n _ _ _ _ begins =>
    refine ⟨n, full_eq n ▸ (List.prefix_append_right_inj _).mpr ?_⟩
    exact (List.prefix_cons_inj _).mpr begins

/-- The version is asked for where a project that references the framework is found. -/
theorem Course.asked : .generatorVersion ∈ moves ↔
    p.project.referenced?.isSome ∧ ∃ t, p.Located q t := by
  have early : ∀ {t : Target} {rest : List Move}, p.Located q t → .generatorVersion ∉ rest →
      (.generatorVersion ∈ p.opening ++ rest ↔
        p.project.referenced?.isSome ∧ ∃ t, p.Located q t) := by
    intro t rest located absent
    rw [List.mem_append, or_iff_left absent, generatorVersion_mem_opening,
      and_iff_left ⟨t, located⟩]
  cases h with
  | stuck _ asked => exact asked
  | shut located _ begins => exact early located fun mem => by simpa using begins.subset mem
  | unread located => exact early located (by simp)
  | made located _ _ begins =>
    apply early located
    intro mem
    rcases List.mem_cons.mp mem with eq | mem
    · cases eq
    · exact not_mem_of_making begins (by decide) mem

/-- The input is read where the gate is open. -/
theorem Course.read_iff : .read ∈ moves ↔ ∃ t, p.Located q t ∧ p.Fits t.services := by
  have early : .read ∉ p.opening := not_mem_opening (by decide)
  cases h with
  | stuck begins _ unfit =>
    refine iff_of_false (fun mem => early (begins.subset mem)) ?_
    rintro ⟨t, located, fits⟩
    exact unfit t located fits
  | @shut t rest located closed begins =>
    refine iff_of_false (fun mem => ?_) ?_
    · rcases List.mem_append.mp mem with mem | mem
      · exact early mem
      · simpa using begins.subset mem
    · rintro ⟨t', located', fits⟩
      exact (located'.services_eq located ▸ fits).not_shut closed
  | unread located fits => exact iff_of_true (by simp) ⟨_, located, fits⟩
  | made located fits => exact iff_of_true (by simp) ⟨_, located, fits⟩

/-- No generator is created without the input's text. -/
theorem Course.created (mem : .createGenerator ∈ moves) :
    ∃ source, (q.reader q.input).outcome = .ok source := by
  have early : .createGenerator ∉ p.opening := not_mem_opening (by decide)
  cases h with
  | stuck begins => exact absurd (begins.subset mem) early
  | shut _ _ begins =>
    have late := (List.mem_append.mp mem).resolve_left early
    simpa using begins.subset late
  | unread =>
    have late := (List.mem_append.mp mem).resolve_left early
    simp at late
  | made _ _ reads => exact ⟨_, reads⟩

/-- The input is read once at most. -/
theorem Course.read_once : moves.count .read ≤ 1 := by
  have early : p.opening.count .read = 0 :=
    List.count_eq_zero.mpr (not_mem_opening (by decide))
  cases h with
  | stuck begins => exact (begins.sublist.count_le _).trans (early ▸ Nat.zero_le 1)
  | shut _ _ begins =>
    rw [List.count_append, early, Nat.zero_add]
    exact (begins.sublist.count_le _).trans (by decide)
  | unread =>
    rw [List.count_append, early]
    decide
  | made _ _ _ begins =>
    rw [List.count_append, early, List.count_cons_self,
      List.count_eq_zero.mpr (not_mem_of_making begins (by decide))]

/-- Behind a shut gate nothing is read or generated. -/
theorem Course.stopped (closed : p.IsShut q) :
    ∀ m ∈ [Move.read, .createGenerator, .generate, .close, .diagnose], m ∉ moves := by
  have behind : ∀ m ∈ [Move.read, .createGenerator, .generate, .close, .diagnose],
      m ∉ [Move.provideServices, .projectSettings, .generatorVersion] := by decide
  intro m hm mem
  rcases List.mem_append.mp ((h.begins_of_shut closed).subset mem) with mem | mem
  · exact not_mem_opening (behind m hm) mem
  · cases List.mem_singleton.mp mem
    simp at hm

/-- Nothing comes after writing. -/
theorem Course.last {before after : List Move} (hmoves : moves = before ++ .write :: after) :
    after = [] := by
  have early : .write ∉ p.opening := not_mem_opening (by decide)
  by_cases closed : p.IsShut q
  · exact eq_nil_of_prefix_concat (h.begins_of_shut closed) early hmoves
  · obtain ⟨n, begins⟩ := h.begins_of_open closed
    refine eq_nil_of_prefix_concat begins (fun mem => ?_) hmoves
    simp only [making] at mem
    split at mem <;> simp [List.mem_replicate] at mem

end Course

/-- In every run, the calls of collaborators and the diagnostics emitted come in order. -/
theorem run_order (p : ProjectSetup) (channel : Channel) (q : Request) :
    p.Orderly q (Journal.moves (p.run channel q).journal) :=
  have course := run_course channel
  { shut := course.begins_of_shut
    opened := course.begins_of_open
    asked := course.asked
    read_iff := course.read_iff
    read_once := course.read_once
    created := course.created
    stopped := course.stopped
    last := fun _ _ => course.last }

end ProjectSetup

end CodeBehind
