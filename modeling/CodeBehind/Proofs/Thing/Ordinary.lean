import CodeBehind.Proofs.Generation.Part
import CodeBehind.Thing.Call
import CodeBehind.Thing.Operator

/-!
Faults of things.

Whatever a thing is asked, called with or put together with, it answers or raises a fault that lets
the program go on (`call_onlyOrdinary`, `apply_onlyOrdinary`, `holds_onlyOrdinary`). There is one
lemma for each way to answer, and the simp set below settles its cases.
-/

namespace CodeBehind

/-! ### Simple cases -/

@[simp] theorem Fault.builtin_isOrdinary (name text : String) :
    (Fault.builtin name text).isOrdinary = true := rfl

@[simp] theorem VersionError.fault_isOrdinary (e : VersionError) : e.fault.isOrdinary = true := rfl

namespace OnlyOrdinary

variable {α : Type}

@[simp] theorem ok_iff (a : α) : OnlyOrdinary (.ok a) ↔ True :=
  iff_true_intro (.ok a)

@[simp] theorem error_iff (f : Fault) :
    OnlyOrdinary (.error f : Except Fault α) ↔ f.isOrdinary = true :=
  ⟨fun h => h f rfl, .error⟩

@[simp] theorem ite_iff {c : Prop} [Decidable c] {x y : Except Fault α} :
    OnlyOrdinary (if c then x else y) ↔ (c → OnlyOrdinary x) ∧ (¬c → OnlyOrdinary y) := by
  split <;> simp_all

theorem map {β : Type} {x : Except Fault α} (h : OnlyOrdinary x) (g : α → β) :
    OnlyOrdinary (x.map g) :=
  h.bind fun _ _ => .ok _

theorem mapError {ε : Type} {fault : ε → Fault} (h : ∀ e, (fault e).isOrdinary = true)
    (x : Except ε α) : OnlyOrdinary (x.mapError fault) := by
  cases x with
  | ok a => exact .ok a
  | error e => exact .error (h e)

end OnlyOrdinary

namespace Thing

@[simp] theorem unsuitable_isOrdinary (text : String) : (unsuitable text).isOrdinary = true := rfl

@[simp] theorem zeroDivision_isOrdinary (text : String) :
    (zeroDivision text).isOrdinary = true := rfl

@[simp] theorem inapplicable_isOrdinary (op : Operator) (a b : Thing) :
    (inapplicable op a b).isOrdinary = true := rfl

@[simp] theorem unknownArgument_isOrdinary (method name : String) :
    (unknownArgument method name).isOrdinary = true := rfl

@[simp] theorem doubleArgument_isOrdinary (method name : String) :
    (doubleArgument method name).isOrdinary = true := rfl

/-! ### Texts -/

theorem ifWritable_onlyOrdinary (t : Thing) (text : String) :
    OnlyOrdinary (t.ifWritable text) := by
  unfold ifWritable
  split
  · exact .ok text
  · exact .error rfl

/-- A thing has its text unless some number in it is too long. -/
theorem shown_onlyOrdinary (t : Thing) : OnlyOrdinary t.shown :=
  t.ifWritable_onlyOrdinary t.display

/-! ### Methods -/

/-- What is answered, if anything is, is a thing or an ordinary fault. -/
def Answers (answer? : Option (Except Fault Thing)) : Prop :=
  OnlyOrdinary (answer?.getD (.ok (.value .null)))

@[simp] theorem answers_none_iff : Answers none ↔ True :=
  iff_true_intro (.ok _)

@[simp] theorem answers_some_iff (x : Except Fault Thing) : Answers (some x) ↔ OnlyOrdinary x :=
  Iff.rfl

/-- An answer, or else the common one, is ordinary if both are. -/
theorem Answers.getD {answer? : Option (Except Fault Thing)} (h : Answers answer?)
    {common : Except Fault Thing} (hcommon : OnlyOrdinary common) :
    OnlyOrdinary (answer?.getD common) := by
  cases answer? with
  | none => exact hcommon
  | some x => exact h

theorem intAnswer?_answers (n : Int) (name : String) : Answers (intAnswer? n name) := by
  unfold intAnswer?
  split <;> simp

theorem rounded_onlyOrdinary (x : Number.Binary64) (round : Int → Nat → Int) :
    OnlyOrdinary (rounded x round) := by
  unfold rounded
  split <;> simp

theorem floatAnswer?_answers (x : Number.Binary64) (name : String) :
    Answers (floatAnswer? x name) := by
  unfold floatAnswer?
  split <;> simp [rounded_onlyOrdinary]
  split <;> simp

theorem listAnswer?_answers (xs : List Value) (name : String) : Answers (listAnswer? xs name) := by
  unfold listAnswer?
  split <;> simp
  split <;> simp

theorem dictionaryAnswer?_answers (d : Entries) (name : String) :
    Answers (dictionaryAnswer? d name) := by
  unfold dictionaryAnswer?
  split <;> simp
  split <;> simp

/-- What every thing answers is a thing or an ordinary fault. -/
theorem commonAnswer_onlyOrdinary (t : Thing) (name : String) :
    OnlyOrdinary (t.commonAnswer name) := by
  unfold commonAnswer
  split
  · exact (t.ifWritable_onlyOrdinary t.literal).map _
  · exact t.shown_onlyOrdinary.map _
  all_goals first | exact .ok _ | (split <;> exact .ok _)

/-- What a method without arguments answers is a thing or an ordinary fault. -/
theorem answer_onlyOrdinary (t : Thing) (name : String) : OnlyOrdinary (t.answer name) := by
  unfold answer
  refine Answers.getD ?_ (t.commonAnswer_onlyOrdinary name)
  split
  · cases textAnswer? _ name <;> simp
  · exact intAnswer?_answers _ _
  · exact intAnswer?_answers _ _
  · exact floatAnswer?_answers _ _
  · exact listAnswer?_answers _ _
  · exact dictionaryAnswer?_answers _ _
  · exact dictionaryAnswer?_answers _ _
  · simp

/-! ### Calls -/

theorem versionText_onlyOrdinary (v : Version) (fields : Thing) :
    OnlyOrdinary (versionText v fields) := by
  have shown : ∀ n, OnlyOrdinary (do
      return Thing.value (.text (← (v.textWith n).mapError VersionError.fault))) := fun n =>
    (OnlyOrdinary.mapError VersionError.fault_isOrdinary _).bind fun _ _ => .ok _
  unfold versionText
  split
  · exact shown _
  · exact shown _
  · simp
  · simp

theorem callToString_onlyOrdinary (v : Version) (a : Arguments) :
    OnlyOrdinary (callToString v a) := by
  unfold callToString
  split
  · exact versionText_onlyOrdinary _ _
  · exact versionText_onlyOrdinary _ _
  · split
    · split
      · simp
      · split
        · exact versionText_onlyOrdinary _ _
        · simp
    · simp
  · simp

/-- Reading a version in a template raises ordinary faults only. -/
theorem callParse_onlyOrdinary (a : Arguments) : OnlyOrdinary (callParse a) := by
  unfold callParse
  extract_lets read
  have reads : ∀ text, OnlyOrdinary (read text) := by
    intro text
    dsimp only [read]
    split
    · exact (OnlyOrdinary.mapError VersionError.fault_isOrdinary _).bind fun _ _ => .ok _
    · simp
  split
  · simp
  · exact reads _
  · split
    · split
      · exact reads _
      · simp
    · simp
  · simp

theorem make_onlyOrdinary (path : String) : OnlyOrdinary (make path) := by
  unfold make
  split
  · simp
  · split <;> simp

theorem makeRange_onlyOrdinary (a : Arguments) : OnlyOrdinary (makeRange a) := by
  unfold makeRange
  dsimp only
  split
  · simp
  · split
    · exact make_onlyOrdinary _
    all_goals simp

/-- Calling a thing raises ordinary faults only. -/
theorem call_onlyOrdinary (t : Thing) (a : Arguments) : OnlyOrdinary (t.call a) := by
  fun_induction call t a with
  | case1 v => exact callToString_onlyOrdinary v a
  | case2 => exact callParse_onlyOrdinary a
  | case3 owner ih => exact ih
  | case4 => simp
  | case5 => exact answer_onlyOrdinary _ _
  | case6 => simp
  | case7 => exact makeRange_onlyOrdinary a
  | case8 => exact make_onlyOrdinary _
  | case9 => simp
  | case10 => simp

/-! ### Operators -/

theorem reckonInt_onlyOrdinary (op : Operator) (a b : Int) : OnlyOrdinary (reckonInt op a b) := by
  cases op <;> simp [reckonInt]

theorem reckonRatio_onlyOrdinary (op : Operator) (a b : Int × Nat) :
    OnlyOrdinary (reckonRatio op a b) := by
  cases op <;> simp [reckonRatio]

theorem repeatBy_onlyOrdinary (t times : Thing) : OnlyOrdinary (repeatBy t times) := by
  unfold repeatBy
  split
  · dsimp only
    split <;> simp
  · simp

/-- Putting things together raises ordinary faults only. -/
theorem combine_onlyOrdinary (op : Operator) (a b : Thing) : OnlyOrdinary (combine op a b) := by
  unfold combine
  split <;> simp [repeatBy_onlyOrdinary]

/-- Operators fail with ordinary faults only. -/
theorem apply_onlyOrdinary (op : Operator) (a b : Thing) : OnlyOrdinary (apply op a b) := by
  unfold apply
  split
  · exact a.shown_onlyOrdinary.bind fun _ _ => b.shown_onlyOrdinary.bind fun _ _ => .ok _
  · split
    · split
      · exact reckonInt_onlyOrdinary _ _ _
      · exact reckonRatio_onlyOrdinary _ _ _
      · exact combine_onlyOrdinary _ _ _
    · exact combine_onlyOrdinary _ _ _

/-- So do comparisons. -/
theorem holds_onlyOrdinary (c : Comparison) (a b : Thing) : OnlyOrdinary (holds c a b) := by
  unfold holds
  cases c <;> cases order? a b <;> simp

end Thing

end CodeBehind
