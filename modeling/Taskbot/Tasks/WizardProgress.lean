import Mathlib
import Taskbot.Projects.PostProject
import Taskbot.Tasks.PostTask

/-!
# Moving on in a wizard

Both wizards, `PostTask` and `PostProject`, show the next step when the server has
accepted the one before.

* `TaskWizard` — the store of the task wizard, the screen of the step shown with its busy
  flag, and the saves on their way; for a new task, or for one that is edited, in which
  case the circles of the steps can be tapped.
* `TaskWizard.Respects`, `PostProject.Respects` — a save leaves the store as it is, and so
  does an answer that is no success, which clears the busy flag.
* `progress_iff` — **the task wizard moves on with successes only if and only if no other
  answer to the third step comes before the fourth is shown; the project wizard always
  does.**
-/

open Async

namespace TaskWizard

/-! ## The task wizard -/

/-- A save on its way. -/
structure Save where
  kind : PostTask.Kind
  /-- The screen that has sent it. -/
  component : ℕ
  deriving DecidableEq

/-- The ways into the wizard. -/
inductive Entry where
  /-- "Create task" in the drawer. -/
  | create
  /-- `editTask` of a card. -/
  | editTask (task_id : ℕ)
  deriving DecidableEq

/-- The state of the wizard. -/
structure State where
  step : ℕ
  taskId : Option ℕ
  /-- Has the route a task? -/
  edit : Bool
  mounted : Mounted
  /-- The saves sent and not yet answered. -/
  inFlight : List Save
  deriving DecidableEq

/-- What comes back for a save. -/
inductive Reply where
  /-- `type == 'success'`, with the id of the task. -/
  | success (task_id : ℕ)
  | error
  /-- Any other `type`. -/
  | other
  /-- The `catch` branch. -/
  | failure
  deriving DecidableEq

/-- What can happen to the wizard. -/
inductive Event where
  /-- It is entered again. -/
  | enter (entry : Entry)
  /-- A tap on the circle of a step. -/
  | handelSelectedStep (index : ℕ)
  /-- A save of the step shown.  It may end without a request: an exception while the
  request is built, or a first package that is not complete. -/
  | save (kind : PostTask.Kind) (sends : Bool)
  /-- The save at place `i` of those in flight is answered. -/
  | reply (i : ℕ) (r : Reply)
  deriving DecidableEq

/-- The step on which a save can be made. -/
def stepOf : PostTask.Kind → ℕ
  | .stepOne => 0
  | .stepTwo | .addOn => 1
  | .stepThree => 2
  | .stepFour => 3

/-- `dispatch(updateStep(step))`. -/
def updateStep (s : State) (step : ℕ) : State :=
  if step = s.step then s else { s with step := step, mounted := s.mounted.replace }

/-- The wizard is entered, on its first step. -/
def enter (s : State) (entry : Entry) : State :=
  { s with
    step := 0
    taskId :=
      match entry with
      | .create => none
      | .editTask task_id => some task_id
    edit :=
      match entry with
      | .create => false
      | .editTask _ => true
    mounted := s.mounted.replace }

/-- A save: the busy flag is set first. -/
def save (s : State) (kind : PostTask.Kind) (sends : Bool) : State :=
  { s with
    mounted := s.mounted.start
    inFlight := if sends then s.inFlight ++ [⟨kind, s.mounted.serial⟩] else s.inFlight }

/-- The handlers of the replies, after the busy flag is cleared.  The one of the third
step does not look at the `type`. -/
def answered (s : State) : PostTask.Kind → Reply → State
  | .stepOne, .success task_id => updateStep { s with taskId := some task_id } 1
  | .stepTwo, .success _ => updateStep s 2
  | .stepThree, .success _ | .stepThree, .error | .stepThree, .other => updateStep s 3
  | .stepThree, .failure => s
  | .stepOne, .error | .stepOne, .other | .stepOne, .failure => s
  | .stepTwo, .error | .stepTwo, .other | .stepTwo, .failure => s
  | .addOn, _ | .stepFour, _ => s

/-- The handlers of the replies. -/
def replied (s : State) (q : Save) (r : Reply) : State :=
  answered { s with mounted := s.mounted.finish q.component } q.kind r

/-- One event. -/
def step (s : State) : Event → Option State
  | .enter entry => some (enter s entry)
  | .handelSelectedStep index => if s.edit ∧ index < 4 then some (updateStep s index) else none
  | .save kind sends => if s.step = stepOf kind then some (save s kind sends) else none
  | .reply i r =>
    s.inFlight[i]?.map fun q => replied { s with inFlight := s.inFlight.eraseIdx i } q r

/-- The wizard, just entered. -/
def machine (entry : Entry) : Machine State Event :=
  ⟨enter ⟨0, none, false, .first, []⟩ entry, step⟩

/-! ## Successes and other answers -/

/-- Is it a success? -/
def Reply.isSuccess : Reply → Bool
  | success _ => true
  | error | other | failure => false

/-- A save leaves the store as it is.  So do an answer that is no success, and a failure,
and the screen of the save is not busy any more. -/
def Respects (s : State) (e : Event) (t : State) : Prop :=
  match e with
  | .save _ _ => t.step = s.step ∧ t.taskId = s.taskId
  | .reply i r => r.isSuccess = false → ∀ q ∈ s.inFlight[i]?,
      t.step = s.step ∧ t.taskId = s.taskId ∧ ¬ t.mounted.BusyOf q.component
  | .enter _ | .handelSelectedStep _ => True

/-- What a step must meet. -/
def StepOk (s : State) : Event → Prop
  | .reply i .error | .reply i .other => ∀ q ∈ s.inFlight[i]?, q.kind = .stepThree → s.step = 3
  | _ => True

instance (s : State) (e : Event) : Decidable (StepOk s e) := by
  unfold StepOk
  split <;> infer_instance

@[simp] theorem updateStep_step (s : State) (k : ℕ) : (updateStep s k).step = k := by
  unfold updateStep
  split
  · rename_i hk
    exact hk.symm
  · rfl

@[simp] theorem updateStep_taskId (s : State) (k : ℕ) : (updateStep s k).taskId = s.taskId := by
  unfold updateStep
  split <;> rfl

/-- A screen that is not busy is not busy after another step is shown. -/
theorem not_busyOf_updateStep {s : State} {i : ℕ} (h : ¬ s.mounted.BusyOf i) (k : ℕ) :
    ¬ (updateStep s k).mounted.BusyOf i := by
  unfold updateStep
  split
  · exact h
  · exact Mounted.not_busyOf_replace _ _

/-- An answer that is no success moves the wizard only when it is one to the third
step. -/
theorem answered_of_not_success (s : State) (kind : PostTask.Kind) {r : Reply}
    (h : r.isSuccess = false) :
    answered s kind r = if kind = .stepThree ∧ r ≠ .failure then updateStep s 3 else s := by
  cases kind <;> cases r <;> simp [answered, Reply.isSuccess] at h ⊢

/-- **One answer.**  It respects the rule exactly when it is no answer to the third step,
or comes when the fourth is shown. -/
theorem respects_reply_iff {s : State} {i : ℕ} {q : Save} (hq : s.inFlight[i]? = some q)
    {r : Reply} (h : r.isSuccess = false) :
    (q.kind = .stepThree → r ≠ .failure → s.step = 3) ↔
      Respects s (.reply i r) (replied { s with inFlight := s.inFlight.eraseIdx i } q r) := by
  have hfinish : ¬ (s.mounted.finish q.component).BusyOf q.component :=
    Mounted.not_busyOf_finish _ _
  simp only [Respects, h, hq, Option.mem_def, Option.some.injEq, forall_eq', true_imp_iff, replied]
  rw [answered_of_not_success _ _ h]
  by_cases hthree : q.kind = .stepThree ∧ r ≠ .failure
  · rw [if_pos hthree, updateStep_step, updateStep_taskId]
    constructor
    · intro hok
      exact ⟨(hok hthree.1 hthree.2).symm, rfl, not_busyOf_updateStep hfinish 3⟩
    · rintro ⟨hstep, -⟩ _ _
      exact hstep.symm
  · rw [if_neg hthree]
    exact iff_of_true (fun hkind hr => absurd ⟨hkind, hr⟩ hthree) ⟨rfl, rfl, hfinish⟩

/-- **One step.** -/
theorem respects_step_iff (s : State) (e : Event) :
    StepOk s e ↔ ∀ t, step s e = some t → Respects s e t := by
  cases e with
  | enter entry | handelSelectedStep index =>
    exact iff_of_true trivial fun _ _ => trivial
  | save kind sends =>
    refine iff_of_true trivial fun t ht => ?_
    obtain ⟨-, ⟨⟩⟩ := Option.ite_none_right_eq_some.1 ht
    exact ⟨rfl, rfl⟩
  | reply i r =>
    cases hq : s.inFlight[i]? with
    | none =>
      refine iff_of_true ?_ fun t ht => ?_
      · cases r <;> simp [StepOk, hq]
      · simp [step, hq] at ht
    | some q =>
      have hstep : (∀ t, step s (.reply i r) = some t → Respects s (.reply i r) t) ↔
          Respects s (.reply i r)
            (replied { s with inFlight := s.inFlight.eraseIdx i } q r) := by
        simp [step, hq]
      rw [hstep]
      cases r with
      | success task_id => exact iff_of_true trivial fun hr => (nomatch hr)
      | failure => exact iff_of_true trivial ((respects_reply_iff hq rfl).1 fun _ hr => absurd rfl hr)
      | error => simpa [StepOk, hq] using respects_reply_iff (r := .error) hq rfl
      | other => simpa [StepOk, hq] using respects_reply_iff (r := .other) hq rfl

end TaskWizard

namespace PostProject

/-! ## The project wizard -/

/-- Is it a success? -/
def Reply.isSuccess : Reply → Bool
  | success _ => true
  | error | other | failure => false

/-- A save leaves the store as it is.  So do an answer that is no success, and a failure,
and the screen of the save is not busy any more. -/
def Respects (s : State) (e : Event) (t : State) : Prop :=
  match e with
  | .saveStepOne _ | .saveStepTwo _ =>
    t.step = s.step ∧ t.postedItemOne = s.postedItemOne ∧ t.postedItemTwo = s.postedItemTwo
  | .reply i r => r.isSuccess = false → ∀ q ∈ s.inFlight[i]?,
      t.step = s.step ∧ t.postedItemOne = s.postedItemOne ∧ t.postedItemTwo = s.postedItemTwo ∧
        ¬ t.mounted.BusyOf q.component
  | .enter _ | .goBack | .loadMoreRecommendedFreelancer | .sendInvite => True

/-- Every step respects the rule. -/
theorem respects_step {s t : State} {e : Event} (h : step s e = some t) : Respects s e t := by
  cases e with
  | enter entry | goBack | loadMoreRecommendedFreelancer | sendInvite => trivial
  | saveStepOne fields | saveStepTwo item =>
    obtain ⟨-, ⟨⟩⟩ := Option.ite_none_right_eq_some.1 h
    exact ⟨rfl, rfl, rfl⟩
  | reply i r =>
    intro hr q hq
    obtain ⟨q', hq', rfl⟩ := Option.map_eq_some_iff.1 h
    obtain rfl : q' = q := Option.mem_unique hq' hq
    have hfinish := Mounted.not_busyOf_finish s.mounted q'.component
    cases r with
    | success post_id => cases hr
    | error | other | failure => exact ⟨rfl, rfl, rfl, hfinish⟩

end PostProject

namespace TaskWizard

/-! ## Runs -/

/-- **Moving on.**  In every run of the task wizard all steps respect the rule if and only
if an answer to the third step that is no success comes while the fourth is shown; in
every run of the project wizard all steps do. -/
theorem progress_iff (entry : Entry) (es : List Event) (draft : PostProject.Entry)
    (ds : List PostProject.Event) :
    ((machine entry).Meets StepOk es ↔
      ∀ fs e, fs ++ [e] <+: es → ∀ s t, (machine entry).run fs = some s →
        step s e = some t → Respects s e t) ∧
    ∀ e s t, (PostProject.machine draft).run ds = some s → PostProject.step s e = some t →
      PostProject.Respects s e t := by
  constructor
  · rw [Machine.meets_iff_forall]
    constructor
    · intro hall fs e hfs s t hs ht
      exact (respects_step_iff s e).1 (hall fs e hfs s hs) t ht
    · intro hall fs e hfs s hs
      exact (respects_step_iff s e).2 fun t ht => hall fs e hfs s t hs ht
  · intro e s t _ ht
    exact PostProject.respects_step ht

/-- The first two steps of a new task, the second saved twice: the first answer is an
error. -/
def twoSteps : List Event :=
  [.save .stepOne true, .reply 0 (.success 7), .save .stepTwo true, .reply 0 .error,
    .save .stepTwo true, .reply 0 (.success 7)]

/-- A form of the first step of a project, left empty. -/
def emptyForm : PostProject.FieldsOne := ⟨"", "", "", "", "", "", "", "", "", "", "", "", []⟩

/-- Those steps respect the rule, and so does a failure of the first step of a project. -/
theorem progress_sample :
    (∀ fs e, fs ++ [e] <+: twoSteps → ∀ s t, (machine .create).run fs = some s →
      step s e = some t → Respects s e t) ∧
    ∃ s t, (PostProject.machine .startNewProject).run [.saveStepOne emptyForm] = some s ∧
      PostProject.step s (.reply 0 .failure) = some t ∧
      PostProject.Respects s (.reply 0 .failure) t := by
  have hok : (machine .create).Meets StepOk twoSteps := by decide
  obtain ⟨htask, hproject⟩ :=
    progress_iff .create twoSteps .startNewProject [.saveStepOne emptyForm]
  exact ⟨htask.1 hok, _, _, rfl, rfl, hproject (.reply 0 .failure) _ _ rfl rfl⟩

/-- **A step that is not saved is skipped.**  The server refuses the third step, and the
wizard shows the fourth. -/
theorem not_respects_sample :
    ∃ s t, (machine .create).run (twoSteps ++ [.save .stepThree true]) = some s ∧
      step s (.reply 0 .error) = some t ∧ s.step = 2 ∧ t.step = 3 ∧
      ¬ Respects s (.reply 0 .error) t := by
  refine ⟨_, _, rfl, rfl, rfl, rfl, fun h => ?_⟩
  have hstep := (h rfl ⟨.stepThree, 3⟩ rfl).1
  exact absurd hstep (by decide)

end TaskWizard
