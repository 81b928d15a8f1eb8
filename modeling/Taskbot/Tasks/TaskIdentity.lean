import Mathlib
import Taskbot.Tasks.PostTask

/-!
# One task for one run of the wizard

* `Start`, `Later` — the wizard before the first step is saved, and after: from
  then on the store holds the one task the server has made.
* `StepOk` — no save of the first step while an earlier one is on its way, none that
  was accepted lost, and no late answer to the second step once the fourth is shown.
* `inv_step` — one step of such a run.
* `one_task` — **such a run makes one task, sends its id with everything after the
  first step, and never goes back a step.**
-/

namespace PostTask

/-! ## The two phases -/

/-- The first step is shown: nothing is on its way but at most one save of it,
and the server has made a task exactly when it has accepted that one. -/
structure Start (s : State) : Prop where
  step : s.step = 0
  taskId : s.taskId = none
  flight : (s.inFlight = [] ∧ s.created = []) ∨
    ∃ m, s.inFlight = [m] ∧ m.kind = .stepOne ∧ m.task_id = none ∧
      s.created = m.accepted.toList
  sent : ∀ q ∈ s.sent, q.1 = .stepOne

/-- A later step is shown: the store has the task the server has made, and whatever
is on its way carries it. -/
structure Later (id : ℕ) (s : State) : Prop where
  pos : 1 ≤ s.step
  le : s.step ≤ 3
  taskId : s.taskId = some id
  created : s.created = [id]
  flight : ∀ m ∈ s.inFlight, m.kind ≠ .stepOne ∧ m.task_id = some id
  sent : ∀ q ∈ s.sent, q.1 ≠ .stepOne → q.2 = some id

/-- The wizard is in one of the two phases. -/
def Inv (s : State) : Prop := Start s ∨ ∃ id, Later id s

/-- What a step must meet. -/
def StepOk (s : State) : Event → Prop
  | .saveUpdateStepOne => s.pending .stepOne = 0
  | .deliver i => ∀ m ∈ s.inFlight[i]?, m.kind = .stepTwo → m.accepted ≠ none → s.step ≠ 3
  | .fail i => ∀ m ∈ s.inFlight[i]?, m.kind = .stepOne → m.accepted = none
  | _ => True

instance (s : State) (e : Event) : Decidable (StepOk s e) := by
  cases e <;> unfold StepOk <;> infer_instance

/-! ## Sending -/

theorem start_send {s : State} (hs : Start s) (hok : s.pending .stepOne = 0) :
    Start (send s .stepOne) := by
  have hnil : s.inFlight = [] ∧ s.created = [] := by
    refine hs.flight.resolve_right ?_
    rintro ⟨m, hm, hkind, -⟩
    rw [State.pending, hm] at hok
    simp [hkind] at hok
  refine ⟨hs.step, hs.taskId, Or.inr ⟨⟨.stepOne, none, none⟩, ?_, rfl, rfl, hnil.2⟩, ?_⟩
  · rw [send, hnil.1, hs.taskId, List.nil_append]
  · intro q hq
    rcases List.mem_append.1 hq with hq | hq
    · exact hs.sent q hq
    · rw [List.mem_singleton.1 hq]

/-- A later step sends what it sends with the id. -/
theorem later_send {id : ℕ} {s : State} (hs : Later id s) {kind : Kind}
    (hone : kind ≠ .stepOne) : Later id (send s kind) := by
  refine ⟨hs.pos, hs.le, hs.taskId, hs.created, ?_, ?_⟩
  · intro m hm
    rcases List.mem_append.1 hm with hm | hm
    · exact hs.flight m hm
    · rw [List.mem_singleton.1 hm]
      exact ⟨hone, hs.taskId⟩
  · intro q hq hkind
    rcases List.mem_append.1 hq with hq | hq
    · exact hs.sent q hq hkind
    · rw [List.mem_singleton.1 hq]
      exact hs.taskId

/-! ## The server -/

/-- The one message of the first phase. -/
theorem start_message {s : State} (hs : Start s) {i : ℕ} {m : Message}
    (hm : s.inFlight[i]? = some m) :
    i = 0 ∧ s.inFlight = [m] ∧ m.kind = .stepOne ∧ m.task_id = none ∧
      s.created = m.accepted.toList := by
  rcases hs.flight with ⟨hnil, -⟩ | ⟨m', hflight, hm'⟩
  · rw [hnil] at hm
    cases hm
  · rw [hflight] at hm
    cases i with
    | zero =>
      obtain rfl := Option.some.inj hm
      exact ⟨rfl, hflight, hm'⟩
    | succ i => cases hm

theorem accepted_of_answer_eq_none {m : Message} (h : m.answer = none) : m.accepted = none := by
  obtain ⟨kind, task_id, answer⟩ := m
  cases h
  rfl

theorem start_served {s : State} (hs : Start s) {i : ℕ} {m : Message}
    (hm : s.inFlight[i]? = some m) (hanswer : m.answer = none) (accept : Bool) (newId : ℕ) :
    Start (served s i m accept newId) := by
  obtain ⟨rfl, hflight, hkind, hid, hcreated⟩ := start_message hs hm
  rw [accepted_of_answer_eq_none hanswer] at hcreated
  cases accept with
  | true =>
    refine ⟨hs.step, hs.taskId, Or.inr
      ⟨{ m with answer := some (.success (m.task_id.getD newId)) }, ?_, hkind, hid, ?_⟩, hs.sent⟩
    · simp only [served, if_true, hflight, List.set_cons_zero]
    · simp [served, Message.creates, hkind, hid, hcreated, Message.accepted]
  | false =>
    refine ⟨hs.step, hs.taskId, Or.inr
      ⟨{ m with answer := some .error }, ?_, hkind, hid, ?_⟩, hs.sent⟩
    · simp only [served, Bool.false_eq_true, if_false, hflight, List.set_cons_zero]
    · simp [served, hcreated, Message.accepted]

/-- Later the server makes no task: every request carries an id. -/
theorem later_served {id : ℕ} {s : State} (hs : Later id s) {i : ℕ} {m : Message}
    (hm : s.inFlight[i]? = some m) (accept : Bool) (newId : ℕ) :
    Later id (served s i m accept newId) := by
  obtain ⟨hkind, hid⟩ := hs.flight m (List.mem_of_getElem? hm)
  have hcreates : m.creates = false := by rw [Message.creates, hid]; rfl
  obtain ⟨a, hserved⟩ : ∃ a : Option Answer, served s i m accept newId =
      { s with inFlight := s.inFlight.set i { m with answer := a } } := by
    cases accept with
    | true => exact ⟨_, by rw [served, if_pos rfl, hcreates]; rfl⟩
    | false => exact ⟨_, rfl⟩
  rw [hserved]
  refine ⟨hs.pos, hs.le, hs.taskId, hs.created, ?_, hs.sent⟩
  intro m' hm'
  rcases List.mem_or_eq_of_mem_set hm' with hm' | rfl
  · exact hs.flight m' hm'
  · exact ⟨hkind, hid⟩

/-! ## Answers -/

/-- The answer to the first step ends the first phase, or makes room for another
try. -/
theorem start_delivered {s : State} (hs : Start s) {i : ℕ} {m : Message} {a : Answer}
    (hm : s.inFlight[i]? = some m) (ha : m.answer = some a) :
    Inv (delivered { s with inFlight := s.inFlight.eraseIdx i } m.kind a) := by
  obtain ⟨rfl, hflight, hkind, hid, hcreated⟩ := start_message hs hm
  obtain ⟨kind, task_id, answer⟩ := m
  obtain rfl : kind = .stepOne := hkind
  obtain rfl : answer = some a := ha
  cases a with
  | success id =>
    refine Or.inr ⟨id, le_refl 1, by simp [delivered], rfl, hcreated, ?_, ?_⟩
    · intro m hm
      simp [delivered, hflight] at hm
    · intro q hq hone
      exact absurd (hs.sent q hq) hone
  | error =>
    refine Or.inl ⟨hs.step, hs.taskId, Or.inl ⟨?_, hcreated⟩, hs.sent⟩
    simp [delivered, hflight]

theorem later_delivered {id : ℕ} {s : State} (hs : Later id s) {i : ℕ} {m : Message}
    {a : Answer} (hm : s.inFlight[i]? = some m) :
    Later id (delivered { s with inFlight := s.inFlight.eraseIdx i } m.kind a) := by
  obtain ⟨hone, -⟩ := hs.flight m (List.mem_of_getElem? hm)
  have hflight : ∀ m' ∈ s.inFlight.eraseIdx i, m'.kind ≠ .stepOne ∧ m'.task_id = some id :=
    fun m' hm' => hs.flight m' (Async.mem_of_eraseIdx hm')
  cases hkind : m.kind with
  | stepOne => exact absurd hkind hone
  | stepTwo =>
    cases a with
    | success _ =>
      exact ⟨by simp [delivered], by simp [delivered], hs.taskId, hs.created, hflight, hs.sent⟩
    | error => exact ⟨hs.pos, hs.le, hs.taskId, hs.created, hflight, hs.sent⟩
  | stepThree =>
    exact ⟨by simp [delivered], by simp [delivered], hs.taskId, hs.created, hflight, hs.sent⟩
  | addOn | stepFour => exact ⟨hs.pos, hs.le, hs.taskId, hs.created, hflight, hs.sent⟩

/-- Of all answers only a late one to the second step moves back. -/
theorem step_le_delivered {id : ℕ} {s : State} (hs : Later id s) {i : ℕ} {m : Message}
    {a : Answer} (hm : s.inFlight[i]? = some m) (ha : m.answer = some a)
    (hok : m.kind = .stepTwo → m.accepted ≠ none → s.step ≠ 3) :
    s.step ≤ (delivered { s with inFlight := s.inFlight.eraseIdx i } m.kind a).step := by
  obtain ⟨hone, -⟩ := hs.flight m (List.mem_of_getElem? hm)
  obtain ⟨kind, task_id, answer⟩ := m
  obtain rfl : answer = some a := ha
  have hle := hs.le
  cases kind with
  | stepOne => exact absurd rfl hone
  | stepTwo =>
    cases a with
    | success task_id =>
      have hlate := hok rfl nofun
      change s.step ≤ 2
      omega
    | error => exact le_refl _
  | stepThree => exact hle
  | addOn | stepFour => exact le_refl _

/-! ## Steps and runs -/

/-- What a step does: a request is sent, by a button of the step shown; nothing
happens; the server takes a request; its answer arrives; or it is lost. -/
theorem step_cases {s u : State} {e : Event} (h : step s e = some u) :
    (e = .saveUpdateStepOne ∧ s.step = 0 ∧ u = send s .stepOne) ∨
      (s.step ≠ 0 ∧ ∃ kind, kind ≠ .stepOne ∧ u = send s kind) ∨ u = s ∨
      (∃ i m accept newId, s.inFlight[i]? = some m ∧ m.answer = none ∧
        u = served s i m accept newId) ∨
      (∃ i m a, e = .deliver i ∧ s.inFlight[i]? = some m ∧ m.answer = some a ∧
        u = delivered { s with inFlight := s.inFlight.eraseIdx i } m.kind a) ∨
      ∃ i m, e = .fail i ∧ s.inFlight[i]? = some m ∧
        u = { s with inFlight := s.inFlight.eraseIdx i } := by
  cases e with
  | saveUpdateStepOne =>
    obtain ⟨h0, hu⟩ := Option.ite_none_right_eq_some.1 h
    exact .inl ⟨rfl, h0, (Option.some.inj hu).symm⟩
  | saveUpdateSecondStep complete =>
    obtain ⟨h1, hu⟩ := Option.ite_none_right_eq_some.1 h
    obtain rfl := Option.some.inj hu
    cases complete with
    | true => exact .inr (.inl ⟨by omega, .stepTwo, nofun, rfl⟩)
    | false => exact .inr (.inr (.inl rfl))
  | saveUpdateAddOn =>
    obtain ⟨h1, hu⟩ := Option.ite_none_right_eq_some.1 h
    exact .inr (.inl ⟨by omega, .addOn, nofun, (Option.some.inj hu).symm⟩)
  | saveUpdateThirdStep =>
    obtain ⟨h2, hu⟩ := Option.ite_none_right_eq_some.1 h
    exact .inr (.inl ⟨by omega, .stepThree, nofun, (Option.some.inj hu).symm⟩)
  | saveUpdateFourthStep =>
    obtain ⟨h3, hu⟩ := Option.ite_none_right_eq_some.1 h
    exact .inr (.inl ⟨by omega, .stepFour, nofun, (Option.some.inj hu).symm⟩)
  | serve i accept newId =>
    obtain ⟨m, hm, hu⟩ := Option.bind_eq_some_iff.1 h
    obtain ⟨hserve, hu⟩ := Option.ite_none_right_eq_some.1 hu
    exact .inr (.inr (.inr (.inl
      ⟨i, m, accept, newId, hm, hserve.1, (Option.some.inj hu).symm⟩)))
  | deliver i =>
    obtain ⟨m, hm, hu⟩ := Option.bind_eq_some_iff.1 h
    obtain ⟨a, ha, rfl⟩ := Option.map_eq_some_iff.1 hu
    exact .inr (.inr (.inr (.inr (.inl ⟨i, m, a, rfl, hm, ha, rfl⟩))))
  | fail i =>
    obtain ⟨m, hm, rfl⟩ := Option.map_eq_some_iff.1 h
    exact .inr (.inr (.inr (.inr (.inr ⟨i, m, rfl, hm, rfl⟩))))

/-- One step of a run as in `StepOk`. -/
theorem inv_step {s u : State} {e : Event} (hs : Inv s) (hok : StepOk s e)
    (h : step s e = some u) : Inv u := by
  rcases step_cases h with ⟨rfl, h0, rfl⟩ | ⟨h0, kind, hkind, rfl⟩ | rfl |
    ⟨i, m, accept, newId, hm, ha, rfl⟩ | ⟨i, m, a, -, hm, ha, rfl⟩ | ⟨i, m, rfl, hm, rfl⟩
  · rcases hs with hs | ⟨id, hs⟩
    · exact Or.inl (start_send hs hok)
    · have := hs.pos
      omega
  · rcases hs with hs | ⟨id, hs⟩
    · exact absurd hs.step h0
    · exact Or.inr ⟨id, later_send hs hkind⟩
  · exact hs
  · rcases hs with hs | ⟨id, hs⟩
    · exact Or.inl (start_served hs hm ha accept newId)
    · exact Or.inr ⟨id, later_served hs hm accept newId⟩
  · rcases hs with hs | ⟨id, hs⟩
    · exact start_delivered hs hm ha
    · exact Or.inr ⟨id, later_delivered hs hm⟩
  · rcases hs with hs | ⟨id, hs⟩
    · obtain ⟨rfl, hflight, hkind, -, hcreated⟩ := start_message hs hm
      rw [hok m hm hkind] at hcreated
      refine Or.inl ⟨hs.step, hs.taskId, Or.inl ⟨?_, hcreated⟩, hs.sent⟩
      simp [hflight]
    · refine Or.inr ⟨id, hs.pos, hs.le, hs.taskId, hs.created, ?_, hs.sent⟩
      intro m' hm'
      exact hs.flight m' (Async.mem_of_eraseIdx hm')

/-- No step goes back. -/
theorem step_le {s u : State} {e : Event} (hs : Inv s) (hok : StepOk s e)
    (h : step s e = some u) : s.step ≤ u.step := by
  rcases step_cases h with ⟨rfl, -, rfl⟩ | ⟨-, kind, -, rfl⟩ | rfl |
    ⟨i, m, accept, newId, -, -, rfl⟩ | ⟨i, m, a, rfl, hm, ha, rfl⟩ | ⟨i, m, rfl, -, rfl⟩
  · exact le_refl _
  · exact le_refl _
  · exact le_refl _
  · cases accept <;> exact le_refl _
  · rcases hs with hs | ⟨id, hs⟩
    · rw [hs.step]
      exact Nat.zero_le _
    · exact step_le_delivered hs hm ha (hok m hm)
  · exact le_refl _

theorem inv_run {es : List Event} {s : State} (hok : machine.Meets StepOk es)
    (h : machine.run es = some s) : Inv s :=
  machine.invariant (Or.inl ⟨rfl, rfl, Or.inl ⟨rfl, rfl⟩, nofun⟩)
    (fun _ _ _ hs hok h => inv_step hs hok h) hok h

/-- **One task.**  In a run as in `StepOk` the server makes at most one task,
everything sent after the first step carries its id, and no further step goes back. -/
theorem one_task {es : List Event} {s : State} (hok : machine.Meets StepOk es)
    (h : machine.run es = some s) :
    s.created.length ≤ 1 ∧
      (∀ q ∈ s.sent, q.1 ≠ .stepOne → ∃ id, q.2 = some id ∧ s.created = [id]) ∧
      ∀ e u, StepOk s e → step s e = some u → s.step ≤ u.step := by
  have hs := inv_run hok h
  refine ⟨?_, ?_, fun e u hok' h' => step_le hs hok' h'⟩
  · rcases hs with hs | ⟨id, hs⟩
    · rcases hs.flight with ⟨-, hcreated⟩ | ⟨m, -, -, -, hcreated⟩
      · simp [hcreated]
      · rw [hcreated]
        cases m.accepted <;> simp
    · simp [hs.created]
  · intro q hq hone
    rcases hs with hs | ⟨id, hs⟩
    · exact absurd (hs.sent q hq) hone
    · exact ⟨id, hs.sent q hq hone, hs.created⟩

/-- A run through the four steps, one save each. -/
def sampleRun : List Event :=
  [.saveUpdateStepOne, .serve 0 true 7, .deliver 0, .saveUpdateAddOn, .saveUpdateSecondStep true,
    .serve 1 true 8, .deliver 1, .saveUpdateThirdStep, .serve 1 false 8, .deliver 1,
    .saveUpdateFourthStep]

/-- Such a run. -/
theorem one_task_sample : ∃ s, machine.run sampleRun = some s ∧ s.created.length ≤ 1 ∧
    (∀ q ∈ s.sent, q.1 ≠ .stepOne → ∃ id, q.2 = some id ∧ s.created = [id]) ∧
    ∀ e u, StepOk s e → step s e = some u → s.step ≤ u.step := by
  have hok : machine.Meets StepOk sampleRun := by decide
  exact ⟨_, rfl, one_task hok rfl⟩

/-- The first step saved with two taps makes two tasks; and the second one saved with
two taps goes back to the third step when the late answer finds the fourth. -/
theorem two_tasks :
    (∃ s, machine.run [.saveUpdateStepOne, .saveUpdateStepOne, .serve 0 true 7,
      .serve 1 true 8] = some s ∧ s.created = [7, 8]) ∧
    ∃ s u, machine.run [.saveUpdateStepOne, .serve 0 true 7, .deliver 0,
      .saveUpdateSecondStep true, .saveUpdateSecondStep true, .serve 0 true 8, .serve 1 true 8,
      .deliver 0, .saveUpdateThirdStep, .serve 1 true 8, .deliver 1] = some s ∧
      step s (.deliver 0) = some u ∧ s.step = 3 ∧ u.step = 2 :=
  ⟨⟨_, rfl, rfl⟩, _, _, rfl, rfl, rfl, rfl⟩

end PostTask
