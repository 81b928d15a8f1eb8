import Mathlib
import Taskbot.Async.Machine

/-!
# The task wizard

The screen `PostTask` with its four steps.  The step shown and the id of the task
are two fields of the store (`PostTaskSlice`), written by whichever reply arrives
and read by every step; the forms of the steps travel along with the requests and
are left out here.

* `Kind`, `Message` — the requests of the wizard, with the id they carry, and what
  the server has made of them.
* `State`, `step` — the store, the messages on their way, and the server's tasks:
  it makes a new one of every `create-task` request without an id.
* `delivered` — the handlers of the replies.
-/

namespace PostTask

/-! ## Messages -/

/-- The requests of the wizard: the saves of its four steps (`create-task`), and
the save of an add-on (`create-sub-task`). -/
inductive Kind where
  | stepOne
  | stepTwo
  | addOn
  | stepThree
  | stepFour
  deriving DecidableEq

/-- What the server has made of a request. -/
inductive Answer where
  /-- `type == 'success'`, with the id of the task. -/
  | success (task_id : ℕ)
  /-- Any other answer. -/
  | error
  deriving DecidableEq

/-- A request and, once the server has taken it, the answer on its way back. -/
structure Message where
  kind : Kind
  /-- The field `task_id` of the request. -/
  task_id : Option ℕ
  answer : Option Answer
  deriving DecidableEq

/-- The id a message brings back, when the server has accepted it. -/
def Message.accepted : Message → Option ℕ
  | ⟨_, _, some (.success task_id)⟩ => some task_id
  | _ => none

/-- Does the server make a new task of this request? -/
def Message.creates (m : Message) : Bool := m.task_id.isNone && m.kind != .addOn

/-! ## The store and the server -/

/-- The store, the messages on their way, the tasks the server has made, and the
requests sent so far. -/
structure State where
  step : ℕ
  taskId : Option ℕ
  inFlight : List Message
  created : List ℕ
  sent : List (Kind × Option ℕ)
  deriving DecidableEq

/-- The messages of a kind on their way. -/
def State.pending (s : State) (kind : Kind) : ℕ := s.inFlight.countP fun m => m.kind = kind

/-- What can happen. -/
inductive Event where
  /-- A tap on the save button of the first step. -/
  | saveUpdateStepOne
  /-- The same for the second; has the first package a title and a price? -/
  | saveUpdateSecondStep (complete : Bool)
  | saveUpdateAddOn
  | saveUpdateThirdStep
  | saveUpdateFourthStep
  /-- The server takes the request at place `i`; a task it makes gets a new id. -/
  | serve (i : ℕ) (accept : Bool) (newId : ℕ)
  /-- The answer at place `i` arrives. -/
  | deliver (i : ℕ)
  /-- The message at place `i` is lost: the `catch` branch. -/
  | fail (i : ℕ)
  deriving DecidableEq

/-- A request is sent, with the id in the store. -/
def send (s : State) (kind : Kind) : State :=
  { s with
    inFlight := s.inFlight ++ [⟨kind, s.taskId, none⟩]
    sent := s.sent ++ [(kind, s.taskId)] }

/-- The handler of an answer.  The first step takes the id over; the third moves on
whatever the answer is; the last leaves for the list of tasks, with the wizard
still there below it. -/
def delivered (s : State) : Kind → Answer → State
  | .stepOne, .success task_id => { s with taskId := some task_id, step := 1 }
  | .stepTwo, .success _ => { s with step := 2 }
  | .stepThree, _ => { s with step := 3 }
  | .stepOne, .error | .stepTwo, .error | .addOn, _ | .stepFour, _ => s

/-- The server takes a message: it accepts it, with a new task when one is made, or
answers with an error. -/
def served (s : State) (i : ℕ) (m : Message) (accept : Bool) (newId : ℕ) : State :=
  if accept then
    { s with
      inFlight := s.inFlight.set i { m with answer := some (.success (m.task_id.getD newId)) }
      created := if m.creates then s.created ++ [newId] else s.created }
  else { s with inFlight := s.inFlight.set i { m with answer := some .error } }

/-- One event.  The save buttons are those of the step shown; the second step only
shows an alert when its first package is not complete. -/
def step (s : State) : Event → Option State
  | .saveUpdateStepOne => if s.step = 0 then some (send s .stepOne) else none
  | .saveUpdateSecondStep complete =>
    if s.step = 1 then some (if complete then send s .stepTwo else s) else none
  | .saveUpdateAddOn => if s.step = 1 then some (send s .addOn) else none
  | .saveUpdateThirdStep => if s.step = 2 then some (send s .stepThree) else none
  | .saveUpdateFourthStep => if s.step = 3 then some (send s .stepFour) else none
  | .serve i accept newId =>
    s.inFlight[i]?.bind fun m =>
      if m.answer = none ∧ newId ∉ s.created then some (served s i m accept newId) else none
  | .deliver i =>
    s.inFlight[i]?.bind fun m =>
      m.answer.map fun a => delivered { s with inFlight := s.inFlight.eraseIdx i } m.kind a
  | .fail i => s.inFlight[i]?.map fun _ => { s with inFlight := s.inFlight.eraseIdx i }

/-- The wizard opened with "create task": the circles of the steps do nothing. -/
def machine : Async.Machine State Event := ⟨⟨0, none, [], [], []⟩, step⟩

end PostTask
