import Mathlib
import Taskbot.Async.Refinement
import Taskbot.Projects.PostProject
import Taskbot.Store.Login
import Taskbot.Store.Ownership
import Taskbot.Store.SavedProjects
import Taskbot.Tasks.WizardProgress

/-!
# The screens and the store

The login screen, the hearts of the projects and the two wizards each keep a part of the
store, and more that only they know of.  Here each of them is shown to refine the machine of
the store: its taps and replies, translated one by one, do the same to that part there.

* `Login.refines`, `SavedProjects.refines`, `TaskWizard.refines`, `PostProject.refines` — the
  translations and the refinements.
* `PostTask.refines_wizard` — the task wizard with the server it talks to refines the task
  wizard, and so the store.
* `screens_refine` — **every run of a screen, translated, is a history of the store that ends
  with the same in the part of the screen.**
* `Login.token_user` — what the histories keep, said of the login screen: **a token and a
  user come from one reply to one login.**
-/

open Store Async

namespace Login

/-! ## The login screen -/

/-- The requests whose replies write the store. -/
def Request.stored : Request → Option Session.Request
  | .userLogin _ _ => some .userLogin
  | .activeAccount _ _ => none

/-- A reply to a login. -/
def Reply.stored : Reply → Session.Reply
  | .session authToken userdetails => .session authToken userdetails
  | .success => .success
  | .error => .error
  | .failure => .failure

/-- What the store's machine has of an event: a login that is sent, or answered. -/
def translate (s : State) : Event → List Session.Event
  | .login email password => if email ≠ "" ∧ password ≠ "" then [.send .userLogin] else []
  | .reply i r =>
    match s.inFlight[i]? with
    | some (.userLogin _ _) => [.reply (placeOf Request.stored s.inFlight i) r.stored]
    | some (.activeAccount _ _) | none => []
  | .activeAccount | .cancel | .skip | .openLogin => []

/-- The same store, and the logins on their way. -/
structure Shows (s : State) (u : Session.State) : Prop where
  store : u.store = s.store
  inFlight : u.inFlight = s.inFlight.filterMap Request.stored

/-- A login that is answered, and nothing for anything else. -/
theorem shows_reply {s t : State} {u : Session.State} {i : ℕ} {q : Request} {r : Reply}
    (hs : Shows s u) (hq : s.inFlight[i]? = some q)
    (h : replied { s with inFlight := s.inFlight.eraseIdx i } q r = some t) :
    ∃ v, Session.machine.runFrom u (translate s (.reply i r)) = some v ∧ Shows t v := by
  rw [translate, hq]
  cases q with
  | activeAccount post_id token =>
    have hrest := filterMap_eraseIdx_of_eq_none (f := Request.stored) hq rfl
    cases r with
    | success | error | failure =>
      cases h
      exact ⟨u, rfl, hs.store, hs.inFlight.trans hrest.symm⟩
    | session authToken userdetails => cases h
  | userLogin username userpassword =>
    have hj := getElem?_filterMap (f := Request.stored) hq rfl
    have hrest := eraseIdx_filterMap (f := Request.stored) hq rfl
    rw [← hs.inFlight] at hj hrest
    have hstep : ∀ r' : Session.Reply, Session.machine.step u
        (.reply (placeOf Request.stored s.inFlight i) r') = some _ :=
      fun r' => Option.map_eq_some_iff.2 ⟨_, hj, rfl⟩
    cases r with
    | session authToken userdetails =>
      refine ⟨_, Machine.runFrom_singleton (hstep _), ?_⟩
      rw [replied, Option.some.injEq] at h
      subst h
      unfold loginReplied
      constructor
      · dsimp only
        split <;> simp only [Reply.stored, Session.dispatches, hs.store]
      · dsimp only
        split <;> exact hrest
    | error =>
      cases h
      exact ⟨_, Machine.runFrom_singleton (hstep _), hs.store, hrest⟩
    | failure =>
      cases h
      exact ⟨_, Machine.runFrom_singleton (hstep _), hs.store, hrest⟩
    | success => cases h

/-- **The login screen refines the store.** -/
theorem refines : Machine.Refines machine Session.machine Shows [] translate where
  init := ⟨_, rfl, rfl, rfl⟩
  step := by
    intro s e t u hs h
    cases e with
    | login email password =>
      obtain ⟨-, ⟨⟩⟩ := Option.ite_none_right_eq_some.1 h
      rw [translate]
      unfold login
      split
      · refine ⟨_, Machine.runFrom_singleton rfl, hs.store, ?_⟩
        simp [hs.inFlight, Request.stored]
      · exact ⟨u, rfl, hs⟩
    | activeAccount =>
      obtain ⟨-, ⟨⟩⟩ := Option.ite_none_right_eq_some.1 h
      refine ⟨u, rfl, hs.store, ?_⟩
      simp [activeAccount, hs.inFlight, Request.stored]
    | cancel =>
      obtain ⟨-, ⟨⟩⟩ := Option.ite_none_right_eq_some.1 h
      exact ⟨u, rfl, hs.store, hs.inFlight⟩
    | skip =>
      obtain ⟨-, ⟨⟩⟩ := Option.ite_none_right_eq_some.1 h
      exact ⟨u, rfl, hs.store, hs.inFlight⟩
    | openLogin =>
      obtain ⟨-, ⟨⟩⟩ := Option.ite_none_right_eq_some.1 h
      exact ⟨u, rfl, hs.store, hs.inFlight⟩
    | reply i r =>
      obtain ⟨q, hq, hreplied⟩ : ∃ q, s.inFlight[i]? = some q ∧
          replied { s with inFlight := s.inFlight.eraseIdx i } q r = some t := by
        have h : step s (.reply i r) = some t := h
        rw [step] at h
        split at h
        · cases h
        · rename_i q hq
          exact ⟨q, hq, h⟩
      exact shows_reply hs hq hreplied

/-- What a reply brings. -/
def brought : Event → Option (String × UserDetails)
  | .reply _ (.session authToken userdetails) => some (authToken, userdetails)
  | _ => none

/-- The sessions brought by the translated events are among those of the events. -/
theorem mem_brought_of_translate {s : State} {e : Event} {d : Session.Event}
    {p : String × UserDetails} (hd : d ∈ translate s e) (hp : Ownership.brought d = some p) :
    brought e = some p := by
  cases e with
  | login email password =>
    rw [translate] at hd
    split at hd
    · obtain rfl := List.mem_singleton.1 hd
      cases hp
    · cases hd
  | reply i r =>
    rw [translate] at hd
    split at hd
    · obtain rfl := List.mem_singleton.1 hd
      cases r <;> exact hp
    · cases hd
    · cases hd
  | activeAccount | cancel | skip | openLogin => cases hd

theorem brought_of_trace {es : List Event} {s : State} {p : String × UserDetails}
    (h : p ∈ (machine.traceFrom translate s es).filterMap Ownership.brought) :
    p ∈ es.filterMap brought := by
  induction es generalizing s with
  | nil => cases h
  | cons e es ih =>
    obtain ⟨d, hd, hp⟩ := List.mem_filterMap.1 h
    rw [Machine.traceFrom] at hd
    refine List.mem_filterMap.2 ?_
    rcases List.mem_append.1 hd with hd | hd
    · exact ⟨e, List.mem_cons_self, mem_brought_of_translate hd hp⟩
    · cases hstep : machine.step s e with
      | none => simp [hstep] at hd
      | some t =>
        rw [hstep, Option.elim_some] at hd
        obtain ⟨e', he', hp'⟩ := List.mem_filterMap.1 (ih (List.mem_filterMap.2 ⟨d, hd, hp⟩))
        exact ⟨e', List.mem_cons_of_mem e he', hp'⟩

/-- **Token and user.**  In every run of the login screen, with any number of logins on
their way, the token and the user in the store were brought by one reply to one login, or
there is neither. -/
theorem token_user {es : List Event} {s : State} (h : machine.run es = some s) :
    (s.store.token = none ∧ s.store.userInfo = none) ∨
      ∃ p ∈ es.filterMap brought, s.store.token = some p.1 ∧ s.store.userInfo = some p.2 := by
  obtain ⟨u, hshows, hcoherent⟩ := refines.invariant (fun _ _ => Ownership.coherent_store) h
  rw [hshows.store] at hcoherent
  refine hcoherent.imp_right ?_
  rintro ⟨p, hp, hstore⟩
  exact ⟨p, brought_of_trace hp, hstore⟩

/-- Two logins on their way, the second answered first. -/
theorem token_user_sample :
    ∃ s, machine.run [.login "a" "x", .login "b" "y",
        .reply 1 (.session "B" (Session.user 2 "b.png")),
        .reply 0 (.session "A" (Session.user 1 "a.png"))] = some s ∧
      ((s.store.token = none ∧ s.store.userInfo = none) ∨
        ∃ p ∈ [("B", Session.user 2 "b.png"), ("A", Session.user 1 "a.png")],
          s.store.token = some p.1 ∧ s.store.userInfo = some p.2) := by
  obtain ⟨s, hs⟩ : ∃ s, machine.run [.login "a" "x", .login "b" "y",
      .reply 1 (.session "B" (Session.user 2 "b.png")),
      .reply 0 (.session "A" (Session.user 1 "a.png"))] = some s := ⟨_, rfl⟩
  exact ⟨s, hs, token_user hs⟩

end Login

namespace SavedProjects

/-! ## The hearts of the projects -/

/-- A reply to a save. -/
def Reply.stored : Reply → Session.Reply
  | .success => .success
  | .error => .error
  | .failure => .failure

/-- What the store's machine has of an event: the list that will be written is sent. -/
def translate (s : State) : Event → List Session.Event
  | .tap component op =>
    (newList s.savedProjects component op).elim [] fun list => [.send (.updateSavedItem list)]
  | .reply i r => [.reply i r.stored]

/-- The load of the projects that are saved to begin with. -/
def load (savedProjects : List ℕ) : List Session.Event :=
  [.send (.getSavedItems .projects), .reply 0 (.items (savedProjects.map fun id => ⟨"", id⟩))]

/-- The same list, and the same writes on their way. -/
structure Shows (s : State) (u : Session.State) : Prop where
  store : u.store.savedProjects = s.savedProjects
  inFlight : u.inFlight = s.inFlight.map fun q => .updateSavedItem q.list

/-- **The hearts refine the store**, once the saved projects are loaded. -/
theorem refines (savedProjects : List ℕ) :
    Machine.Refines (machine savedProjects) Session.machine Shows (load savedProjects)
      translate where
  init := by
    refine ⟨_, rfl, ?_, rfl⟩
    have hids : (savedProjects.map fun id => SavedItem.mk "" id).map SavedItem.id =
        savedProjects := by
      simp [Function.comp_def]
    exact hids
  step := by
    intro s e t u hs h
    cases e with
    | tap component op =>
      obtain ⟨list, hlist, rfl⟩ := Option.map_eq_some_iff.1 h
      rw [translate, hlist]
      refine ⟨_, Machine.runFrom_singleton rfl, hs.store, ?_⟩
      simp [hs.inFlight]
    | reply i r =>
      obtain ⟨q, hq, rfl⟩ := Option.map_eq_some_iff.1 h
      have hj : u.inFlight[i]? = some (.updateSavedItem q.list) := by
        rw [hs.inFlight, List.getElem?_map, hq]
        rfl
      have hrest : u.inFlight.eraseIdx i =
          (s.inFlight.eraseIdx i).map fun q => .updateSavedItem q.list := by
        rw [hs.inFlight, List.eraseIdx_map]
      have hstep : Session.machine.step u (.reply i r.stored) = some _ :=
        Option.map_eq_some_iff.2 ⟨_, hj, rfl⟩
      refine ⟨_, Machine.runFrom_singleton hstep, ?_, ?_⟩
      · cases r with
        | success => rfl
        | error | failure => exact hs.store
      · cases r <;> exact hrest

end SavedProjects

namespace TaskWizard

/-! ## The task wizard -/

/-- The saves whose replies write the store. -/
def Save.stored (q : Save) : Option Session.Request :=
  match q.kind with
  | .stepOne => some .taskStepOne
  | .stepTwo => some .taskStepTwo
  | .stepThree => some .taskStepThree
  | .addOn | .stepFour => none

/-- A reply to a save. -/
def Reply.stored : PostTask.Kind → Reply → Session.Reply
  | .stepOne, .success task_id => .taskId task_id
  | _, .success _ => .success
  | _, .error | _, .other => .error
  | _, .failure => .failure

/-- The way into the wizard. -/
def Entry.tap : Entry → Session.WizardTap
  | .create => .createTask
  | .editTask task_id => .editTask task_id

/-- What the store's machine has of an event. -/
def translate (s : State) : Event → List Session.Event
  | .enter entry => [.wizard entry.tap]
  | .handelSelectedStep index => [.wizard (.taskStep index)]
  | .save kind sends =>
    (if sends then Save.stored ⟨kind, s.mounted.serial⟩ else none).elim [] fun p => [.send p]
  | .reply i r =>
    match s.inFlight[i]? with
    | none => []
    | some q =>
      q.stored.elim [] fun _ => [.reply (placeOf Save.stored s.inFlight i) (r.stored q.kind)]

/-- The same step and task, and the same saves on their way. -/
structure Shows (s : State) (u : Session.State) : Prop where
  store : u.store.postedTask = ⟨s.step, s.taskId⟩
  inFlight : u.inFlight = s.inFlight.filterMap Save.stored

@[simp] theorem updateStep_inFlight (s : State) (k : ℕ) :
    (updateStep s k).inFlight = s.inFlight := by
  unfold updateStep
  split <;> rfl

theorem answered_inFlight (s : State) (kind : PostTask.Kind) (r : Reply) :
    (answered s kind r).inFlight = s.inFlight := by
  cases kind <;> cases r <;> simp [answered]

/-- The handlers of the saves write what those of the store's machine dispatch. -/
theorem postedTask_dispatches (s : State) (store : Store) {q : Save} {p : Session.Request}
    (hq : q.stored = some p) (r : Reply) (h : store.postedTask = ⟨s.step, s.taskId⟩) :
    (dispatch store (Session.dispatches p (r.stored q.kind))).postedTask =
      ⟨(answered s q.kind r).step, (answered s q.kind r).taskId⟩ := by
  obtain ⟨kind, component⟩ := q
  cases kind <;> cases hq <;> cases r <;>
    simp [Reply.stored, Session.dispatches, answered, dispatch, reduce, h]

/-- The saves of the last step and of an add-on write nothing. -/
theorem answered_of_stored_eq_none (s : State) {q : Save} (hq : q.stored = none) (r : Reply) :
    answered s q.kind r = s := by
  obtain ⟨kind, component⟩ := q
  cases kind <;> cases hq <;> cases r <;> rfl

/-- **The task wizard refines the store.** -/
theorem refines (entry : Entry) :
    Machine.Refines (machine entry) Session.machine Shows [.wizard entry.tap] translate where
  init :=
    match entry with
    | .create => ⟨_, rfl, rfl, rfl⟩
    | .editTask _ => ⟨_, rfl, rfl, rfl⟩
  step := by
    intro s e t u hs h
    cases e with
    | enter entry =>
      cases h
      cases entry with
      | create => exact ⟨_, Machine.runFrom_singleton rfl, rfl, hs.inFlight⟩
      | editTask task_id => exact ⟨_, Machine.runFrom_singleton rfl, rfl, hs.inFlight⟩
    | handelSelectedStep index =>
      obtain ⟨-, ⟨⟩⟩ := Option.ite_none_right_eq_some.1 h
      refine ⟨_, Machine.runFrom_singleton rfl, ?_, ?_⟩
      · simp [Session.WizardTap.dispatches, dispatch, reduce, hs.store]
      · simpa using hs.inFlight
    | save kind sends =>
      obtain ⟨-, ⟨⟩⟩ := Option.ite_none_right_eq_some.1 h
      rw [translate]
      cases hsent : (if sends then Save.stored ⟨kind, s.mounted.serial⟩ else none) with
      | none =>
        refine ⟨u, rfl, hs.store, ?_⟩
        cases sends <;> simp_all [save, hs.inFlight]
      | some p =>
        refine ⟨_, Machine.runFrom_singleton rfl, hs.store, ?_⟩
        cases sends <;> simp_all [save, hs.inFlight]
    | reply i r =>
      obtain ⟨q, hq, rfl⟩ := Option.map_eq_some_iff.1 h
      have hflight : (replied { s with inFlight := s.inFlight.eraseIdx i } q r).inFlight =
          s.inFlight.eraseIdx i := answered_inFlight _ _ _
      rw [translate, hq]
      dsimp only
      cases hp : q.stored with
      | none =>
        refine ⟨u, rfl, ?_, ?_⟩
        · rw [replied, answered_of_stored_eq_none _ hp]
          exact hs.store
        · rw [hflight, filterMap_eraseIdx_of_eq_none hq hp]
          exact hs.inFlight
      | some p =>
        have hj := getElem?_filterMap hq hp
        have hrest := eraseIdx_filterMap hq hp
        rw [← hs.inFlight] at hj hrest
        have hstep : Session.machine.step u
            (.reply (placeOf Save.stored s.inFlight i) (r.stored q.kind)) = some _ :=
          Option.map_eq_some_iff.2 ⟨p, hj, rfl⟩
        refine ⟨_, Machine.runFrom_singleton hstep, ?_, ?_⟩
        · exact postedTask_dispatches _ _ hp r hs.store
        · rw [hflight]
          exact hrest

end TaskWizard

namespace PostTask

/-! ## The task wizard and the server -/

/-- The answer of the server, as it comes back. -/
def Answer.reply : Answer → TaskWizard.Reply
  | .success task_id => .success task_id
  | .error => .error

/-- What the wizard sees of an event: nothing of the server's work. -/
def translate (s : State) : Event → List TaskWizard.Event
  | .saveUpdateStepOne => [.save .stepOne true]
  | .saveUpdateSecondStep complete => if complete then [.save .stepTwo true] else []
  | .saveUpdateAddOn => [.save .addOn true]
  | .saveUpdateThirdStep => [.save .stepThree true]
  | .saveUpdateFourthStep => [.save .stepFour true]
  | .serve _ _ _ => []
  | .deliver i =>
    ((s.inFlight[i]?).bind Message.answer).elim [] fun a => [.reply i a.reply]
  | .fail i => [.reply i .failure]

/-- The same step and task, and saves of the same kinds on their way. -/
structure Shows (s : State) (w : TaskWizard.State) : Prop where
  step : w.step = s.step
  taskId : w.taskId = s.taskId
  inFlight : w.inFlight.map TaskWizard.Save.kind = s.inFlight.map Message.kind

@[simp] theorem inFlight_delivered (s : State) (kind : Kind) (a : Answer) :
    (delivered s kind a).inFlight = s.inFlight := by
  cases kind <;> cases a <;> rfl

/-- A save of the step shown. -/
theorem shows_send {s : State} {w : TaskWizard.State} (hs : Shows s w) {kind : Kind}
    (h : s.step = TaskWizard.stepOf kind) :
    ∃ v, (TaskWizard.machine .create).runFrom w [.save kind true] = some v ∧
      Shows (send s kind) v := by
  have hstep : (TaskWizard.machine .create).step w (.save kind true) =
      some (TaskWizard.save w kind true) := if_pos (hs.step.trans h)
  refine ⟨_, Machine.runFrom_singleton hstep, hs.step, hs.taskId, ?_⟩
  simp [TaskWizard.save, send, hs.inFlight]

/-- A reply, whatever it is. -/
theorem shows_reply {s : State} {w : TaskWizard.State} (hs : Shows s w) {i : ℕ} {m : Message}
    (hm : s.inFlight[i]? = some m) (r : TaskWizard.Reply) {t : State}
    (hflight : t.inFlight = s.inFlight.eraseIdx i)
    (hstore : ∀ w : TaskWizard.State, w.step = s.step → w.taskId = s.taskId →
      (TaskWizard.answered w m.kind r).step = t.step ∧
        (TaskWizard.answered w m.kind r).taskId = t.taskId) :
    ∃ v, (TaskWizard.machine .create).runFrom w [.reply i r] = some v ∧ Shows t v := by
  have hkind : (w.inFlight.map TaskWizard.Save.kind)[i]? = some m.kind := by
    rw [hs.inFlight, List.getElem?_map, hm]
    rfl
  rw [List.getElem?_map, Option.map_eq_some_iff] at hkind
  obtain ⟨q, hq, hqkind⟩ := hkind
  have hstep : (TaskWizard.machine .create).step w (.reply i r) = some _ :=
    Option.map_eq_some_iff.2 ⟨q, hq, rfl⟩
  obtain ⟨hanswered, hid⟩ := hstore
    { w with inFlight := w.inFlight.eraseIdx i, mounted := w.mounted.finish q.component }
    hs.step hs.taskId
  refine ⟨_, Machine.runFrom_singleton hstep, ?_, ?_, ?_⟩
  · rw [TaskWizard.replied, hqkind]
    exact hanswered
  · rw [TaskWizard.replied, hqkind]
    exact hid
  · rw [TaskWizard.replied, TaskWizard.answered_inFlight, hflight, ← List.eraseIdx_map,
      ← List.eraseIdx_map, hs.inFlight]

/-- The server changes neither the place nor the kind of a message. -/
theorem map_kind_set {l : List Message} {i : ℕ} {m : Message} (hm : l[i]? = some m)
    (a : Option Answer) :
    (l.set i { m with answer := a }).map Message.kind = l.map Message.kind := by
  obtain ⟨hi, rfl⟩ := List.getElem?_eq_some_iff.1 hm
  rw [List.map_set]
  refine List.ext_getElem (by simp) fun j hj hj' => ?_
  by_cases hij : i = j
  · subst hij
    simp
  · simp [hij]

/-- **The wizard with its server refines the wizard.** -/
theorem refines_wizard :
    Machine.Refines machine (TaskWizard.machine .create) Shows [] translate where
  init := ⟨_, rfl, rfl, rfl, rfl⟩
  step := by
    intro s e t w hs h
    cases e with
    | saveUpdateStepOne =>
      obtain ⟨hstep, ⟨⟩⟩ := Option.ite_none_right_eq_some.1 h
      exact shows_send hs hstep
    | saveUpdateSecondStep complete =>
      obtain ⟨hstep, ⟨⟩⟩ := Option.ite_none_right_eq_some.1 h
      cases complete with
      | true => exact shows_send hs hstep
      | false => exact ⟨w, rfl, hs⟩
    | saveUpdateAddOn =>
      obtain ⟨hstep, ⟨⟩⟩ := Option.ite_none_right_eq_some.1 h
      exact shows_send hs hstep
    | saveUpdateThirdStep =>
      obtain ⟨hstep, ⟨⟩⟩ := Option.ite_none_right_eq_some.1 h
      exact shows_send hs hstep
    | saveUpdateFourthStep =>
      obtain ⟨hstep, ⟨⟩⟩ := Option.ite_none_right_eq_some.1 h
      exact shows_send hs hstep
    | serve i accept newId =>
      obtain ⟨m, hm, hserved⟩ := Option.bind_eq_some_iff.1 h
      obtain ⟨-, ⟨⟩⟩ := Option.ite_none_right_eq_some.1 hserved
      refine ⟨w, rfl, ?_⟩
      cases accept with
      | true => exact ⟨hs.step, hs.taskId, hs.inFlight.trans (map_kind_set hm _).symm⟩
      | false => exact ⟨hs.step, hs.taskId, hs.inFlight.trans (map_kind_set hm _).symm⟩
    | deliver i =>
      obtain ⟨m, hm, hdelivered⟩ := Option.bind_eq_some_iff.1 h
      obtain ⟨a, ha, rfl⟩ := Option.map_eq_some_iff.1 hdelivered
      rw [translate, hm, Option.bind_some, ha, Option.elim_some]
      refine shows_reply hs hm a.reply (inFlight_delivered _ _ _) fun w hstep hid => ?_
      cases m.kind <;> cases a <;> simp [Answer.reply, TaskWizard.answered, delivered, hstep, hid]
    | fail i =>
      obtain ⟨m, hm, rfl⟩ := Option.map_eq_some_iff.1 h
      refine shows_reply hs hm .failure rfl fun w hstep hid => ?_
      cases m.kind <;> simp [TaskWizard.answered, hstep, hid]

end PostTask

namespace PostProject

/-! ## The project wizard -/

section Texts

-- the texts of the two forms, whatever they are
variable (textsOne : FieldsOne → Store.Draft) (textsTwo : ItemTwo → Store.Draft)

/-- A save, as the store's machine has it. -/
def Form.stored : Form → Session.Request
  | .one fields => .projectStepOne (textsOne fields)
  | .two item => .projectStepTwo (textsTwo item)

/-- A reply to a save. -/
def Reply.stored : Reply → Session.Reply
  | .success _ => .success
  | .error | .other => .error
  | .failure => .failure

/-- The way into the wizard. -/
def Entry.tap : Entry → Session.WizardTap
  | .startNewProject => .startNewProject
  | .useThisTemplate item => .template (textsOne item.stepOne.fields) (textsTwo item.stepTwo)

/-- What the store's machine has of an event. -/
def translate (_ : State) : Event → List Session.Event
  | .enter entry => [.wizard (entry.tap textsOne textsTwo)]
  | .saveStepOne fields => [.send (.projectStepOne (textsOne fields))]
  | .saveStepTwo item => [.send (.projectStepTwo (textsTwo item))]
  | .goBack => [.wizard (.projectStep 0)]
  | .loadMoreRecommendedFreelancer | .sendInvite => []
  | .reply i r => [.reply i r.stored]

/-- The same step and texts, and the same saves on their way. -/
structure Shows (s : State) (u : Session.State) : Prop where
  step : u.store.postedProject.step = s.step
  one : u.store.postedProject.postedItemOne =
    (s.postedItemOne.map fun item => textsOne item.fields).getD []
  two : u.store.postedProject.postedItemTwo = (s.postedItemTwo.map textsTwo).getD []
  inFlight : u.inFlight = s.inFlight.map fun q => q.form.stored textsOne textsTwo

variable {textsOne textsTwo}

/-- Another step is shown. -/
theorem Shows.updateStep {s : State} {u : Session.State} {k : ℕ}
    (h : Shows textsOne textsTwo { s with step := k } u) :
    Shows textsOne textsTwo (updateStep s k) u := by
  unfold PostProject.updateStep
  split
  · rename_i hk
    subst hk
    exact h
  · unfold mount
    dsimp only
    split
    · exact ⟨h.step, h.one, h.two, h.inFlight⟩
    · exact ⟨h.step, h.one, h.two, h.inFlight⟩

/-- The reply to a save. -/
theorem shows_reply {s : State} {u : Session.State} (hs : Shows textsOne textsTwo s u) {i : ℕ}
    {q : Save} (hq : s.inFlight[i]? = some q) (r : Reply) :
    ∃ v, Session.machine.runFrom u [.reply i r.stored] = some v ∧
      Shows textsOne textsTwo (replied { s with inFlight := s.inFlight.eraseIdx i } q r) v := by
  have hj : u.inFlight[i]? = some (q.form.stored textsOne textsTwo) := by
    rw [hs.inFlight, List.getElem?_map, hq]
    rfl
  have hrest : u.inFlight.eraseIdx i =
      (s.inFlight.eraseIdx i).map fun q => q.form.stored textsOne textsTwo := by
    rw [hs.inFlight, List.eraseIdx_map]
  have hstep : Session.machine.step u (.reply i r.stored) = some _ :=
    Option.map_eq_some_iff.2 ⟨_, hj, rfl⟩
  refine ⟨_, Machine.runFrom_singleton hstep, ?_⟩
  obtain ⟨form, project_id, component, draft⟩ := q
  cases r with
  | success post_id =>
    cases form with
    | one fields => exact Shows.updateStep ⟨rfl, rfl, hs.two, hrest⟩
    | two item => exact Shows.updateStep ⟨rfl, hs.one, rfl, hrest⟩
  | error | other | failure =>
    cases form with
    | one fields => exact ⟨hs.step, hs.one, hs.two, hrest⟩
    | two item => exact ⟨hs.step, hs.one, hs.two, hrest⟩

/-- **The project wizard refines the store**, whatever texts its forms have. -/
theorem refines (entry : Entry) :
    Machine.Refines (machine entry) Session.machine (Shows textsOne textsTwo)
      [.wizard (entry.tap textsOne textsTwo)] (translate textsOne textsTwo) where
  init :=
    match entry with
    | .startNewProject => ⟨_, rfl, rfl, rfl, rfl, rfl⟩
    | .useThisTemplate _ => ⟨_, rfl, rfl, rfl, rfl, rfl⟩
  step := by
    intro s e t u hs h
    cases e with
    | enter entry =>
      cases h
      cases entry with
      | startNewProject => exact ⟨_, Machine.runFrom_singleton rfl, rfl, rfl, rfl, hs.inFlight⟩
      | useThisTemplate item =>
        exact ⟨_, Machine.runFrom_singleton rfl, rfl, rfl, rfl, hs.inFlight⟩
    | saveStepOne fields =>
      obtain ⟨-, ⟨⟩⟩ := Option.ite_none_right_eq_some.1 h
      refine ⟨_, Machine.runFrom_singleton rfl, hs.step, hs.one, hs.two, ?_⟩
      simp [save, record, hs.inFlight, Form.stored]
    | saveStepTwo item =>
      obtain ⟨-, ⟨⟩⟩ := Option.ite_none_right_eq_some.1 h
      refine ⟨_, Machine.runFrom_singleton rfl, hs.step, hs.one, hs.two, ?_⟩
      simp [save, record, hs.inFlight, Form.stored]
    | goBack =>
      obtain ⟨-, ⟨⟩⟩ := Option.ite_none_right_eq_some.1 h
      exact ⟨_, Machine.runFrom_singleton rfl,
        Shows.updateStep ⟨rfl, hs.one, hs.two, hs.inFlight⟩⟩
    | loadMoreRecommendedFreelancer =>
      obtain ⟨-, ⟨⟩⟩ := Option.ite_none_right_eq_some.1 h
      exact ⟨u, rfl, hs.step, hs.one, hs.two, hs.inFlight⟩
    | sendInvite =>
      obtain ⟨-, ⟨⟩⟩ := Option.ite_none_right_eq_some.1 h
      exact ⟨u, rfl, hs.step, hs.one, hs.two, hs.inFlight⟩
    | reply i r =>
      obtain ⟨q, hq, rfl⟩ := Option.map_eq_some_iff.1 h
      exact shows_reply hs hq r

end Texts

end PostProject

namespace Session

/-! ## All of them -/

/-- The histories of the store's machine that belong to the runs of the screens. -/
abbrev loginTrace (es : List Login.Event) : List Event :=
  Login.machine.trace [] Login.translate es

abbrev heartsTrace (savedProjects : List ℕ) (es : List SavedProjects.Event) : List Event :=
  (SavedProjects.machine savedProjects).trace (SavedProjects.load savedProjects)
    SavedProjects.translate es

abbrev taskTrace (entry : TaskWizard.Entry) (es : List TaskWizard.Event) : List Event :=
  (TaskWizard.machine entry).trace [.wizard entry.tap] TaskWizard.translate es

abbrev serverTrace (es : List PostTask.Event) : List TaskWizard.Event :=
  PostTask.machine.trace [] PostTask.translate es

abbrev projectTrace (textsOne : PostProject.FieldsOne → Store.Draft)
    (textsTwo : PostProject.ItemTwo → Store.Draft) (entry : PostProject.Entry)
    (es : List PostProject.Event) : List Event :=
  (PostProject.machine entry).trace [.wizard (entry.tap textsOne textsTwo)]
    (PostProject.translate textsOne textsTwo) es

/-- **The screens keep to the store.**  Every run of the login screen, of the hearts of the
projects, of the task wizard, also with its server, and of the project wizard, translated tap
by tap and reply by reply, is a history of the store that ends with the same in the part of
the screen. -/
theorem screens_refine :
    (∀ es s, Login.machine.run es = some s →
      ∃ u, machine.run (loginTrace es) = some u ∧ u.store = s.store) ∧
    (∀ saved es s, (SavedProjects.machine saved).run es = some s →
      ∃ u, machine.run (heartsTrace saved es) = some u ∧
        u.store.savedProjects = s.savedProjects) ∧
    (∀ entry es s, (TaskWizard.machine entry).run es = some s →
      ∃ u, machine.run (taskTrace entry es) = some u ∧
        u.store.postedTask = ⟨s.step, s.taskId⟩) ∧
    (∀ es s, PostTask.machine.run es = some s →
      ∃ u, machine.run (taskTrace .create (serverTrace es)) = some u ∧
        u.store.postedTask = ⟨s.step, s.taskId⟩) ∧
    ∀ textsOne textsTwo entry es s, (PostProject.machine entry).run es = some s →
      ∃ u, machine.run (projectTrace textsOne textsTwo entry es) = some u ∧
        u.store.postedProject =
          ⟨s.step, (s.postedItemOne.map fun item => textsOne item.fields).getD [],
            (s.postedItemTwo.map textsTwo).getD []⟩ := by
  refine ⟨?_, ?_, ?_, ?_, ?_⟩
  · intro es s h
    obtain ⟨u, hu, hshows⟩ := Login.refines.run h
    exact ⟨u, hu, hshows.store⟩
  · intro saved es s h
    obtain ⟨u, hu, hshows⟩ := (SavedProjects.refines saved).run h
    exact ⟨u, hu, hshows.store⟩
  · intro entry es s h
    obtain ⟨u, hu, hshows⟩ := (TaskWizard.refines entry).run h
    exact ⟨u, hu, hshows.store⟩
  · intro es s h
    obtain ⟨w, hw, hserver⟩ := PostTask.refines_wizard.run h
    obtain ⟨u, hu, hshows⟩ := (TaskWizard.refines .create).run hw
    refine ⟨u, hu, ?_⟩
    rw [hshows.store, hserver.step, hserver.taskId]
  · intro textsOne textsTwo entry es s h
    have hrefines := @PostProject.refines textsOne textsTwo entry
    obtain ⟨u, hu, hshows⟩ := hrefines.run h
    refine ⟨u, hu, ?_⟩
    rw [← hshows.step, ← hshows.one, ← hshows.two]

/-- The texts of the forms of a project, for a sample. -/
def sampleOne (fields : PostProject.FieldsOne) : Store.Draft := [("title", fields.title)]

def sampleTwo (item : PostProject.ItemTwo) : Store.Draft := [("freelancer", item.freelancer)]

/-- A login, a heart, the first steps of a task, of one with its server and of a project. -/
theorem screens_refine_sample :
    (∃ s, Login.machine.run [.login "a" "x", .reply 0 (.session "A" (user 1 "a.png"))] = some s ∧
      ∃ u, machine.run (loginTrace
          [.login "a" "x", .reply 0 (.session "A" (user 1 "a.png"))]) = some u ∧
        u.store = s.store) ∧
    (∃ s, (SavedProjects.machine [4]).run
        [.tap .projectListingCard (.save 7), .reply 0 .success] = some s ∧
      ∃ u, machine.run (heartsTrace [4]
          [.tap .projectListingCard (.save 7), .reply 0 .success]) = some u ∧
        u.store.savedProjects = s.savedProjects) ∧
    (∃ s, (TaskWizard.machine .create).run TaskWizard.twoSteps = some s ∧
      ∃ u, machine.run (taskTrace .create TaskWizard.twoSteps) = some u ∧
        u.store.postedTask = ⟨s.step, s.taskId⟩) ∧
    (∃ s, PostTask.machine.run [.saveUpdateStepOne, .serve 0 true 7, .deliver 0] = some s ∧
      ∃ u, machine.run (taskTrace .create
          (serverTrace [.saveUpdateStepOne, .serve 0 true 7, .deliver 0])) = some u ∧
        u.store.postedTask = ⟨s.step, s.taskId⟩) ∧
    ∃ s, (PostProject.machine .startNewProject).run
        [.saveStepOne TaskWizard.emptyForm, .reply 0 (.success 3)] = some s ∧
      ∃ u, machine.run (projectTrace sampleOne sampleTwo .startNewProject
          [.saveStepOne TaskWizard.emptyForm, .reply 0 (.success 3)]) = some u ∧
        u.store.postedProject =
          ⟨s.step, (s.postedItemOne.map fun item => sampleOne item.fields).getD [],
            (s.postedItemTwo.map sampleTwo).getD []⟩ := by
  obtain ⟨hlogin, hhearts, htask, hserver, hproject⟩ := screens_refine
  refine ⟨⟨_, rfl, ?_⟩, ⟨_, rfl, ?_⟩, ⟨_, rfl, ?_⟩, ⟨_, rfl, ?_⟩, _, rfl, ?_⟩
  · exact hlogin _ _ rfl
  · exact hhearts _ _ _ rfl
  · exact htask _ _ _ rfl
  · exact hserver _ _ rfl
  · exact hproject _ _ _ _ _ rfl

end Session
