import Mathlib
import Taskbot.Async.Refinement
import Taskbot.Async.Rereads
import Taskbot.Js.Toggle
import Taskbot.Tasks.StepTwoForm

/-!
# The add-ons of the second step

`PostTaskStepTwo` draws the add-ons of the user with a box to tick and a pen to edit each,
and has a sheet in which one is written.  A save sends the sheet to `create-sub-task`, and
once it is confirmed `getaddons` reads the list again.

* `AddOn`, `Save`, `Sheet` — an add-on, what a save sends, and the sheet.
* `Screen`, `step` — the screen, the add-ons the server has, and what is in flight; what the
  server does with a save is a parameter.
* `refines` — the screen is a client that reads again after each save.
* `list_current` — **once everything is answered the add-ons drawn are the server's**, when
  the lists arrive in order and none is lost; and everything can be answered.
* `ids_known_run` — **what is ticked, edited and saved the server knows**, in every run.
-/

namespace TaskAddOns

open Async Rereads

/-! ## Add-ons -/

/-- An add-on of `get-all-addons`. -/
structure AddOn where
  id : ℕ
  name : String
  price : String
  desc : String
  deriving DecidableEq

/-- The ids of some add-ons. -/
def ids (addOns : List AddOn) : List ℕ := addOns.map AddOn.id

/-- What `create-sub-task` is sent; no id, which is sent as `''`, makes a new add-on. -/
structure Save where
  user_id : ℕ
  task_id : ℕ
  subtask_id : Option ℕ
  title : String
  content : String
  price : String
  deriving DecidableEq

/-- The hooks of the sheet. -/
structure Sheet where
  selectedAddonId : Option ℕ
  addOnsTitle : String
  addOnsPrice : String
  addOnDescription : String
  deriving DecidableEq

/-- The inputs of the sheet. -/
inductive Input where
  | addOnsTitle
  | addOnsPrice
  | addOnDescription
  deriving DecidableEq

/-- The text of one input changes. -/
def Sheet.set (sheet : Sheet) (text : String) : Input → Sheet
  | .addOnsTitle => { sheet with addOnsTitle := text }
  | .addOnsPrice => { sheet with addOnsPrice := text }
  | .addOnDescription => { sheet with addOnDescription := text }

/-- The texts are emptied when a save is confirmed; the id stays. -/
def Sheet.clear (sheet : Sheet) : Sheet := ⟨sheet.selectedAddonId, "", "", ""⟩

/-- What the screen is opened with: the user, the task, and the task as it is when it is
edited. -/
structure Opened where
  user_id : ℕ
  task_id : ℕ
  item : Option PostTaskStepTwo.Task
  deriving DecidableEq

/-- The body of `create-sub-task`. -/
def Opened.save (o : Opened) (sheet : Sheet) : Save where
  user_id := o.user_id
  task_id := o.task_id
  subtask_id := sheet.selectedAddonId
  title := sheet.addOnsTitle
  content := sheet.addOnDescription
  price := sheet.addOnsPrice

/-- What the effect makes of the ticks: those of the task that is edited. -/
def Opened.prefill (o : Opened) (selectedAddons : List ℕ) : List ℕ :=
  (PostTaskStepTwo.prefill o.item ⟨[], selectedAddons⟩).selectedAddons

/-! ## The screen -/

/-- The state of the screen, with the add-ons of the server. -/
structure Screen where
  addOns : List AddOn
  selectedAddons : List ℕ
  sheet : Sheet
  /-- Is `RBSheetTaskAddOn` open? -/
  opened : Bool
  loading : Bool
  /-- Is `get-task-data` not answered yet? -/
  packages : Bool
  /-- `create-sub-task` and `get-all-addons`, and what comes back for them. -/
  inFlight : List (Message Save (List AddOn))
  server : List AddOn
  deriving DecidableEq

/-- What can happen. -/
inductive Event where
  /-- The tap above the list, for a new add-on. -/
  | addMore
  /-- `editAddons`, for the add-on in row `index`. -/
  | editAddons (index : ℕ)
  | onChangeText (input : Input) (text : String)
  /-- The sheet is closed. -/
  | close
  | saveUpdateAddOn
  /-- `PushInArray`, for the add-on in row `index`. -/
  | pushInArray (index : ℕ)
  /-- `get-task-data` is answered; have the packages arrived? -/
  | packages (arrived : Bool)
  /-- The server is served the request at place `i`. -/
  | serve (i : ℕ)
  /-- The answer at place `i` arrives. -/
  | deliver (i : ℕ)
  /-- The message at place `i` is lost, which ends in the `catch` branch. -/
  | lose (i : ℕ)
  deriving DecidableEq

variable (createSubTask : List AddOn → Save → Option (List AddOn)) (o : Opened)

/-- The server, as a client that reads again when a save was confirmed knows it. -/
def api : Api Save (List AddOn) := ⟨createSubTask, fun _ accepted => accepted⟩

/-- The handlers of the answers. -/
def replied (s : Screen) : Message Save (List AddOn) → Option Screen
  | .answer _ true =>
    -- `getaddons`, and the sheet is closed and emptied, whichever add-on is in it by now
    some { s with
      loading := false
      inFlight := s.inFlight ++ [.read]
      opened := false
      sheet := s.sheet.clear }
  | .answer _ false => some { s with loading := false }
  | .value addOns => some { s with addOns := addOns }
  | .write _ | .read => none

/-- The `catch` branches; that of `getaddons` does nothing. -/
def failed (s : Screen) : Message Save (List AddOn) → Screen
  | .write _ | .answer _ _ => { s with loading := false }
  | .read | .value _ => s

/-- One event.  The rows and the tap above them are under the sheet while it is open. -/
def step (s : Screen) : Event → Option Screen
  | .addMore =>
    if s.opened then none else some { s with sheet := ⟨none, "", "", ""⟩, opened := true }
  | .editAddons index =>
    if s.opened then none
    else s.addOns[index]?.map fun item =>
      { s with sheet := ⟨some item.id, item.name, item.price, item.desc⟩, opened := true }
  | .onChangeText input text =>
    if s.opened then some { s with sheet := s.sheet.set text input } else none
  | .close => if s.opened then some { s with opened := false } else none
  | .saveUpdateAddOn =>
    if s.opened then
      some { s with loading := true, inFlight := s.inFlight ++ [.write (o.save s.sheet)] }
    else none
  | .pushInArray index =>
    if s.opened then none
    else s.addOns[index]?.map fun item =>
      { s with selectedAddons := Js.toggle s.selectedAddons item.id }
  | .packages arrived =>
    if s.packages then
      some { s with
        packages := false
        selectedAddons := if arrived then o.prefill s.selectedAddons else s.selectedAddons }
    else none
  | .serve i =>
    (s.inFlight[i]?.bind (served (api createSubTask) s.server)).map fun p =>
      { s with server := p.1, inFlight := s.inFlight.eraseIdx i ++ [p.2] }
  | .deliver i =>
    s.inFlight[i]?.bind (replied { s with inFlight := s.inFlight.eraseIdx i })
  | .lose i => s.inFlight[i]?.map (failed { s with inFlight := s.inFlight.eraseIdx i })

/-- The screen just opened: the effect has run once, and both requests are sent. -/
def initial (server : List AddOn) : Screen where
  addOns := []
  selectedAddons := o.prefill []
  sheet := ⟨none, "", "", ""⟩
  opened := false
  loading := false
  packages := true
  inFlight := [.read]
  server := server

def machine (server : List AddOn) : Machine Screen Event :=
  ⟨initial o server, step createSubTask o⟩

/-! ## The screen as a client -/

/-- The screen and the client it is. -/
structure Same (s : Screen) (u : Client Save (List AddOn)) : Prop where
  server : u.server = s.server
  inFlight : u.inFlight = s.inFlight
  addOns : u.cache.getD [] = s.addOns

/-- What an event of the screen is to the client. -/
def trans (s : Screen) : Event → List (Rereads.Event Save)
  | .saveUpdateAddOn => [.write (o.save s.sheet)]
  | .serve i => [.serve i]
  | .deliver i => [.deliver i]
  | .lose i => [.lose i]
  | .addMore | .editAddons _ | .onChangeText _ _ | .close | .pushInArray _ | .packages _ => []

variable {createSubTask o}

/-- The screen does what the client does. -/
theorem same_step {s t : Screen} {u : Client Save (List AddOn)} {e : Event} (hR : Same s u)
    (h : step createSubTask o s e = some t) (u₀ : Client Save (List AddOn)) :
    ∃ v, (Rereads.machine (api createSubTask) u₀).runFrom u (trans o s e) = some v ∧
      Same t v := by
  obtain ⟨hserver, hflight, hcache⟩ := hR
  cases e with
  | addMore =>
    obtain ⟨-, ⟨⟩⟩ := Option.ite_none_left_eq_some.1 h
    exact ⟨u, rfl, hserver, hflight, hcache⟩
  | editAddons index | pushInArray index =>
    obtain ⟨-, h⟩ := Option.ite_none_left_eq_some.1 h
    obtain ⟨item, -, rfl⟩ := Option.map_eq_some_iff.1 h
    exact ⟨u, rfl, hserver, hflight, hcache⟩
  | onChangeText input text | close | packages arrived =>
    obtain ⟨-, ⟨⟩⟩ := Option.ite_none_right_eq_some.1 h
    exact ⟨u, rfl, hserver, hflight, hcache⟩
  | saveUpdateAddOn =>
    obtain ⟨-, ⟨⟩⟩ := Option.ite_none_right_eq_some.1 h
    exact ⟨_, Machine.runFrom_singleton rfl, hserver, by rw [hflight], hcache⟩
  | serve i =>
    obtain ⟨p, hp, rfl⟩ := Option.map_eq_some_iff.1 h
    refine ⟨{ u with server := p.1, inFlight := u.inFlight.eraseIdx i ++ [p.2] },
      Machine.runFrom_singleton ?_, rfl, by rw [hflight], hcache⟩
    rw [← hserver, ← hflight] at hp
    simp only [Rereads.machine, Rereads.step, hp, Option.map_some]
  | deliver i =>
    obtain ⟨m, hm, ht⟩ := Option.bind_eq_some_iff.1 h
    have hm' : u.inFlight[i]? = some m := by rw [hflight, hm]
    cases m with
    | answer w accepted =>
      cases accepted with
      | true =>
        cases ht
        refine ⟨{ u with inFlight := u.inFlight.eraseIdx i ++ [.read] },
          Machine.runFrom_singleton ?_, hserver, by rw [hflight], hcache⟩
        simp [Rereads.machine, Rereads.step, hm', delivered, api]
      | false =>
        cases ht
        refine ⟨{ u with inFlight := u.inFlight.eraseIdx i },
          Machine.runFrom_singleton ?_, hserver, by rw [hflight], hcache⟩
        simp [Rereads.machine, Rereads.step, hm', delivered, api]
    | value addOns =>
      cases ht
      refine ⟨{ u with cache := some addOns, inFlight := u.inFlight.eraseIdx i },
        Machine.runFrom_singleton ?_, hserver, by rw [hflight], rfl⟩
      simp [Rereads.machine, Rereads.step, hm', delivered]
    | write w | read => cases ht
  | lose i =>
    obtain ⟨m, hm, rfl⟩ := Option.map_eq_some_iff.1 h
    have hm' : u.inFlight[i]? = some m := by rw [hflight, hm]
    refine ⟨{ u with inFlight := u.inFlight.eraseIdx i }, Machine.runFrom_singleton ?_, ?_⟩
    · simp [Rereads.machine, Rereads.step, hm']
    · cases m <;> exact ⟨hserver, by rw [hflight]; rfl, hcache⟩

variable (createSubTask o) in
/-- **The screen is a client that reads again.** -/
theorem refines (server : List AddOn) :
    (machine createSubTask o server).Refines
      (Rereads.machine (api createSubTask) (asking server)) Same [] (trans o) where
  init := ⟨_, rfl, rfl, rfl, rfl⟩
  step hR h := same_step hR h (asking server)

/-! ## What is drawn -/

variable (createSubTask) in
/-- What a step must meet: no list overtakes another one, and what is lost is a save that the
server has not made. -/
def StepOk (s : Screen) : Event → Prop
  | .deliver i => (s.inFlight[i]?.bind Message.value?).isSome →
      (s.inFlight.take i).filterMap Message.value? = []
  | .lose i => ∀ m ∈ s.inFlight[i]?, m.Harmless (api createSubTask)
  | .addMore | .editAddons _ | .onChangeText _ _ | .close | .saveUpdateAddOn | .pushInArray _
  | .packages _ | .serve _ => True

instance (s : Screen) (e : Event) : Decidable (StepOk createSubTask s e) := by
  cases e <;> unfold StepOk <;> infer_instance

theorem inOrder_trans {s : Screen} {u : Client Save (List AddOn)} {e : Event} (hR : Same s u)
    (hok : StepOk createSubTask s e) (u₀ : Client Save (List AddOn)) :
    (Rereads.machine (api createSubTask) u₀).MeetsFrom
      (InOrder (api createSubTask) fun _ => False) u (trans o s e) := by
  have hone : ∀ d, InOrder (api createSubTask) (fun _ => False) u d →
      (Rereads.machine (api createSubTask) u₀).MeetsFrom
        (InOrder (api createSubTask) fun _ => False) u [d] := fun d hd => ⟨hd, fun _ _ => trivial⟩
  cases e with
  | deliver i | lose i =>
    refine hone _ ?_
    rw [StepOk, ← hR.inFlight] at hok
    exact hok
  | saveUpdateAddOn | serve i => exact hone _ trivial
  | addMore | editAddons index | onChangeText input text | close | pushInArray index
  | packages arrived => trivial

/-- At rest the add-ons drawn are the server's. -/
theorem drawn_eq {server : List AddOn} {es : List Event} {s : Screen}
    (hok : (machine createSubTask o server).Meets (StepOk createSubTask) es)
    (h : (machine createSubTask o server).run es = some s) (hrest : s.inFlight = []) :
    s.addOns = s.server := by
  have hrefines := refines createSubTask o server
  obtain ⟨u, hu, hR⟩ := hrefines.run h
  have hmeets := hrefines.meets (fun hR _ hok => inOrder_trans hR hok (asking server)) h hok
  have hcurrent := current_run (fun _ hread => by cases hread) (current_asking server) hmeets hu
  obtain ⟨a, hcache, hsteps⟩ := current_of_rest hcurrent (hR.inFlight.trans hrest)
  rw [← hR.addOns, hcache, Option.getD_some, ← hR.server]
  exact eq_of_steps hsteps

/-- What an answer to the client is to the screen. -/
def answer : Rereads.Event Save → Event
  | .serve i => .serve i
  | .deliver i => .deliver i
  | .lose i => .lose i
  | .write _ | .foreign _ => .saveUpdateAddOn

/-- The answers that the client can be given can be given to the screen. -/
theorem same_answer {s : Screen} {u v : Client Save (List AddOn)} (hR : Same s u)
    {d : Rereads.Event Save} {e : Event} (hd : d = .serve 0 ∧ e = .serve 0 ∨
      d = .deliver 0 ∧ e = .deliver 0) (hv : Rereads.step (api createSubTask) u d = some v) :
    ∃ t, step createSubTask o s e = some t ∧ Same t v := by
  have hsame : ∀ t, step createSubTask o s e = some t → trans o s e = [d] → Same t v := by
    intro t ht htrans
    obtain ⟨v', hv', hR'⟩ := same_step hR ht u
    rw [htrans, Machine.runFrom_cons_of_step _ hv] at hv'
    cases hv'
    exact hR'
  obtain ⟨rfl, rfl⟩ | ⟨rfl, rfl⟩ := hd
  · rw [Rereads.step, hR.inFlight, hR.server] at hv
    obtain ⟨p, hp, -⟩ := Option.map_eq_some_iff.1 hv
    have ht : ∃ t, step createSubTask o s (.serve 0) = some t :=
      ⟨_, by rw [step, hp, Option.map_some]⟩
    obtain ⟨t, ht⟩ := ht
    exact ⟨t, ht, hsame t ht rfl⟩
  · rw [Rereads.step, hR.inFlight] at hv
    obtain ⟨p, hp, -⟩ := Option.map_eq_some_iff.1 hv
    obtain ⟨m, hm, hp⟩ := Option.bind_eq_some_iff.1 hp
    have ht : ∃ t, step createSubTask o s (.deliver 0) = some t := by
      rw [step, hm, Option.bind_some]
      cases m with
      | answer w accepted => cases accepted <;> exact ⟨_, rfl⟩
      | value addOns => exact ⟨_, rfl⟩
      | write w | read => cases hp
    obtain ⟨t, ht⟩ := ht
    exact ⟨t, ht, hsame t ht rfl⟩

/-- Everything in flight can be answered, always the first message. -/
theorem exists_rest (createSubTask : List AddOn → Save → Option (List AddOn)) (o : Opened)
    {server : List AddOn} {es : List Event} {s : Screen}
    (h : (machine createSubTask o server).run es = some s) :
    ∃ fs t, (machine createSubTask o server).run (es ++ fs) = some t ∧ t.inFlight = [] ∧
      ∀ e ∈ fs, e = .serve 0 ∨ e = .deliver 0 := by
  obtain ⟨u, -, hR⟩ := (refines createSubTask o server).run h
  obtain ⟨ds, v, hv, hrest, hds⟩ := Rereads.exists_rest (api createSubTask) (asking server) u
  have hback : ∀ {s u d v}, Same s u → (d = .serve 0 ∨ d = .deliver 0) →
      (Rereads.machine (api createSubTask) (asking server)).step u d = some v →
      ∃ t, (machine createSubTask o server).step s (answer d) = some t ∧ Same t v := by
    rintro s u d v hR (rfl | rfl) hv
    · exact same_answer (o := o) hR (.inl ⟨rfl, rfl⟩) hv
    · exact same_answer (o := o) hR (.inr ⟨rfl, rfl⟩) hv
  obtain ⟨t, ht, hRt⟩ := Machine.runFrom_map hback hR hds hv
  refine ⟨ds.map answer, t, ?_, hRt.inFlight.symm.trans hrest, ?_⟩
  · rw [Machine.run, Machine.runFrom_append, ← Machine.run, h, Option.bind_some, ht]
  · intro e he
    obtain ⟨d, hd, rfl⟩ := List.mem_map.1 he
    obtain rfl | rfl := hds d hd
    · exact .inl rfl
    · exact .inr rfl

/-- **At rest** the add-ons drawn are those of the server, in every run in which the lists
arrive in order and what is lost are saves that were not made; and whatever is in flight
then, it can be answered until the screen is at rest. -/
theorem list_current (createSubTask : List AddOn → Save → Option (List AddOn)) (o : Opened)
    (server : List AddOn) {es : List Event} {s : Screen}
    (hok : (machine createSubTask o server).Meets (StepOk createSubTask) es)
    (h : (machine createSubTask o server).run es = some s) :
    (s.inFlight = [] → s.addOns = s.server) ∧
      ∃ fs t, (machine createSubTask o server).run (es ++ fs) = some t ∧ t.inFlight = [] ∧
        t.addOns = t.server := by
  refine ⟨drawn_eq hok h, ?_⟩
  obtain ⟨fs, t, ht, hrest, hfs⟩ := exists_rest createSubTask o h
  refine ⟨fs, t, ht, hrest, drawn_eq (Machine.meetsFrom_append.2 ⟨hok, fun u _ => ?_⟩) ht hrest⟩
  refine Machine.meetsFrom_of_forall ?_ u
  intro e he v
  obtain rfl | rfl := hfs e he
  · trivial
  · exact fun _ => rfl

/-- A server that makes an add-on with the next number, writes over one, and refuses one
without a title. -/
def sampleServer (l : List AddOn) (w : Save) : Option (List AddOn) :=
  if w.title = "" then none
  else some (match w.subtask_id with
    | none => l ++ [⟨l.length + 1, w.title, w.price, w.content⟩]
    | some k => l.map fun a => if a.id = k then ⟨k, w.title, w.price, w.content⟩ else a)

/-- A new task of user 3. -/
def sampleOpened : Opened := ⟨3, 7, none⟩

/-- A logo is offered for five. -/
def sampleAddOns : List AddOn := [⟨1, "Logo", "5", "A logo"⟩]

/-- The logo becomes dearer, and while this is being saved an add-on without a title is
refused. -/
def sampleRun : List Event :=
  [.serve 0, .deliver 0, .editAddons 0, .onChangeText .addOnsPrice "8", .saveUpdateAddOn,
    .close, .addMore, .saveUpdateAddOn, .serve 1, .deliver 1, .serve 0, .deliver 0, .serve 0,
    .deliver 0]

/-- The dearer logo is drawn. -/
theorem list_current_sample :
    ∃ s, (machine sampleServer sampleOpened sampleAddOns).run sampleRun = some s ∧
      s.server = [⟨1, "Logo", "8", "A logo"⟩] ∧ s.addOns = s.server := by
  have hok : (machine sampleServer sampleOpened sampleAddOns).Meets (StepOk sampleServer)
      sampleRun := by decide
  exact ⟨_, rfl, rfl, (list_current sampleServer sampleOpened sampleAddOns hok rfl).1 rfl⟩

/-- A list that overtakes another one: two saves are confirmed and both lists asked for, and
the older one arrives last and stays. -/
example : ∃ s, (machine sampleServer sampleOpened sampleAddOns).run
    [.serve 0, .deliver 0, .editAddons 0, .saveUpdateAddOn, .serve 0, .deliver 0, .serve 0,
      .editAddons 0, .onChangeText .addOnsPrice "8", .saveUpdateAddOn, .serve 1, .deliver 1,
      .serve 1, .deliver 1, .deliver 0] = some s ∧ s.inFlight = [] ∧
      s.server = [⟨1, "Logo", "8", "A logo"⟩] ∧ s.addOns = [⟨1, "Logo", "5", "A logo"⟩] :=
  ⟨_, rfl, rfl, rfl, rfl⟩

/-! ## What the server knows -/

/-- The add-ons that are ticked, that the sheet is for and that saves are on their way for. -/
structure Known (s : Screen) : Prop where
  ticked : ∀ k ∈ s.selectedAddons, k ∈ ids s.server
  edited : ∀ k ∈ s.sheet.selectedAddonId, k ∈ ids s.server
  saved : ∀ w, .write w ∈ s.inFlight → ∀ k ∈ w.subtask_id, k ∈ ids s.server
  nodup : s.selectedAddons.Nodup

/-- The ids of the server's add-ons stay. -/
theorem ids_subset_of_steps (hkeeps : ∀ l w l', createSubTask l w = some l' → ids l ⊆ ids l')
    {l l' : List AddOn} (h : Steps (api createSubTask) (fun _ => True) l l') : ids l ⊆ ids l' := by
  induction h with
  | refl => exact List.Subset.refl _
  | tail _ hw ih =>
    obtain ⟨w, -, hw⟩ := hw
    exact fun k hk => hkeeps _ w _ hw (ih hk)

/-- What is drawn has been on the server, which has kept it. -/
theorem drawn_known (hkeeps : ∀ l w l', createSubTask l w = some l' → ids l ⊆ ids l')
    {server : List AddOn} {es : List Event} {s : Screen}
    (h : (machine createSubTask o server).run es = some s) : ids s.addOns ⊆ ids s.server := by
  obtain ⟨u, hu, hR⟩ := (refines createSubTask o server).run h
  rw [← hR.addOns, ← hR.server]
  cases hcache : u.cache with
  | none => exact List.nil_subset _
  | some a =>
    exact ids_subset_of_steps hkeeps
      (held_run (fun a ha => absurd ha (not_held_asking _ a)) hu a (.inl hcache))

/-- The ticks of the task that is edited, or those there are. -/
theorem mem_prefill {selectedAddons : List ℕ} {k : ℕ} (h : k ∈ o.prefill selectedAddons) :
    k ∈ selectedAddons ∨ ∃ t ∈ o.item, k ∈ t.sub_tasks := by
  rw [Opened.prefill] at h
  cases hitem : o.item with
  | none =>
    rw [hitem] at h
    exact .inl h
  | some t =>
    rw [hitem] at h
    exact .inr ⟨t, rfl, h⟩

theorem nodup_prefill (hitem : ∀ t ∈ o.item, t.sub_tasks.Nodup) {selectedAddons : List ℕ}
    (h : selectedAddons.Nodup) : (o.prefill selectedAddons).Nodup := by
  rw [Opened.prefill]
  cases ho : o.item with
  | none => exact h
  | some t => exact hitem t ho

/-- A row that is drawn is of an add-on of the server. -/
theorem id_known {s : Screen} (hdrawn : ids s.addOns ⊆ ids s.server) {index : ℕ} {item : AddOn}
    (hitem : s.addOns[index]? = some item) : item.id ∈ ids s.server :=
  hdrawn (List.mem_map_of_mem (List.mem_of_getElem? hitem))

/-- The server keeps what it knew; what is drawn and what is ticked do not change. -/
theorem Known.served {s : Screen} (hs : Known s) {server : List AddOn}
    (hids : ids s.server ⊆ ids server) {inFlight : List (Message Save (List AddOn))}
    (hflight : ∀ w, .write w ∈ inFlight → .write w ∈ s.inFlight) :
    Known { s with server := server, inFlight := inFlight } where
  ticked k hk := hids (hs.ticked k hk)
  edited k hk := hids (hs.edited k hk)
  saved w hw k hk := hids (hs.saved w (hflight w hw) k hk)
  nodup := hs.nodup

theorem known_step (hkeeps : ∀ l w l', createSubTask l w = some l' → ids l ⊆ ids l')
    {s t : Screen} {e : Event} (hdrawn : ids s.addOns ⊆ ids s.server)
    (hitem : ∀ t ∈ o.item, t.sub_tasks.Nodup ∧ ∀ k ∈ t.sub_tasks, k ∈ ids s.server)
    (hs : Known s) (h : step createSubTask o s e = some t) :
    Known t ∧ ids s.server ⊆ ids t.server := by
  cases e with
  | addMore =>
    obtain ⟨-, ⟨⟩⟩ := Option.ite_none_left_eq_some.1 h
    exact ⟨{ hs with edited := by simp }, List.Subset.refl _⟩
  | editAddons index =>
    obtain ⟨-, h⟩ := Option.ite_none_left_eq_some.1 h
    obtain ⟨item, hrow, rfl⟩ := Option.map_eq_some_iff.1 h
    refine ⟨{ hs with edited := ?_ }, List.Subset.refl _⟩
    rintro k ⟨⟩
    exact id_known hdrawn hrow
  | onChangeText input text =>
    obtain ⟨-, ⟨⟩⟩ := Option.ite_none_right_eq_some.1 h
    refine ⟨{ hs with edited := ?_ }, List.Subset.refl _⟩
    cases input <;> exact hs.edited
  | close =>
    obtain ⟨-, ⟨⟩⟩ := Option.ite_none_right_eq_some.1 h
    exact ⟨{ hs with }, List.Subset.refl _⟩
  | saveUpdateAddOn =>
    obtain ⟨-, ⟨⟩⟩ := Option.ite_none_right_eq_some.1 h
    refine ⟨{ hs with saved := ?_ }, List.Subset.refl _⟩
    intro w hw k hk
    rcases List.mem_append.1 hw with hw | hw
    · exact hs.saved w hw k hk
    · obtain ⟨⟩ := List.mem_singleton.1 hw
      exact hs.edited k hk
  | pushInArray index =>
    obtain ⟨-, h⟩ := Option.ite_none_left_eq_some.1 h
    obtain ⟨item, hrow, rfl⟩ := Option.map_eq_some_iff.1 h
    refine ⟨{ hs with ticked := ?_, nodup := Js.toggle_nodup hs.nodup item.id }, List.Subset.refl _⟩
    intro k hk
    rw [Js.mem_toggle hs.nodup] at hk
    by_cases hkid : k = item.id
    · rw [hkid]
      exact id_known hdrawn hrow
    · rw [if_neg hkid] at hk
      exact hs.ticked k hk
  | packages arrived =>
    obtain ⟨-, ⟨⟩⟩ := Option.ite_none_right_eq_some.1 h
    cases arrived with
    | false => exact ⟨{ hs with }, List.Subset.refl _⟩
    | true =>
      refine ⟨{ hs with
        ticked := ?_, nodup := nodup_prefill (fun t ht => (hitem t ht).1) hs.nodup },
        List.Subset.refl _⟩
      intro k hk
      obtain hk | ⟨t, ht, hk⟩ := mem_prefill hk
      · exact hs.ticked k hk
      · exact (hitem t ht).2 k hk
  | serve i =>
    obtain ⟨p, hp, rfl⟩ := Option.map_eq_some_iff.1 h
    obtain ⟨m, hm, hp⟩ := Option.bind_eq_some_iff.1 hp
    -- the server answers a save or a request, and keeps the ids it had
    have hserved : ids s.server ⊆ ids p.1 ∧ ∀ w, p.2 ≠ .write w := by
      cases m with
      | write w =>
        rw [served] at hp
        split at hp
        · rename_i l' happly
          cases hp
          exact ⟨hkeeps _ w _ happly, fun _ h => by cases h⟩
        · cases hp
          exact ⟨List.Subset.refl _, fun _ h => by cases h⟩
      | read =>
        cases hp
        exact ⟨List.Subset.refl _, fun _ h => by cases h⟩
      | answer w accepted | value a => cases hp
    refine ⟨hs.served hserved.1 fun w hw => ?_, hserved.1⟩
    rcases List.mem_append.1 hw with hw | hw
    · exact mem_of_eraseIdx hw
    · exact absurd (List.mem_singleton.1 hw).symm (hserved.2 w)
  | deliver i =>
    obtain ⟨m, hm, ht⟩ := Option.bind_eq_some_iff.1 h
    have hkept : Known { s with inFlight := s.inFlight.eraseIdx i } :=
      hs.served (List.Subset.refl _) fun w hw => mem_of_eraseIdx hw
    cases m with
    | answer w accepted =>
      cases accepted with
      | true =>
        cases ht
        refine ⟨{ hkept with saved := ?_ }, List.Subset.refl _⟩
        intro w' hw' k hk
        refine hkept.saved w' ?_ k hk
        simpa using hw'
      | false =>
        cases ht
        exact ⟨{ hkept with }, List.Subset.refl _⟩
    | value addOns =>
      cases ht
      exact ⟨{ hkept with }, List.Subset.refl _⟩
    | write w | read => cases ht
  | lose i =>
    obtain ⟨m, hm, rfl⟩ := Option.map_eq_some_iff.1 h
    have hkept : Known { s with inFlight := s.inFlight.eraseIdx i } :=
      hs.served (List.Subset.refl _) fun w hw => mem_of_eraseIdx hw
    cases m <;> exact ⟨{ hkept with }, List.Subset.refl _⟩

/-- **What is ticked, edited and saved the server knows**, in every run, if it keeps its
add-ons: no tick, no sheet and no save on its way is for an add-on that it does not have, and
none is ticked twice. -/
theorem ids_known_run (hkeeps : ∀ l w l', createSubTask l w = some l' → ids l ⊆ ids l')
    {server : List AddOn}
    (hitem : ∀ t ∈ o.item, t.sub_tasks.Nodup ∧ ∀ k ∈ t.sub_tasks, k ∈ ids server)
    {es : List Event} {s : Screen} (h : (machine createSubTask o server).run es = some s) :
    Known s := by
  suffices hboth : Known s ∧ ids server ⊆ ids s.server from hboth.1
  induction es using List.reverseRecOn generalizing s with
  | nil =>
    cases h
    refine ⟨⟨fun k hk => ?_, by simp [machine, initial], by simp [machine, initial],
      nodup_prefill (fun t ht => (hitem t ht).1) List.nodup_nil⟩, List.Subset.refl _⟩
    obtain hk | ⟨t, ht, hk⟩ := mem_prefill hk
    · cases hk
    · exact (hitem t ht).2 k hk
  | append_singleton es e ih =>
    obtain ⟨t, ht, hts⟩ := Machine.run_concat_eq_some _ |>.1 h
    obtain ⟨hknown, hids⟩ := ih ht
    have hitem' : ∀ t' ∈ o.item, t'.sub_tasks.Nodup ∧ ∀ k ∈ t'.sub_tasks, k ∈ ids t.server :=
      fun t' ht' => ⟨(hitem t' ht').1, fun k hk => hids ((hitem t' ht').2 k hk)⟩
    obtain ⟨hknown', hids'⟩ := known_step hkeeps (drawn_known hkeeps ht) hitem' hknown hts
    exact ⟨hknown', fun k hk => hids' (hids hk)⟩

/-- The server of the sample keeps its add-ons. -/
theorem sampleServer_keeps (l : List AddOn) (w : Save) (l' : List AddOn)
    (h : sampleServer l w = some l') : ids l ⊆ ids l' := by
  obtain ⟨-, h⟩ := Option.ite_none_left_eq_some.1 h
  cases hid : w.subtask_id with
  | none =>
    rw [hid] at h
    cases h
    rw [ids, ids, List.map_append]
    exact List.subset_append_left _ _
  | some k =>
    rw [hid] at h
    cases h
    rw [ids, ids, List.map_map]
    intro i hi
    obtain ⟨a, ha, rfl⟩ := List.mem_map.1 hi
    refine List.mem_map.2 ⟨a, ha, ?_⟩
    rw [Function.comp_apply]
    split
    · rename_i hk
      exact hk.symm
    · rfl

/-- The logo is ticked, and saved once more. -/
def tickedRun : List Event := sampleRun ++ [.pushInArray 0, .editAddons 0, .saveUpdateAddOn]

theorem ids_known_sample :
    ∃ s, (machine sampleServer sampleOpened sampleAddOns).run tickedRun = some s ∧
      s.selectedAddons = [1] ∧ Known s := by
  have hitem : ∀ t ∈ sampleOpened.item,
      t.sub_tasks.Nodup ∧ ∀ k ∈ t.sub_tasks, k ∈ ids sampleAddOns := by simp [sampleOpened]
  refine ⟨_, rfl, rfl, ?_⟩
  exact ids_known_run sampleServer_keeps hitem
    (rfl : (machine sampleServer sampleOpened sampleAddOns).run tickedRun = some _)

end TaskAddOns
