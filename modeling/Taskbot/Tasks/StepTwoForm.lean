import Mathlib
import Taskbot.Async.Machine
import Taskbot.Js.Toggle

/-!
# The form of the second step

The second step of the task wizard, `PostTaskStepTwo`: the custom fields of a task and
the add-ons that go with it.  Both can be edited while the packages are still loading,
and the arrival of these runs the effect that fills the form once more.

* `Form`, `Edit`, `Form.edit` — the custom fields and the add-ons ticked, and the
  handlers that edit them.
* `Task.form`, `prefill` — the effect, which fills the form from an edited task and
  leaves that of a new one alone.
* `Screen`, `step` — the form with its two requests, `get-all-addons` and
  `get-task-data`; the packages, which these edits do not touch, are left out.
* `edits_kept_iff` — **no edit is lost if and only if the form is as the task has it when
  the packages arrive.**
-/

namespace PostTaskStepTwo

open Async

/-! ## The form -/

/-- A row of `customFields`. -/
structure CustomField where
  title : String
  valOne : String
  valTwo : String
  valThree : String
  deriving DecidableEq

/-- The inputs of a row. -/
inductive Input where
  | title
  | valOne
  | valTwo
  | valThree
  deriving DecidableEq

/-- The text of one input changes. -/
def CustomField.set (c : CustomField) (text : String) : Input → CustomField
  | .title => { c with title := text }
  | .valOne => { c with valOne := text }
  | .valTwo => { c with valTwo := text }
  | .valThree => { c with valThree := text }

/-- What the user edits: the custom fields, and the ids of the add-ons ticked. -/
structure Form where
  customFields : List CustomField
  selectedAddons : List ℕ
  deriving DecidableEq

/-- The edits. -/
inductive Edit where
  | addCustomField
  | deleteCustomField (index : ℕ)
  /-- Another text in an input of a row. -/
  | onChangeText (index : ℕ) (input : Input) (text : String)
  /-- `PushInArray`: a tap on the box of an add-on. -/
  | pushInArray (id : ℕ)
  deriving DecidableEq

/-- The handlers. -/
def Form.edit (f : Form) : Edit → Form
  | .addCustomField => { f with customFields := f.customFields ++ [⟨"", "", "", ""⟩] }
  | .deleteCustomField index => { f with customFields := f.customFields.eraseIdx index }
  | .onChangeText index input text =>
    { f with customFields := f.customFields.modify index fun c => c.set text input }
  | .pushInArray id => { f with selectedAddons := Js.toggle f.selectedAddons id }

/-! ## The task edited -/

/-- A custom field as the task has it. -/
structure StoredField where
  title : String
  basic : String
  premium : String
  pro : String
  deriving DecidableEq

/-- What the effect reads of the task that is edited. -/
structure Task where
  custom_fields : List StoredField
  /-- The ids of its `sub_tasks`. -/
  sub_tasks : List ℕ
  deriving DecidableEq

/-- The form of a task. -/
def Task.form (t : Task) : Form :=
  ⟨t.custom_fields.map fun c => ⟨c.title, c.basic, c.premium, c.pro⟩, t.sub_tasks⟩

/-- The effect: it does nothing for a new task. -/
def prefill (item : Option Task) (f : Form) : Form :=
  match item with
  | some t => t.form
  | none => f

/-! ## The screen -/

/-- The requests of the screen. -/
inductive Request where
  /-- `get-all-addons`. -/
  | getaddons
  /-- `get-task-data`. -/
  | getpackagesData
  deriving DecidableEq

/-- What comes back for a request. -/
inductive Reply where
  /-- The add-ons, by their ids. -/
  | addOns (ids : List ℕ)
  /-- The packages. -/
  | packages
  /-- The `catch` branch. -/
  | failure
  deriving DecidableEq

/-- The state of the screen. -/
structure Screen where
  form : Form
  /-- The ids of the add-ons drawn. -/
  addOns : List ℕ
  /-- Are the packages loading? -/
  loader : Bool
  /-- The hook the effect depends on. -/
  reload : Bool
  /-- The requests sent and not yet answered. -/
  inFlight : List Request
  deriving DecidableEq

/-- What can happen to the screen. -/
inductive Event where
  | edit (e : Edit)
  /-- The add-ons are asked for again, as they are when one was saved. -/
  | getaddons
  /-- The request at place `i` of those in flight is answered. -/
  | reply (i : ℕ) (r : Reply)
  deriving DecidableEq

/-- Can the edit be made?  The rows and the boxes are there while they are drawn. -/
def Screen.Offers (s : Screen) : Edit → Prop
  | .addCustomField => True
  | .deleteCustomField index | .onChangeText index _ _ => index < s.form.customFields.length
  | .pushInArray id => id ∈ s.addOns

instance (s : Screen) (e : Edit) : Decidable (s.Offers e) := by
  cases e <;> unfold Screen.Offers <;> infer_instance

/-- The handlers of the replies.  The packages toggle `reload`, which runs the effect
again. -/
def replied (item : Option Task) (s : Screen) : Request → Reply → Option Screen
  | .getaddons, .addOns ids => some { s with addOns := ids }
  | .getaddons, .failure => some s
  | .getpackagesData, .packages =>
    some { s with loader := false, reload := !s.reload, form := prefill item s.form }
  | .getpackagesData, .failure => some { s with loader := false }
  | .getaddons, .packages | .getpackagesData, .addOns _ => none

/-- One event. -/
def step (item : Option Task) (s : Screen) : Event → Option Screen
  | .edit e => if s.Offers e then some { s with form := s.form.edit e } else none
  | .getaddons => some { s with inFlight := s.inFlight ++ [.getaddons] }
  | .reply i r =>
    s.inFlight[i]?.bind fun q => replied item { s with inFlight := s.inFlight.eraseIdx i } q r

/-- The screen just opened: both requests sent, and the effect run once. -/
def initial (item : Option Task) : Screen where
  form := prefill item ⟨[], []⟩
  addOns := []
  loader := true
  reload := false
  inFlight := [.getaddons, .getpackagesData]

/-- The screen opened for a task, or for a new one. -/
def machine (item : Option Task) : Machine Screen Event := ⟨initial item, step item⟩

/-! ## The edits made -/

/-- The edit an event makes. -/
def Event.edit? : Event → Option Edit
  | .edit e => some e
  | .getaddons | .reply _ _ => none

/-- The form of a task with all edits of a run, in order. -/
def edited (t : Task) (es : List Event) : Form := (es.filterMap Event.edit?).foldl Form.edit t.form

@[simp] theorem edited_nil (t : Task) : edited t [] = t.form := rfl

theorem edited_concat (t : Task) (es : List Event) (e : Event) :
    edited t (es ++ [e]) = (e.edit?.map (edited t es).edit).getD (edited t es) := by
  rw [edited, List.filterMap_append, List.foldl_append, ← edited]
  cases h : e.edit? <;> simp [h]

/-- What a step must meet: when the packages arrive, the form is as the task has it. -/
def StepOk (t : Task) (s : Screen) : Event → Prop
  | .reply i .packages => s.inFlight[i]? = some .getpackagesData → s.form = t.form
  | _ => True

instance (t : Task) (s : Screen) (e : Event) : Decidable (StepOk t s e) := by
  unfold StepOk
  split <;> infer_instance

/-- The form after a reply: the packages put back that of the task. -/
theorem replied_form {t : Task} {s u : Screen} {q : Request} {r : Reply}
    (h : replied (some t) s q r = some u) :
    u.form = if q = .getpackagesData ∧ r = .packages then t.form else s.form := by
  cases q <;> cases r <;> simp only [replied, Option.some.injEq, reduceCtorEq] at h <;> subst h <;>
    simp [prefill]

/-- One step loses no edit exactly when it is as in `StepOk`. -/
theorem kept_step_iff {t : Task} {es : List Event} {s u : Screen} {e : Event}
    (hs : s.form = edited t es) (h : step (some t) s e = some u) :
    StepOk t s e ↔ u.form = edited t (es ++ [e]) := by
  rw [edited_concat, ← hs]
  cases e with
  | edit e =>
    obtain ⟨-, ⟨⟩⟩ := Option.ite_none_right_eq_some.1 h
    exact iff_of_true trivial rfl
  | getaddons =>
    cases h
    exact iff_of_true trivial rfl
  | reply i r =>
    obtain ⟨q, hq, hu⟩ := Option.bind_eq_some_iff.1 h
    have hform := replied_form hu
    simp only [Event.edit?, Option.map_none, Option.getD_none, hform]
    cases r with
    | packages =>
      cases q with
      | getpackagesData =>
        rw [if_pos ⟨rfl, rfl⟩, StepOk]
        exact ⟨fun hok => (hok hq).symm, fun heq _ => heq.symm⟩
      | getaddons => cases hu
    | addOns ids | failure => simp [StepOk]

/-- **No edit is lost.**  All along a run the form of an edited task has all the edits
made, in order, if and only if the form is as the task has it when the packages arrive:
the edits made until then have undone each other. -/
theorem edits_kept_iff {t : Task} {es : List Event} {s : Screen}
    (h : (machine (some t)).run es = some s) :
    (machine (some t)).Meets (StepOk t) es ↔
      ∀ fs, fs <+: es → ∀ u, (machine (some t)).run fs = some u → u.form = edited t fs :=
  (machine (some t)).meets_iff (I := fun fs u => u.form = edited t fs) rfl
    (fun _ _ _ _ _ hs hstep => kept_step_iff hs hstep) h

/-- A task with one custom field and one add-on. -/
def sample : Task := ⟨[⟨"Pages", "1", "5", "9"⟩], [4]⟩

/-- Edits after the packages have arrived, and before that one taken back. -/
theorem edits_kept_sample :
    ∃ s, (machine (some sample)).run [.edit .addCustomField, .edit (.deleteCustomField 1),
        .reply 1 .packages, .edit (.onChangeText 0 .valTwo "6")] = some s ∧
      s.form = edited sample [.edit .addCustomField, .edit (.deleteCustomField 1),
        .reply 1 .packages, .edit (.onChangeText 0 .valTwo "6")] := by
  have hok : (machine (some sample)).Meets (StepOk sample) [.edit .addCustomField,
      .edit (.deleteCustomField 1), .reply 1 .packages,
      .edit (.onChangeText 0 .valTwo "6")] := by decide
  exact ⟨_, rfl, (edits_kept_iff rfl).1 hok _ List.prefix_rfl _ rfl⟩

/-- **An edit is lost.**  A custom field added while the packages are loading is gone
when they have arrived. -/
theorem field_lost :
    ∃ s, (machine (some sample)).run [.edit .addCustomField, .reply 1 .packages] = some s ∧
      s.form = sample.form ∧
      s.form ≠ edited sample [.edit .addCustomField, .reply 1 .packages] :=
  ⟨_, rfl, rfl, by decide⟩

end PostTaskStepTwo
