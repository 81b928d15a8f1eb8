import Mathlib
import Taskbot.Async.Machine
import Taskbot.Async.SharedText

/-!
# Drafts of comments, disputes and cancellations

The screens `AvailableTaskDetail` and `ProjectActivity` have a comment box and a dispute
form, and the first one a form to cancel the order as well.  All of them are the same
hook, `description`.

* `AvailableTaskDetail` — the screen of one order.
* `ActivityDrafts` — the screen of a project, with the proposal selected in it.
* `drafts_isolated_iff` — **each request sends the draft of its form if and only if** the
  form that sends was the last to be written, or the last to be written has the same
  text; and then what is typed into another form, or for another freelancer, makes no
  difference.
-/

open Async

namespace AvailableTaskDetail

open SharedText

/-! ## One order -/

/-- The forms of the screen. -/
inductive Form where
  /-- `update-activities`. -/
  | comment
  /-- `create-dispute`. -/
  | dispute
  /-- `task-cancelled`. -/
  | cancel
  deriving DecidableEq

/-- What comes back for a request. -/
inductive Reply where
  | success
  | error
  /-- Any other `type`. -/
  | other
  /-- The `catch` branch. -/
  | failure
  deriving DecidableEq

/-- The state of the screen. -/
structure State where
  /-- The hook `description`. -/
  description : SharedText Form String
  /-- The forms whose requests are not yet answered. -/
  inFlight : List Form
  deriving DecidableEq

/-- What can happen to the screen. -/
inductive Event where
  /-- Another text in the field of a form. -/
  | setDescription (form : Form) (body : String)
  | updateActivities
  /-- `createDispute`; is one of the issues selected? -/
  | createDispute (issue : Bool)
  | cancelStatusTask
  /-- The request at place `i` of those in flight is answered. -/
  | reply (i : ℕ) (r : Reply)
  deriving DecidableEq

/-- A form sends the text. -/
def send (s : State) (form : Form) : State :=
  ⟨s.description.send form, s.inFlight ++ [form]⟩

/-- The field of a form is emptied. -/
def clear (s : State) (form : Form) : State := { s with description := s.description.write form "" }

/-- The handlers of the replies: a comment empties the field whatever the answer is. -/
def replied (s : State) : Form → Reply → State
  | .comment, .success | .comment, .error | .comment, .other => clear s .comment
  | .cancel, .success => clear s .cancel
  | .comment, .failure | .dispute, _ | .cancel, .error | .cancel, .other | .cancel, .failure => s

/-- One event.  Without an issue `createDispute` throws before anything is sent. -/
def step (s : State) : Event → Option State
  | .setDescription form body => some { s with description := s.description.write form body }
  | .updateActivities => some (send s .comment)
  | .createDispute issue => some (if issue then send s .dispute else s)
  | .cancelStatusTask => some (send s .cancel)
  | .reply i r =>
    s.inFlight[i]?.map fun form => replied { s with inFlight := s.inFlight.eraseIdx i } form r

/-- The screen just opened. -/
def machine : Machine State Event := ⟨⟨⟨"", []⟩, []⟩, step⟩

/-! ### What the handlers do to the text -/

/-- What a reply does to the text. -/
def emptied : Form → Reply → Option (Action Form String)
  | .comment, .success | .comment, .error | .comment, .other => some (.write .comment "")
  | .cancel, .success => some (.write .cancel "")
  | .comment, .failure | .dispute, _ | .cancel, .error | .cancel, .other | .cancel, .failure => none

/-- What an event does to the text. -/
def act (inFlight : List Form) : Event → Option (Action Form String)
  | .setDescription form body => some (.write form body)
  | .updateActivities => some (.send .comment)
  | .createDispute issue => if issue then some (.send .dispute) else none
  | .cancelStatusTask => some (.send .cancel)
  | .reply i r => inFlight[i]?.bind fun form => emptied form r

/-- What an event does to the requests in flight. -/
def next (inFlight : List Form) : Event → Option (List Form)
  | .setDescription _ _ => some inFlight
  | .updateActivities => some (inFlight ++ [.comment])
  | .createDispute issue => some (if issue then inFlight ++ [.dispute] else inFlight)
  | .cancelStatusTask => some (inFlight ++ [.cancel])
  | .reply i _ => inFlight[i]?.map fun _ => inFlight.eraseIdx i

theorem replied_eq (s : State) (form : Form) (r : Reply) :
    replied s form r = { s with description := s.description.perform (emptied form r) } := by
  cases form <;> cases r <;> rfl

/-- The forms share the hook `description`. -/
theorem shares : Shares machine State.description State.inFlight act next "" where
  init := rfl
  step := by
    intro s e t h
    cases e with
    | setDescription form body | updateActivities | cancelStatusTask =>
      cases h
      exact ⟨rfl, rfl⟩
    | createDispute issue =>
      cases h
      cases issue <;> exact ⟨rfl, rfl⟩
    | reply i r =>
      obtain ⟨form, hform, rfl⟩ := Option.map_eq_some_iff.1 h
      rw [replied_eq]
      simp [act, next, hform]
  enabled := by
    intro s e h
    cases e with
    | reply i r => simpa [machine, step, next] using h
    | setDescription form body | updateActivities | cancelStatusTask | createDispute issue =>
      cases h

/-- What a step must meet: nothing has disturbed the draft that is sent. -/
def StepOk (s : State) (e : Event) : Prop :=
  ∀ form, act s.inFlight e = some (.send form) → Undisturbed "" form s.description.log

instance (s : State) (e : Event) : Decidable (StepOk s e) := by
  unfold StepOk
  infer_instance

/-- Every event but typing into other forms. -/
def keep (form : Form) : Event → Bool
  | .setDescription form' _ => form' = form
  | _ => true

/-- Typing into another form does nothing else. -/
theorem of_not_keep {form : Form} {inFlight inFlight' : List Form} {e : Event}
    (hdrop : keep form e = false) (hnext : next inFlight e = some inFlight') :
    inFlight' = inFlight ∧
      ∃ form' b, form' ≠ form ∧ act inFlight e = some (.write form' b) := by
  cases e with
  | setDescription form' body =>
    cases hnext
    exact ⟨rfl, form', body, by simpa [keep] using hdrop, rfl⟩
  | updateActivities | createDispute issue | cancelStatusTask | reply i r => cases hdrop

end AvailableTaskDetail

namespace ActivityDrafts

open SharedText

/-! ## The freelancers of a project -/

/-- The forms of the screen. -/
inductive Form where
  /-- `update-activities`. -/
  | comment
  /-- `create-project-dispute`. -/
  | dispute
  deriving DecidableEq

/-- A form, for a proposal. -/
abbrev Draft := Form × ℕ

/-- The state of the screen. -/
structure State where
  /-- The hook `description`. -/
  description : SharedText Draft String
  /-- The id of the proposal selected. -/
  selectedItem : ℕ
  /-- The requests not yet answered. -/
  inFlight : List Draft
  deriving DecidableEq

/-- What can happen to the screen. -/
inductive Event where
  /-- A tap on another freelancer. -/
  | setSelectedItem (proposal_id : ℕ)
  /-- Another text in the field of a form, for the proposal selected. -/
  | setDescription (form : Form) (proposal_id : ℕ) (body : String)
  | addComment
  /-- `createDispute`; is one of the issues selected? -/
  | createDispute (issue : Bool)
  /-- The request at place `i` of those in flight is answered. -/
  | reply (i : ℕ) (r : AvailableTaskDetail.Reply)
  deriving DecidableEq

/-- A form sends the text, for the proposal selected. -/
def send (s : State) (form : Form) : State :=
  { s with
    description := s.description.send (form, s.selectedItem)
    inFlight := s.inFlight ++ [(form, s.selectedItem)] }

/-- The handlers of the replies: a comment empties the field whatever the answer is. -/
def replied (s : State) (q : Draft) (r : AvailableTaskDetail.Reply) : State :=
  match q.1, r with
  | .comment, .success | .comment, .error | .comment, .other =>
    { s with description := s.description.write q "" }
  | .comment, .failure | .dispute, _ => s

/-- One event.  Selecting a freelancer leaves the text as it is. -/
def step (s : State) : Event → Option State
  | .setSelectedItem proposal_id => some { s with selectedItem := proposal_id }
  | .setDescription form proposal_id body =>
    if proposal_id = s.selectedItem then
      some { s with description := s.description.write (form, proposal_id) body }
    else none
  | .addComment => some (send s .comment)
  | .createDispute issue => some (if issue then send s .dispute else s)
  | .reply i r =>
    s.inFlight[i]?.map fun q => replied { s with inFlight := s.inFlight.eraseIdx i } q r

/-- The screen opened for a proposal. -/
def machine (indexItem : ℕ) : Machine State Event := ⟨⟨⟨"", []⟩, indexItem, []⟩, step⟩

/-! ### What the handlers do to the text -/

/-- The state but for the text. -/
def rest (s : State) : ℕ × List Draft := (s.selectedItem, s.inFlight)

/-- What a reply does to the text. -/
def emptied (q : Draft) (r : AvailableTaskDetail.Reply) : Option (Action Draft String) :=
  match q.1, r with
  | .comment, .success | .comment, .error | .comment, .other => some (.write q "")
  | .comment, .failure | .dispute, _ => none

/-- What an event does to the text. -/
def act (k : ℕ × List Draft) : Event → Option (Action Draft String)
  | .setSelectedItem _ => none
  | .setDescription form proposal_id body => some (.write (form, proposal_id) body)
  | .addComment => some (.send (.comment, k.1))
  | .createDispute issue => if issue then some (.send (.dispute, k.1)) else none
  | .reply i r => k.2[i]?.bind fun q => emptied q r

/-- What an event does to the rest of the state. -/
def next (k : ℕ × List Draft) : Event → Option (ℕ × List Draft)
  | .setSelectedItem proposal_id => some (proposal_id, k.2)
  | .setDescription _ proposal_id _ => if proposal_id = k.1 then some k else none
  | .addComment => some (k.1, k.2 ++ [(.comment, k.1)])
  | .createDispute issue => some (if issue then (k.1, k.2 ++ [(.dispute, k.1)]) else k)
  | .reply i _ => k.2[i]?.map fun _ => (k.1, k.2.eraseIdx i)

theorem replied_eq (s : State) (q : Draft) (r : AvailableTaskDetail.Reply) :
    replied s q r = { s with description := s.description.perform (emptied q r) } := by
  obtain ⟨form, proposal_id⟩ := q
  cases form <;> cases r <;> rfl

/-- The forms share the hook `description`, for all proposals. -/
theorem shares (indexItem : ℕ) :
    Shares (machine indexItem) State.description rest act next "" where
  init := rfl
  step := by
    intro s e t h
    cases e with
    | setSelectedItem proposal_id | addComment =>
      cases h
      exact ⟨rfl, rfl⟩
    | setDescription form proposal_id body =>
      obtain ⟨hselected, ⟨⟩⟩ := Option.ite_none_right_eq_some.1 h
      simp [next, act, rest, hselected, perform]
    | createDispute issue =>
      cases h
      cases issue <;> exact ⟨rfl, rfl⟩
    | reply i r =>
      obtain ⟨q, hq, rfl⟩ := Option.map_eq_some_iff.1 h
      rw [replied_eq]
      simp [act, next, rest, hq]
  enabled := by
    intro s e h
    cases e with
    | reply i r => simpa [machine, step, next, rest] using h
    | setDescription form proposal_id body =>
      have hne : proposal_id ≠ s.selectedItem := by simpa [machine, step] using h
      exact if_neg hne
    | setSelectedItem proposal_id | addComment | createDispute issue => cases h

/-- What a step must meet: nothing has disturbed the draft that is sent. -/
def StepOk (s : State) (e : Event) : Prop :=
  ∀ q, act (rest s) e = some (.send q) → Undisturbed "" q s.description.log

instance (s : State) (e : Event) : Decidable (StepOk s e) := by
  unfold StepOk
  infer_instance

/-- Every event but typing into other forms, or for other proposals. -/
def keep (q : Draft) : Event → Bool
  | .setDescription form proposal_id _ => (form, proposal_id) = q
  | _ => true

/-- Typing into another form, or for another proposal, does nothing else. -/
theorem of_not_keep {q : Draft} {k k' : ℕ × List Draft} {e : Event}
    (hdrop : keep q e = false) (hnext : next k e = some k') :
    k' = k ∧ ∃ q' b, q' ≠ q ∧ act k e = some (.write q' b) := by
  cases e with
  | setDescription form proposal_id body =>
    obtain ⟨-, ⟨⟩⟩ := Option.ite_none_right_eq_some.1 hnext
    exact ⟨rfl, (form, proposal_id), body, by simpa [keep] using hdrop, rfl⟩
  | setSelectedItem proposal_id | addComment | createDispute issue | reply i r => cases hdrop

end ActivityDrafts

/-! ## Isolation -/

namespace Drafts

open SharedText

/-- **Isolation of the drafts.**  On both screens, each request of a run sends the draft of
its form exactly when nothing has disturbed that draft; and in two such runs that differ
only in what was typed into other forms, or for other freelancers, a form sends the same
texts. -/
theorem drafts_isolated_iff (form : AvailableTaskDetail.Form)
    (es es' : List AvailableTaskDetail.Event) (indexItem : ℕ) (q : ActivityDrafts.Draft)
    (ds ds' : List ActivityDrafts.Event) :
    (∀ s, AvailableTaskDetail.machine.run es = some s →
      (AvailableTaskDetail.machine.Meets AvailableTaskDetail.StepOk es ↔
        Isolated "" s.description.log)) ∧
    (∀ s s', AvailableTaskDetail.machine.run es = some s →
      AvailableTaskDetail.machine.run es' = some s' →
      AvailableTaskDetail.machine.Meets AvailableTaskDetail.StepOk es →
      AvailableTaskDetail.machine.Meets AvailableTaskDetail.StepOk es' →
      es.filter (AvailableTaskDetail.keep form) = es'.filter (AvailableTaskDetail.keep form) →
      sentBy form s.description.log = sentBy form s'.description.log) ∧
    (∀ s, (ActivityDrafts.machine indexItem).run ds = some s →
      ((ActivityDrafts.machine indexItem).Meets ActivityDrafts.StepOk ds ↔
        Isolated "" s.description.log)) ∧
    ∀ s s', (ActivityDrafts.machine indexItem).run ds = some s →
      (ActivityDrafts.machine indexItem).run ds' = some s' →
      (ActivityDrafts.machine indexItem).Meets ActivityDrafts.StepOk ds →
      (ActivityDrafts.machine indexItem).Meets ActivityDrafts.StepOk ds' →
      ds.filter (ActivityDrafts.keep q) = ds'.filter (ActivityDrafts.keep q) →
      sentBy q s.description.log = sentBy q s'.description.log := by
  refine ⟨?_, ?_, ?_, ?_⟩
  · intro s h
    exact AvailableTaskDetail.shares.isolated_iff h
  · intro s s' h h' hok hok' hsame
    exact AvailableTaskDetail.shares.sentBy_eq AvailableTaskDetail.of_not_keep h h' hsame
      ((AvailableTaskDetail.shares.isolated_iff h).1 hok)
      ((AvailableTaskDetail.shares.isolated_iff h').1 hok')
  · intro s h
    exact (ActivityDrafts.shares indexItem).isolated_iff h
  · intro s s' h h' hok hok' hsame
    exact (ActivityDrafts.shares indexItem).sentBy_eq ActivityDrafts.of_not_keep h h' hsame
      (((ActivityDrafts.shares indexItem).isolated_iff h).1 hok)
      (((ActivityDrafts.shares indexItem).isolated_iff h').1 hok')

/-- A comment is typed and sent, and after its answer a dispute. -/
def twoForms : List AvailableTaskDetail.Event :=
  [.setDescription .comment "Hello", .updateActivities, .reply 0 .success,
    .setDescription .dispute "Too late", .createDispute true]

/-- The same after something was typed into a third form. -/
def threeForms : List AvailableTaskDetail.Event := .setDescription .cancel "Sorry" :: twoForms

/-- A comment for the second freelancer. -/
def oneFreelancer : List ActivityDrafts.Event :=
  [.setSelectedItem 2, .setDescription .comment 2 "Hello", .addComment]

/-- The same after something was typed for the first one. -/
def twoFreelancers : List ActivityDrafts.Event :=
  .setDescription .comment 1 "For you" :: oneFreelancer

/-- The drafts of these runs are sent as they are, and the same in both. -/
theorem drafts_isolated_sample :
    (∃ s s', AvailableTaskDetail.machine.run twoForms = some s ∧
      AvailableTaskDetail.machine.run threeForms = some s' ∧ Isolated "" s.description.log ∧
      sentBy .comment s.description.log = sentBy .comment s'.description.log) ∧
    ∃ s s', (ActivityDrafts.machine 1).run oneFreelancer = some s ∧
      (ActivityDrafts.machine 1).run twoFreelancers = some s' ∧ Isolated "" s.description.log ∧
      sentBy (.comment, 2) s.description.log = sentBy (.comment, 2) s'.description.log := by
  obtain ⟨horder, horder', hproject, hproject'⟩ := drafts_isolated_iff .comment twoForms
    threeForms 1 (.comment, 2) oneFreelancer twoFreelancers
  have htwo : AvailableTaskDetail.machine.Meets AvailableTaskDetail.StepOk twoForms := by decide
  have hthree : AvailableTaskDetail.machine.Meets AvailableTaskDetail.StepOk threeForms := by
    decide
  have hone : (ActivityDrafts.machine 1).Meets ActivityDrafts.StepOk oneFreelancer := by decide
  have hboth : (ActivityDrafts.machine 1).Meets ActivityDrafts.StepOk twoFreelancers := by decide
  refine ⟨⟨_, _, rfl, rfl, (horder _ rfl).1 htwo, ?_⟩,
    ⟨_, _, rfl, rfl, (hproject _ rfl).1 hone, ?_⟩⟩
  · exact horder' _ _ rfl rfl htwo hthree (by decide)
  · exact hproject' _ _ rfl rfl hone hboth (by decide)

/-- **Drafts get mixed up.**  A reason to cancel is sent as a comment, to the other party of
the order; and a comment for one freelancer is sent to another. -/
theorem not_isolated_sample :
    (∃ s, AvailableTaskDetail.machine.run
        [.setDescription .cancel "Not happy", .updateActivities] = some s ∧
      sentBy .comment s.description.log = ["Not happy"] ∧
      own "" AvailableTaskDetail.Form.comment s.description.log = "" ∧
      ¬ Isolated "" s.description.log) ∧
    ∃ s, (ActivityDrafts.machine 1).run
        [.setDescription .comment 1 "For Ann", .setSelectedItem 2, .addComment] = some s ∧
      sentBy (ActivityDrafts.Form.comment, 2) s.description.log = ["For Ann"] ∧
      own "" (ActivityDrafts.Form.comment, 2) s.description.log = "" ∧
      ¬ Isolated "" s.description.log := by
  refine ⟨⟨_, rfl, rfl, rfl, fun hs => ?_⟩, _, rfl, rfl, rfl, fun hs => ?_⟩
  · have hown := hs [.wrote .cancel "Not happy"] .comment "Not happy" List.prefix_rfl
    exact absurd hown (by decide)
  · have hown := hs [.wrote (.comment, 1) "For Ann"] (.comment, 2) "For Ann" List.prefix_rfl
    exact absurd hown (by decide)

end Drafts
