import Mathlib
import Taskbot.Async.Machine
import Taskbot.Js.Pushes

/-!
# Comments with documents

`updateActivities` of `AvailableTaskDetail` and `addComment` of `ProjectActivity` send a
text and the documents picked for it.  Both handle a success and an error alike: the text is
emptied, the documents are not, and `getAvailableTask` is called, which `ProjectActivity`
does not define.

* `Screen`, `State`, `step` — both screens, with a number for each document.
* `Answered` — what should be left of the draft when a comment is answered.
* `answered_iff` — **that is left, and no document is attached twice, exactly when an error
  finds an empty text, and a success no documents, and attaches no document again.**
-/

namespace ActivityComments

open Async

/-! ## The screens -/

/-- The two screens. -/
inductive Screen where
  | availableTaskDetail
  | projectActivity
  deriving DecidableEq

/-- A document as it is picked. -/
structure Document where
  uri : String
  type : String
  name : String
  deriving DecidableEq

/-- The form data of a comment; each document is a field `documents_1`, `documents_2`, …,
and has its number for the statements. -/
structure Comment where
  activity_detail : String
  document_size : ℕ
  documents : List (String × (Document × ℕ))
  deriving DecidableEq

/-- The numbers of its documents. -/
def Comment.numbers (q : Comment) : List ℕ := q.documents.map fun d => d.2.2

/-- What comes back for a comment. -/
inductive Reply where
  /-- An answer with another type than `error`. -/
  | success
  | error
  /-- No answer, or one that is not JSON. -/
  | failure
  deriving DecidableEq

/-- A screen, as far as its comments go. -/
structure State where
  description : String
  /-- The documents that are picked, each with a number that is given once. -/
  docArray : List (Document × ℕ)
  /-- The comments that are not answered. -/
  inFlight : List Comment
  /-- How often the activities have been asked for. -/
  reloads : ℕ
  /-- The documents of the comments that were accepted: a history for the statements. -/
  attached : List ℕ
  /-- The next number. -/
  next : ℕ
  deriving DecidableEq

/-- What can happen. -/
inductive Event where
  | setDescription (body : String)
  /-- `pickDocumentfromDevice`, once the documents are picked. -/
  | pickDocumentfromDevice (res : List Document)
  | removeDocument (index : ℕ)
  /-- `updateActivities` or `addComment`. -/
  | send
  /-- The comment at place `i` of those in flight is answered. -/
  | reply (i : ℕ) (r : Reply)
  deriving DecidableEq

/-- Up to three documents are taken, in place of those that were picked before. -/
def pickDocumentfromDevice (s : State) (res : List Document) : State :=
  if res.length < 4 then
    { s with docArray := res.zipIdx s.next, next := s.next + res.length }
  else s

/-- The form data. -/
def formData (s : State) : Comment where
  activity_detail := s.description
  document_size := s.docArray.length
  documents := s.docArray.zipIdx.map fun d => ("documents_" ++ (d.2 + 1).repr, d.1)

/-- `getAvailableTask()`: there is no such function in `ProjectActivity`, so that the call
is a `ReferenceError`, which is caught. -/
def getAvailableTask (screen : Screen) (s : State) : State :=
  match screen with
  | .availableTaskDetail => { s with reloads := s.reloads + 1 }
  | .projectActivity => s

/-- The handlers of the answer. -/
def replied (screen : Screen) (s : State) : Reply → State
  | .success | .error => getAvailableTask screen { s with description := "" }
  | .failure => s

/-- The documents that are attached by an answer. -/
def attaches (q : Comment) : Reply → List ℕ
  | .success => q.numbers
  | .error | .failure => []

variable (screen : Screen)

/-- One event. -/
def step (s : State) : Event → Option State
  | .setDescription body => some { s with description := body }
  | .pickDocumentfromDevice res => some (pickDocumentfromDevice s res)
  | .removeDocument index =>
    if index < s.docArray.length then some { s with docArray := s.docArray.eraseIdx index }
    else none
  | .send => some { s with inFlight := s.inFlight ++ [formData s] }
  | .reply i r =>
    s.inFlight[i]?.map fun q => replied screen
      { s with inFlight := s.inFlight.eraseIdx i, attached := s.attached ++ attaches q r } r

/-- The screen just opened. -/
def machine : Machine State Event := ⟨⟨"", [], [], 0, [], 0⟩, step screen⟩

/-! ## What should happen -/

/-- **What should be left** when a comment is answered: the draft as it was, if it was not
accepted; if it was, nothing, and the activities are asked for again. -/
def Answered : Reply → State → State → Prop
  | .success, s, t => t.description = "" ∧ t.docArray = [] ∧ t.reloads = s.reloads + 1
  | .error, s, t | .failure, s, t => t.description = s.description ∧ t.docArray = s.docArray

/-- When it is left. -/
def DraftOk (s : State) : Event → Prop
  | .reply _ .success => screen = .availableTaskDetail ∧ s.docArray = []
  | .reply _ .error => s.description = ""
  | _ => True

/-- When no document is attached again. -/
def FreshOk (s : State) : Event → Prop
  | .reply i .success => ∀ q ∈ s.inFlight[i]?, ∀ d ∈ q.numbers, d ∉ s.attached
  | _ => True

/-- When both. -/
def StepOk (s : State) (e : Event) : Prop := DraftOk screen s e ∧ FreshOk s e

instance (s : State) (e : Event) : Decidable (DraftOk screen s e) := by
  unfold DraftOk
  split <;> infer_instance

instance (s : State) (e : Event) : Decidable (FreshOk s e) := by
  unfold FreshOk
  split <;> infer_instance

instance (s : State) (e : Event) : Decidable (StepOk screen s e) :=
  inferInstanceAs (Decidable (_ ∧ _))

/-! ## The draft -/

variable {screen}

/-- One answer. -/
theorem draftOk_iff {s t : State} {i : ℕ} {r : Reply} (h : step screen s (.reply i r) = some t) :
    DraftOk screen s (.reply i r) ↔ Answered r s t := by
  obtain ⟨q, -, rfl⟩ := Option.map_eq_some_iff.1 h
  cases r with
  | failure => exact iff_of_true trivial ⟨rfl, rfl⟩
  | error =>
    have hleft : ∀ u : State, (getAvailableTask screen u).description = u.description ∧
        (getAvailableTask screen u).docArray = u.docArray := by
      cases screen <;> exact fun _ => ⟨rfl, rfl⟩
    simp only [DraftOk, Answered, replied, hleft, and_true]
    exact eq_comm
  | success =>
    cases screen with
    | availableTaskDetail => simp [DraftOk, Answered, replied, getAvailableTask]
    | projectActivity => simp [DraftOk, Answered, replied, getAvailableTask]

/-- The answers of a run. -/
theorem meets_draftOk_iff {es : List Event} {s : State} (h : (machine screen).run es = some s) :
    (machine screen).Meets (DraftOk screen) es ↔ ∀ fs i r, fs ++ [.reply i r] <+: es →
      ∀ t u, (machine screen).run fs = some t →
        (machine screen).run (fs ++ [.reply i r]) = some u → Answered r t u := by
  have hother : ∀ s e, (∀ k : ℕ × Reply, e ≠ .reply k.1 k.2) → DraftOk screen s e := by
    intro s e he
    cases e with
    | reply i r => exact absurd rfl (he (i, r))
    | _ => trivial
  rw [(machine screen).meets_iff_of_events (J := fun _ => True)
    (fun k : ℕ × Reply => .reply k.1 k.2) trivial (fun _ _ _ _ _ => trivial)
    (fun k s t _ hst => draftOk_iff hst) hother h]
  exact ⟨fun hall fs i r => hall fs (i, r), fun hall fs k => hall fs k.1 k.2⟩

/-! ## The documents -/

/-- No number is picked twice, nor twice in a comment. -/
structure Inv (s : State) : Prop where
  picked : (s.docArray.map Prod.snd).Nodup
  sent : ∀ q ∈ s.inFlight, q.numbers.Nodup

theorem numbers_formData (s : State) : (formData s).numbers = s.docArray.map Prod.snd := by
  have hdocuments : (formData s).documents.map Prod.snd = s.docArray :=
    Js.map_snd_zipIdx (fun i => "documents_" ++ (i + 1).repr) s.docArray
  conv_rhs => rw [← hdocuments, List.map_map]
  rfl

theorem inv_init : Inv (machine screen).init := ⟨List.nodup_nil, fun _ hq => by cases hq⟩

variable (screen) in
theorem docArray_replied (s : State) (r : Reply) :
    (replied screen s r).docArray = s.docArray ∧ (replied screen s r).inFlight = s.inFlight ∧
      (replied screen s r).attached = s.attached := by
  cases screen <;> cases r <;> exact ⟨rfl, rfl, rfl⟩

theorem inv_step {s t : State} {e : Event} (hs : Inv s) (hst : step screen s e = some t) :
    Inv t := by
  cases e with
  | setDescription body =>
    cases hst
    exact ⟨hs.picked, hs.sent⟩
  | pickDocumentfromDevice res =>
    cases hst
    unfold pickDocumentfromDevice
    split
    · refine ⟨?_, hs.sent⟩
      rw [List.zipIdx_map_snd]
      exact List.nodup_range'
    · exact hs
  | removeDocument index =>
    obtain ⟨-, ⟨⟩⟩ := Option.ite_none_right_eq_some.1 hst
    exact ⟨hs.picked.sublist ((List.eraseIdx_sublist _ _).map _), hs.sent⟩
  | send =>
    cases hst
    refine ⟨hs.picked, fun q hq => ?_⟩
    rcases List.mem_append.1 hq with hq | hq
    · exact hs.sent q hq
    · rw [List.mem_singleton.1 hq, numbers_formData]
      exact hs.picked
  | reply i r =>
    obtain ⟨q, -, rfl⟩ := Option.map_eq_some_iff.1 hst
    obtain ⟨hdoc, hsent, -⟩ := docArray_replied screen
      { s with inFlight := s.inFlight.eraseIdx i, attached := s.attached ++ attaches q r } r
    refine ⟨?_, fun q hq => ?_⟩
    · rw [hdoc]
      exact hs.picked
    · rw [hsent] at hq
      exact hs.sent q (mem_of_eraseIdx hq)

/-- One step: an accepted comment must have documents that are not attached yet. -/
theorem nodup_attached_step {s t : State} {e : Event} (hs : Inv s)
    (hst : step screen s e = some t) : s.attached.Nodup ∧ FreshOk s e ↔ t.attached.Nodup := by
  cases e with
  | setDescription _ | send =>
    cases hst
    exact and_iff_left trivial
  | pickDocumentfromDevice res =>
    cases hst
    unfold pickDocumentfromDevice
    split <;> exact and_iff_left trivial
  | removeDocument index =>
    obtain ⟨-, ⟨⟩⟩ := Option.ite_none_right_eq_some.1 hst
    exact and_iff_left trivial
  | reply i r =>
    obtain ⟨q, hq, rfl⟩ := Option.map_eq_some_iff.1 hst
    rw [(docArray_replied _ _ r).2.2]
    cases r with
    | success =>
      have hnodup := hs.sent q (List.mem_of_getElem? hq)
      have hdisjoint : List.Disjoint s.attached q.numbers ↔ ∀ d ∈ q.numbers, d ∉ s.attached :=
        ⟨fun h d hd hs => h hs hd, fun h d hs hd => h d hd hs⟩
      simp only [FreshOk, hq, Option.mem_def, Option.some.injEq, forall_eq', attaches]
      rw [List.nodup_append', and_iff_right hnodup, hdisjoint]
    | error | failure => simp [FreshOk, attaches]

/-- **Drafts of comments.**  On both screens, in a run of typing, picking, removing, sending
and answers in any order, what should be left of the draft is left at each answer, and no
document is attached to accepted comments twice, exactly when each error comes while the
text is empty, and each success on `AvailableTaskDetail`, while no documents are picked, and
to a comment none of whose documents is attached already. -/
theorem answered_iff {es : List Event} {s : State} (h : (machine screen).run es = some s) :
    (machine screen).Meets (StepOk screen) es ↔
      (∀ fs i r, fs ++ [.reply i r] <+: es → ∀ t u, (machine screen).run fs = some t →
        (machine screen).run (fs ++ [.reply i r]) = some u → Answered r t u) ∧
      s.attached.Nodup := by
  have hfresh : (machine screen).Meets FreshOk es ↔ s.attached.Nodup :=
    (machine screen).meets_iff_last (I := fun s => s.attached.Nodup) List.nodup_nil inv_init
      (fun _ _ _ hs hst => inv_step hs hst) (fun _ _ _ hs hst => nodup_attached_step hs hst) h
  rw [← meets_draftOk_iff h, ← hfresh]
  exact (machine screen).meets_and

/-- A picture. -/
def photo : Document := ⟨"file:///photo.png", "image/png", "photo.png"⟩

/-- A comment without documents is accepted, and one with a picture and no text refused. -/
theorem answered_iff_sample :
    ∃ t u, (machine .availableTaskDetail).run [.setDescription "Done.", .send] = some t ∧
      (machine .availableTaskDetail).run ([.setDescription "Done.", .send] ++
        [.reply 0 .success]) = some u ∧ Answered .success t u := by
  have hok : (machine .availableTaskDetail).Meets (StepOk .availableTaskDetail)
      [.setDescription "Done.", .send, .reply 0 .success, .pickDocumentfromDevice [photo], .send,
        .reply 0 .error] := by decide
  have hprefix : ([.setDescription "Done.", .send] : List Event) ++ [.reply 0 .success] <+:
      [.setDescription "Done.", .send, .reply 0 .success, .pickDocumentfromDevice [photo], .send,
        .reply 0 .error] := ⟨[.pickDocumentfromDevice [photo], .send, .reply 0 .error], rfl⟩
  exact ⟨_, _, rfl, rfl, ((answered_iff rfl).1 hok).1 _ 0 .success hprefix _ _ rfl rfl⟩

/-- **A draft is lost, and a document attached twice.**  An error empties the text; after a
success the document is still picked, and goes with the next comment as well. -/
theorem attached_twice :
    (∃ t u, (machine .availableTaskDetail).run [.setDescription "Done.", .send] = some t ∧
      (machine .availableTaskDetail).run [.setDescription "Done.", .send, .reply 0 .error] =
        some u ∧ t.description = "Done." ∧ u.description = "" ∧ ¬ Answered .error t u) ∧
    (∃ t, (machine .availableTaskDetail).run [.pickDocumentfromDevice [photo], .send,
      .reply 0 .success, .send, .reply 0 .success] = some t ∧ t.docArray = [(photo, 0)] ∧
        t.attached = [0, 0] ∧ ¬ t.attached.Nodup) ∧
    ∃ t u, (machine .projectActivity).run [.send] = some t ∧
      (machine .projectActivity).run [.send, .reply 0 .success] = some u ∧
        u.reloads = t.reloads ∧ ¬ Answered .success t u := by
  refine ⟨⟨_, _, rfl, rfl, rfl, rfl, ?_⟩, ⟨_, rfl, rfl, rfl, by decide⟩, _, _, rfl, rfl, rfl, ?_⟩
  · rintro ⟨htext, -⟩
    exact absurd htext (by decide)
  · rintro ⟨-, -, hreloads⟩
    exact absurd hreloads (by decide)

end ActivityComments
