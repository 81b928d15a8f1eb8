import Mathlib
import Taskbot.Async.Machine
import Taskbot.Js.Remembered
import Taskbot.Js.Value
import Taskbot.Projects.MilestoneEncoding

/-!
# Milestones of a proposal that is edited

`SendProposal` asks for the stored proposal when it is opened to edit one.  Milestones can
be added, edited and deleted before that is answered; the answer sets `milestonesArray` to
the stored ones, and `selectedMilestone` stays as it is.

* `State`, `Event`, `step` — the milestones of the screen, with a number for each and the
  one opened last.
* `Right` — what the answer and "Add to list" should do.
* `right_iff` — **they always do exactly when no milestone is there when the answer comes,
  and every edit finds the milestone that was opened at its index, or nothing to write.**
-/

namespace ProposalMilestones

open Js (Atom RowIds EditsOnly Keeps)

/-! ## The screen -/

/-- A milestone. -/
structure Milestone where
  title : Atom
  detail : Atom
  price : Atom
  status : Atom
  deriving DecidableEq

/-- The answer to `get-proposal`. -/
inductive Reply where
  /-- `type == 'success'`, with the object of the milestones if there is one. -/
  | success (milestone : Option (List (String × Milestone)))
  /-- An answer with another type. -/
  | other
  /-- No answer, or one that is not JSON. -/
  | failure
  deriving DecidableEq

/-- The screen, as far as its milestones go.  The last two fields are a history for the
statements only. -/
structure State where
  milestonesArray : List Milestone
  selectedMilestone : Option ℕ
  milestoneTitle : Atom
  milestonePrice : Atom
  milestoneDes : Atom
  /-- The proposal has been asked for, and there is no answer. -/
  asked : Bool
  /-- A number for each milestone. -/
  rows : RowIds
  /-- The number of the milestone that was opened last. -/
  opened : ℕ
  deriving DecidableEq

/-- What can happen.  Nothing is said of the sheet that shows the inputs: what it covers
may be pressed all the same. -/
inductive Event where
  | createMilestones
  | editMilestone (index : ℕ)
  | setMilestoneTitle (text : String)
  | setMilestonePrice (text : String)
  | setMilestoneDes (body : String)
  | addMilestoneData
  | deleteMilestone (index : ℕ)
  /-- The proposal is answered. -/
  | reply (r : Reply)
  deriving DecidableEq

/-- All inputs are filled in. -/
def Filled (s : State) : Prop :=
  s.milestoneTitle.eqEmpty = false ∧ s.milestonePrice.eqEmpty = false ∧
    s.milestoneDes.eqEmpty = false

instance (s : State) : Decidable (Filled s) := inferInstanceAs (Decidable (_ ∧ _))

/-- The inputs, written to a milestone. -/
def written (s : State) (m : Milestone) : Milestone :=
  { m with title := s.milestoneTitle, detail := s.milestoneDes, price := s.milestonePrice }

/-- "Add to list" would write to a milestone that is not there, a `TypeError`. -/
def Throws (s : State) : Prop :=
  Filled s ∧ ∃ i ∈ s.selectedMilestone, s.milestonesArray.length ≤ i

/-- `addMilestoneData`.  A `TypeError` leaves all as it is. -/
def addMilestoneData (s : State) : State :=
  if Filled s then
    match s.selectedMilestone with
    | none =>
      { s with
        milestonesArray := s.milestonesArray ++
          [⟨s.milestoneTitle, s.milestoneDes, s.milestonePrice, .text ""⟩]
        rows := s.rows.push }
    | some i => { s with milestonesArray := s.milestonesArray.modify i (written s) }
  else s

/-- `editMilestone(item, index)`. -/
def editMilestone (s : State) (index : ℕ) (item : Milestone) : State :=
  { s with
    selectedMilestone := some index
    milestoneTitle := item.title
    milestonePrice := item.price
    milestoneDes := item.detail
    opened := (s.rows.ids[index]?).getD s.opened }

/-- The handlers of the answer.  `Object.entries` throws when there is no object, which is
caught. -/
def replied (s : State) : Reply → State
  | .success (some milestone) =>
    let milestones := MilestoneEncoding.milestones milestone
    { s with
      milestonesArray := milestones
      asked := false
      rows := s.rows.replace milestones.length }
  | .success none | .other | .failure => { s with asked := false }

/-- One event. -/
def step (s : State) : Event → Option State
  | .createMilestones =>
    some { s with
      milestonePrice := .text ""
      milestoneTitle := .text ""
      milestoneDes := .text ""
      selectedMilestone := none }
  | .editMilestone index => s.milestonesArray[index]?.map (editMilestone s index)
  | .setMilestoneTitle text => some { s with milestoneTitle := .text text }
  | .setMilestonePrice text => some { s with milestonePrice := .text text }
  | .setMilestoneDes body => some { s with milestoneDes := .text body }
  | .addMilestoneData => some (addMilestoneData s)
  | .deleteMilestone index =>
    if index < s.milestonesArray.length then
      some { s with
        milestonesArray := s.milestonesArray.eraseIdx index
        rows := s.rows.erase index }
    else none
  | .reply r => if s.asked then some (replied s r) else none

/-- The screen, opened to edit a proposal. -/
def machine : Async.Machine State Event where
  init := ⟨[], none, .text "", .text "", .text "", true, .start 0, 0⟩
  step := step

/-! ## Steps -/

/-- The numbers tell the milestones apart. -/
def Inv (s : State) : Prop := s.rows.Numbers s.milestonesArray

theorem inv_init : Inv machine.init := RowIds.numbers_start []

theorem inv_addMilestoneData {s : State} (hs : Inv s) : Inv (addMilestoneData s) := by
  unfold addMilestoneData
  split
  · split
    · exact hs.push _
    · exact hs.modify _ _
  · exact hs

theorem inv_step {s t : State} {e : Event} (hs : Inv s) (hst : step s e = some t) : Inv t := by
  cases e with
  | createMilestones | setMilestoneTitle _ | setMilestonePrice _ | setMilestoneDes _ =>
    cases hst
    exact hs
  | editMilestone index =>
    obtain ⟨item, -, rfl⟩ := Option.map_eq_some_iff.1 hst
    exact hs
  | addMilestoneData =>
    cases hst
    exact inv_addMilestoneData hs
  | deleteMilestone index =>
    obtain ⟨-, ⟨⟩⟩ := Option.ite_none_right_eq_some.1 hst
    exact hs.erase index
  | reply r =>
    obtain ⟨-, ⟨⟩⟩ := Option.ite_none_right_eq_some.1 hst
    match r with
    | .success (some milestone) => exact RowIds.numbers_replace s.rows _
    | .success none | .other | .failure => exact hs

/-! ## What should happen -/

/-- When an edit is confirmed nothing is thrown, and the milestone that was opened is
written, if it is still listed, and no other. -/
def Confirms (s t : State) : Prop :=
  Filled s → s.selectedMilestone ≠ none →
    ¬ Throws s ∧ EditsOnly s.rows.ids s.opened (written s) s.milestonesArray t.milestonesArray

/-- **What should happen** at an event: the stored milestones come to those that are there,
and an edit is confirmed as it should. -/
def Right : Event → State → State → Prop
  | .reply (.success (some milestone)), s, t =>
    t.milestonesArray.Perm (MilestoneEncoding.milestones milestone ++ s.milestonesArray)
  | .addMilestoneData, s, t => Confirms s t
  | _, _, _ => True

/-- When an edit is confirmed as it should: there is a milestone at the index, and it is the
one that was opened, or writing the inputs to it and to that one changes neither. -/
def ConfirmOk (s : State) : Prop :=
  Filled s → ∀ i ∈ s.selectedMilestone, i < s.milestonesArray.length ∧
    (s.rows.ids[i]? = some s.opened ∨
      (∀ m ∈ s.milestonesArray[i]?, written s m = m) ∧
        Keeps s.rows.ids s.opened (written s) s.milestonesArray)

instance (s : State) : Decidable (ConfirmOk s) := by
  unfold ConfirmOk
  infer_instance

/-- When what should happen does. -/
def StepOk (s : State) : Event → Prop
  | .reply (.success (some _)) => s.milestonesArray = []
  | .addMilestoneData => ConfirmOk s
  | _ => True

instance (s : State) (e : Event) : Decidable (StepOk s e) := by
  unfold StepOk
  split <;> infer_instance

/-- An edit. -/
theorem confirmOk_iff {s : State} (hs : Inv s) : ConfirmOk s ↔ Confirms s (addMilestoneData s) := by
  unfold ConfirmOk Confirms Throws
  refine imp_congr_right fun hfilled => ?_
  cases hindex : s.selectedMilestone with
  | none => simp
  | some i =>
    have hwritten : (addMilestoneData s).milestonesArray =
        s.milestonesArray.modify i (written s) := by
      rw [addMilestoneData, if_pos hfilled, hindex]
    rw [hwritten, Js.editsOnly_modify_iff hs]
    simp [hfilled]

/-- An answer: nothing that was there is left. -/
theorem perm_stored_iff (stored added : List Milestone) :
    stored.Perm (stored ++ added) ↔ added = [] := by
  constructor
  · intro h
    have hlength := h.length_eq
    rw [List.length_append] at hlength
    exact List.eq_nil_of_length_eq_zero (by omega)
  · rintro rfl
    rw [List.append_nil]

theorem stepOk_iff {s t : State} {e : Event} (hs : Inv s) (hst : step s e = some t) :
    StepOk s e ↔ Right e s t := by
  match e, hst with
  | .reply (.success (some milestone)), hst =>
    obtain ⟨-, ⟨⟩⟩ := Option.ite_none_right_eq_some.1 hst
    exact (perm_stored_iff _ _).symm
  | .addMilestoneData, hst =>
    cases hst
    exact confirmOk_iff hs
  | .reply (.success none), _ | .reply .other, _ | .reply .failure, _ | .createMilestones, _
  | .editMilestone _, _ | .setMilestoneTitle _, _ | .setMilestonePrice _, _
  | .setMilestoneDes _, _ | .deleteMilestone _, _ => exact Iff.rfl

/-- **The milestones of a proposal that is edited.**  In a run of additions, edits,
deletions and the answer in any order, the answer leaves the stored milestones with those
that were there, and each edit writes the milestone that was opened and no other, and does
not throw, exactly when no milestone is there when the answer comes, and each edit finds at
its index the one that was opened, or nothing to write. -/
theorem right_iff {es : List Event} {s : State} (h : machine.run es = some s) :
    machine.Meets StepOk es ↔ ∀ fs e, fs ++ [e] <+: es → ∀ t u, machine.run fs = some t →
      machine.run (fs ++ [e]) = some u → Right e t u :=
  machine.meets_iff_of_events id inv_init (fun _ _ _ => inv_step)
    (fun _ _ _ hs hst => stepOk_iff hs hst) (fun _ e he => absurd rfl (he e)) h

/-- A stored milestone. -/
def final : Milestone := ⟨.text "Final", .text "The report", .number 300, .text "pending"⟩

/-- "Draft" is typed into the inputs and added. -/
def addDraft : List Event :=
  [.createMilestones, .setMilestoneTitle "Draft", .setMilestonePrice "100",
    .setMilestoneDes "A sketch", .addMilestoneData]

/-- The answer comes first; then the stored milestone is opened, one that was added is
deleted, and the edit is confirmed. -/
theorem right_iff_sample :
    ∃ t u, machine.run (.reply (.success (some [("k", final)])) :: addDraft ++
        [.editMilestone 0, .deleteMilestone 1]) = some t ∧
      machine.run ((.reply (.success (some [("k", final)])) :: addDraft ++
        [.editMilestone 0, .deleteMilestone 1]) ++ [.addMilestoneData]) = some u ∧
      Right .addMilestoneData t u := by
  have hok : machine.Meets StepOk ((.reply (.success (some [("k", final)])) :: addDraft ++
      [.editMilestone 0, .deleteMilestone 1]) ++ [.addMilestoneData]) := by decide
  exact ⟨_, _, rfl, rfl, (right_iff rfl).1 hok _ _ List.prefix_rfl _ _ rfl rfl⟩

/-- **An added milestone is lost.**  "Draft" is added before the answer comes, which leaves
the stored milestone only.  When "Draft" is opened again and no milestones are stored,
"Add to list" throws after the answer. -/
theorem added_lost :
    (∃ t u, machine.run addDraft = some t ∧
      machine.run (addDraft ++ [.reply (.success (some [("k", final)]))]) = some u ∧
      t.milestonesArray = [⟨.text "Draft", .text "A sketch", .text "100", .text ""⟩] ∧
      u.milestonesArray = [final] ∧ ¬ Right (.reply (.success (some [("k", final)]))) t u) ∧
    ∃ t, machine.run (addDraft ++ [.editMilestone 0, .reply (.success (some []))]) = some t ∧
      Throws t := by
  refine ⟨⟨_, _, rfl, rfl, rfl, rfl, ?_⟩, _, rfl, by decide, 0, rfl, by decide⟩
  intro hperm
  exact absurd hperm.length_eq (by decide)

end ProposalMilestones
