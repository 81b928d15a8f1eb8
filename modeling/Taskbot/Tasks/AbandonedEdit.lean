import Mathlib
import Taskbot.Async.Machine
import Taskbot.Tasks.RecordSharing

/-!
# An edit that is abandoned

The wizard is opened for a record of the listing, edited, saved or not, and left, any
number of times.  No handler takes back what an edit has done to the record.

* `State`, `step` — the wizard, with the saves that are not answered.
* `Unchanged` — what edits that are not saved should leave: the record as it was when the
  wizard was opened or, after a successful save of a step, when that save was sent.
* `step_cases` — an edit changes the heap and the view; every other event leaves the heap.
* `unchanged_iff` — **the record is what it was throughout a run exactly when every edit is
  harmless.**
-/

namespace TaskRecord

open Js (Atom Obj Heap)
open PostTaskTags (TagsTaxonomy)

/-- A save that is not answered; after how many edits it was sent, and the record as it was
then, are for the statements only. -/
structure Save where
  step : Step
  edits : ℕ
  record : Field → List (Obj Atom)

/-- The answer to a save. -/
inductive Reply where
  | success
  | error
  | failure
  deriving DecidableEq

/-- The record in the heap, the wizard, and the saves.  The last three fields are a history
for the statements only. -/
structure State where
  heap : Heap (Obj Atom)
  /-- The step that is shown, if the wizard is open. -/
  view : Option View
  inFlight : List Save
  /-- How many edits have been made. -/
  edits : ℕ
  /-- The record without the edits that are not saved. -/
  before : Field → List (Obj Atom)
  /-- How many edits were made before that, by the step. -/
  settled : Step → ℕ

/-- What the record is now. -/
def State.record (s : State) : Field → List (Obj Atom) := fun field => s.heap.get field.addr

/-- A save is confirmed: the edits made before it was sent are saved, unless the wizard was
opened or a later save confirmed since. -/
def State.confirm (s : State) (q : Save) : State :=
  if s.settled q.step ≤ q.edits then
    { s with
      before := fun field => if field.step = q.step then q.record field else s.before field
      settled := Function.update s.settled q.step q.edits }
  else s

/-- What can happen. -/
inductive Event where
  /-- "Edit" on the card of the task. -/
  | editTask
  /-- Another step is shown. -/
  | updateStep (k : Step)
  /-- An edit of the step that is shown. -/
  | edit (e : Edit)
  /-- The step that is shown is saved. -/
  | save
  /-- The save at place `i` of those in flight is answered. -/
  | reply (i : ℕ) (r : Reply)
  /-- The wizard is left. -/
  | goBack
  deriving DecidableEq

/-- The step that is shown once a save is answered.  Steps one and two move on with a
success, step three with any answer, and step four leaves the wizard. -/
def afterReply (view : Option View) : Step → Reply → Option View
  | .one, .success => view.map fun _ => mount .two
  | .two, .success => view.map fun _ => mount .three
  | .three, .success | .three, .error => view.map fun _ => mount .four
  | .four, .success => none
  | _, _ => view

variable (toNumber : String → Option ℕ) (T : TagsTaxonomy)

/-- One event. -/
def step (s : State) : Event → Option State
  | .editTask =>
    match s.view with
    | some _ => none
    | none => some { s with
        view := some (mount .one)
        before := s.record
        settled := fun _ => s.edits }
  | .updateStep k => s.view.map fun _ => { s with view := some (mount k) }
  | .edit e =>
    s.view.bind fun v => (v.handle toNumber T s.heap e).map fun p =>
      { s with view := some p.1, heap := p.2, edits := s.edits + 1 }
  | .save => s.view.map fun v =>
      { s with inFlight := s.inFlight ++ [⟨v.step, s.edits, s.record⟩] }
  | .reply i r =>
    s.inFlight[i]?.map fun q =>
      let answered := { s with
        view := afterReply s.view q.step r
        inFlight := s.inFlight.eraseIdx i }
      if r = .success then answered.confirm q else answered
  | .goBack => s.view.map fun _ => { s with view := none }

/-- The listing with a record, the wizard not opened. -/
def machine (r : Record) : Async.Machine State Event :=
  ⟨⟨r.heap, none, [], 0, fun field => r.heap.get field.addr, fun _ => 0⟩, step toNumber T⟩

/-! ## The property -/

/-- The record is what it was when the wizard was opened, or when the last save of a step
that was successful was sent. -/
def Unchanged (s : State) : Prop := ∀ field : Field, s.record field = s.before field

/-- What a step must meet: an edit is harmless. -/
def StepOk (s : State) : Event → Prop
  | .edit e => ∀ v ∈ s.view, v.Harmless s.heap e
  | .editTask | .updateStep _ | .save | .reply _ _ | .goBack => True

instance (s : State) (e : Event) : Decidable (StepOk s e) := by
  unfold StepOk
  split <;> infer_instance

/-- The arrays of the record are in the heap, and the step that is shown has them. -/
structure Inv (s : State) : Prop where
  size : 4 ≤ s.heap.size
  view : ∀ v ∈ s.view, v.Ok

/-- What was saved is what the record is. -/
def Settled (s : State) : Prop := ∀ q ∈ s.inFlight, q.record = s.record

variable {toNumber T}

theorem inv_init (r : Record) : Inv (machine toNumber T r).init where
  size := le_rfl
  view _ hv := by cases hv

/-- A step that is mounted is right. -/
theorem afterReply_ok {view : Option View} (hview : ∀ v ∈ view, v.Ok) (k : Step) (r : Reply) :
    ∀ v ∈ afterReply view k r, v.Ok := by
  have hmount : ∀ j : Step, ∀ v ∈ view.map fun _ => mount j, v.Ok := by
    intro j v hv
    obtain ⟨-, -, rfl⟩ := Option.map_eq_some_iff.1 hv
    exact mount_ok j
  unfold afterReply
  split
  · exact hmount .two
  · exact hmount .three
  · exact hmount .four
  · exact hmount .four
  · exact nofun
  · exact hview

/-- A confirmation is of the history only. -/
theorem confirm_frame (s : State) (q : Save) :
    (s.confirm q).heap = s.heap ∧ (s.confirm q).view = s.view ∧
      (s.confirm q).inFlight = s.inFlight := by
  unfold State.confirm
  split <;> exact ⟨rfl, rfl, rfl⟩

/-- A save of what the record still is takes nothing from what is unchanged. -/
theorem unchanged_confirm {s : State} {q : Save} (hs : Unchanged s) (hq : q.record = s.record) :
    Unchanged (s.confirm q) := by
  unfold State.confirm
  split
  · intro field
    show s.record field = if field.step = q.step then q.record field else s.before field
    rw [hq, ← hs field, ite_self]
  · exact hs

/-- **What an event does**: an edit goes to the step that is shown; any other event leaves
the heap, what it shows is right, and it takes nothing from what is unchanged when what was
saved is what the record is. -/
theorem step_cases {s t : State} {e : Event} (hs : Inv s) (h : step toNumber T s e = some t) :
    (∃ edit v w k, e = .edit edit ∧ s.view = some v ∧
      v.handle toNumber T s.heap edit = some (w, k) ∧
      t = { s with view := some w, heap := k, edits := s.edits + 1 }) ∨
    (StepOk s e ∧ t.heap = s.heap ∧ (∀ v ∈ t.view, v.Ok) ∧
      (Settled s → Settled t ∧ (Unchanged s → Unchanged t))) := by
  have hshow : ∀ k : Step, ∀ v ∈ some (mount k), v.Ok := by
    rintro k v ⟨⟩
    exact mount_ok k
  cases e with
  | editTask =>
    rw [step] at h
    split at h
    · cases h
    · cases h
      exact Or.inr ⟨trivial, rfl, hshow .one, fun hq => ⟨hq, fun _ _ => rfl⟩⟩
  | updateStep k =>
    obtain ⟨v, -, rfl⟩ := Option.map_eq_some_iff.1 h
    exact Or.inr ⟨trivial, rfl, hshow k, fun hq => ⟨hq, id⟩⟩
  | edit edit =>
    obtain ⟨v, hv, h⟩ := Option.bind_eq_some_iff.1 h
    obtain ⟨⟨w, k⟩, hwk, rfl⟩ := Option.map_eq_some_iff.1 h
    exact Or.inl ⟨edit, v, w, k, rfl, hv, hwk, rfl⟩
  | save =>
    obtain ⟨v, -, rfl⟩ := Option.map_eq_some_iff.1 h
    refine Or.inr ⟨trivial, rfl, hs.view, fun hq => ⟨fun q hmem => ?_, id⟩⟩
    rcases List.mem_append.1 hmem with hmem | hmem
    · exact hq q hmem
    · rw [List.mem_singleton.1 hmem]
      rfl
  | reply i r =>
    obtain ⟨q, hmem, rfl⟩ := Option.map_eq_some_iff.1 h
    have hview := afterReply_ok hs.view q.step r
    have hsettled : Settled s → ∀ p ∈ s.inFlight.eraseIdx i, p.record = s.record :=
      fun hq p hp => hq p (Async.mem_of_eraseIdx hp)
    dsimp only
    split
    · obtain ⟨hheap, hviews, hin⟩ := confirm_frame
        { s with view := afterReply s.view q.step r, inFlight := s.inFlight.eraseIdx i } q
      refine Or.inr ⟨trivial, hheap, by rwa [hviews], fun hq => ⟨?_, fun hbefore => ?_⟩⟩
      · unfold Settled State.record
        rw [hin, hheap]
        exact hsettled hq
      · exact unchanged_confirm hbefore (hq q (List.mem_of_getElem? hmem))
    · exact Or.inr ⟨trivial, rfl, hview, fun hq => ⟨hsettled hq, id⟩⟩
  | goBack =>
    obtain ⟨v, -, rfl⟩ := Option.map_eq_some_iff.1 h
    exact Or.inr ⟨trivial, rfl, nofun, fun hq => ⟨hq, id⟩⟩

theorem inv_step {s t : State} {e : Event} (hs : Inv s) (h : step toNumber T s e = some t) :
    Inv t := by
  rcases step_cases hs h with ⟨edit, v, w, k, -, hv, hwk, rfl⟩ | ⟨-, hheap, hview, -⟩
  · obtain ⟨hw, heffect⟩ := handle_effect hs.size (hs.view v hv) hwk
    refine ⟨heffect.size, ?_⟩
    rintro w' ⟨⟩
    exact hw
  · exact ⟨hheap ▸ hs.size, hview⟩

/-- An edit leaves the record as it is exactly when it is harmless. -/
theorem record_edit_iff {s : State} {v w : View} {k : Heap (Obj Atom)} {e : Edit} (hs : Inv s)
    (hv : s.view = some v) (hwk : v.handle toNumber T s.heap e = some (w, k)) :
    (∀ field : Field, k.get field.addr = s.record field) ↔ v.Harmless s.heap e := by
  obtain ⟨-, heffect⟩ := handle_effect hs.size (hs.view v hv) hwk
  refine ⟨fun hk => heffect.target.1 (hk e.field), fun hharmless field => ?_⟩
  by_cases hfield : field = e.field
  · subst hfield
    exact heffect.target.2 hharmless
  · exact heffect.frame field hfield

/-- What was saved stays what the record is when a step meets the condition. -/
theorem settled_step {s t : State} {e : Event} (hs : Inv s) (hq : Settled s) (hok : StepOk s e)
    (h : step toNumber T s e = some t) : Settled t := by
  rcases step_cases hs h with ⟨edit, v, w, k, rfl, hv, hwk, rfl⟩ | ⟨-, -, -, hsettled⟩
  · intro q hmem
    have hrecord := (record_edit_iff hs hv hwk).2 (hok v hv)
    exact (hq q hmem).trans (funext hrecord).symm
  · exact (hsettled hq).1

/-- A step keeps the property exactly when it meets the condition. -/
theorem stepOk_iff {s t : State} {e : Event} (hs : Inv s) (hq : Settled s)
    (hbefore : Unchanged s) (h : step toNumber T s e = some t) : StepOk s e ↔ Unchanged t := by
  rcases step_cases hs h with ⟨edit, v, w, k, rfl, hv, hwk, rfl⟩ | ⟨hok, -, -, hsettled⟩
  · have hafter : Unchanged { s with view := some w, heap := k, edits := s.edits + 1 } ↔
        ∀ field : Field, k.get field.addr = s.record field :=
      forall_congr' fun field => by rw [hbefore field]; rfl
    rw [hafter, record_edit_iff hs hv hwk, StepOk]
    simp [hv]
  · exact iff_of_true hok ((hsettled hq).2 hbefore)

/-- **When an abandoned edit changes nothing.**  For every record, in a run of any
openings, edits, moves between the steps, saves with any answers, and leavings of the
wizard, the record is throughout what it was when the wizard was opened or, for the fields
of a step that has been saved with success since, when that save was sent, exactly when
every edit is harmless. -/
theorem unchanged_iff (toNumber : String → Option ℕ) (T : TagsTaxonomy) {r : Record}
    {es : List Event} {s : State} (h : (machine toNumber T r).run es = some s) :
    (machine toNumber T r).Meets StepOk es ↔
      ∀ fs, fs <+: es → ∀ t, (machine toNumber T r).run fs = some t → Unchanged t :=
  (machine toNumber T r).meets_iff_of_invariant (I := fun _ => Unchanged)
    (J := fun s => Inv s ∧ Settled s) (fun _ => rfl) ⟨inv_init r, nofun⟩
    (fun _ _ _ hs hok hst => ⟨inv_step hs.1 hst, settled_step hs.1 hs.2 hok hst⟩)
    (fun _ _ _ _ _ hs hbefore => stepOk_iff hs.1 hs.2 hbefore) h

/-- A record with one tag and one question. -/
def sampleRecord : Record where
  tags_arr := [⟨[("id", .number 11), ("name", .text "logo")]⟩]
  galleries := []
  downloads := []
  faqs := [⟨[("question", .text "When?"), ("answer", .text "Soon.")]⟩]

/-- A tag is picked, which makes a new array, and a custom one is added to that; then the
wizard is left. -/
theorem unchanged_iff_sample :
    ∃ s, (machine PostTaskTags.sampleNumber PostTaskTags.sampleTaxonomy sampleRecord).run
        [.editTask, .edit (.one (.selectAndAddTags [.id 12])),
          .edit (.one (.addTagText "poster")), .goBack] = some s ∧ Unchanged s := by
  have hok : (machine PostTaskTags.sampleNumber PostTaskTags.sampleTaxonomy sampleRecord).Meets
      StepOk [.editTask, .edit (.one (.selectAndAddTags [.id 12])),
        .edit (.one (.addTagText "poster")), .goBack] := by decide
  exact ⟨_, rfl, (unchanged_iff _ _ rfl).1 hok _ List.prefix_rfl _ rfl⟩

/-- **A question is lost.**  A question is deleted on the form and the wizard is left
without saving: it is gone from the record. -/
theorem question_lost :
    ∃ s, (machine PostTaskTags.sampleNumber PostTaskTags.sampleTaxonomy sampleRecord).run
        [.editTask, .updateStep .four, .edit (.four (.deleteFaq 0)), .goBack] = some s ∧
      s.inFlight = [] ∧ s.before .faqs = sampleRecord.faqs ∧ s.record .faqs = [] :=
  ⟨_, rfl, rfl, rfl, rfl⟩

/-- So is a tag that is deleted after the step was saved. -/
example : ∃ s, (machine PostTaskTags.sampleNumber PostTaskTags.sampleTaxonomy sampleRecord).run
      [.editTask, .save, .reply 0 .success, .updateStep .one, .edit (.one (.deleteTags 0)),
        .goBack] = some s ∧
    s.before .tags_arr = sampleRecord.tags_arr ∧ s.record .tags_arr = [] :=
  ⟨_, rfl, rfl, rfl⟩

end TaskRecord
