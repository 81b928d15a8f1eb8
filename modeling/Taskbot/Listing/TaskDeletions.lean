import Mathlib
import Taskbot.Async.Machine
import Taskbot.Js.Splice

/-!
# Deleting tasks from a list

The screen `TaskListing` with its cards (`TaskListCard`): the seller deletes tasks, and
a card that is told that its task is deleted removes the row from the array of the
screen **by the place it had when the button was tapped**.

* `Request`, `State`, `step` — what a card remembers of the drawing it was made in, the
  array and the rows drawn, and the handlers.
* `shown_reply_iff` — one acknowledged deletion.
* `deleted_iff` — **the rows drawn are those not deleted, all along a run, if and only
  if every deletion is acknowledged while its row is where it was and the screen has not
  been drawn for another one since.**
-/

namespace TaskListing

open Async

/-! ## The screen -/

/-- A task of the list. -/
structure Task where
  task_id : ℕ
  task_name : String
  deriving DecidableEq

/-- The list loaded from the server. -/
structure Loaded where
  tasks : List Task
  /-- Every task has an id of its own. -/
  nodup : (tasks.map Task.task_id).Nodup

/-- A request `delete-task`, with what the handler of its reply remembers: the place of
the card, and the hook `refreshList` of the drawing it was made in.  The ids and the
token of the user, the same in every request, are left out. -/
structure Request where
  task_id : ℕ
  index : ℕ
  refreshList : Bool
  deriving DecidableEq

/-- What comes back for a request. -/
inductive Reply where
  | success
  | error
  /-- Any other `type`. -/
  | other
  /-- The `catch` branch. -/
  | failure
  deriving DecidableEq

/-- The state of the screen.  The spinners of the cards, which keep no button from being
tapped, are left out. -/
structure State where
  /-- The array, which the handlers change in place. -/
  tasks : List Task
  /-- The rows, as they were when they were last drawn. -/
  rendered : List Task
  refreshList : Bool
  /-- The requests sent and not yet answered. -/
  inFlight : List Request
  /-- The ids of the tasks the server said it has deleted. -/
  acknowledged : List ℕ
  deriving DecidableEq

/-- What can happen to the screen. -/
inductive Event where
  /-- A tap on the delete button of a card drawn. -/
  | deleteTask (row : ℕ)
  /-- The list draws its rows again, as it does when it is scrolled. -/
  | redraw
  /-- The request at place `i` of those in flight is answered. -/
  | reply (i : ℕ) (r : Reply)
  deriving DecidableEq

/-- The setter of `refreshList`: the screen is drawn again when the hook gets a new
value, and only then. -/
def setRefreshList (s : State) (value : Bool) : State :=
  if value = s.refreshList then s else { s with refreshList := value, rendered := s.tasks }

/-- `deleteTask(index)` of the screen, as made in a drawing with the given hook. -/
def deleteItem (s : State) (index : ℕ) (refreshList : Bool) : State :=
  setRefreshList { s with tasks := s.tasks.eraseIdx index } (!refreshList)

/-- The handlers of the reply to `delete-task`. -/
def replied (s : State) (q : Request) : Reply → State
  | .success =>
    deleteItem { s with acknowledged := s.acknowledged ++ [q.task_id] } q.index q.refreshList
  | .error | .other | .failure => s

/-- One event. -/
def step (s : State) : Event → Option State
  | .deleteTask row =>
    s.rendered[row]?.map fun item =>
      { s with inFlight := s.inFlight ++ [⟨item.task_id, row, s.refreshList⟩] }
  | .redraw => some { s with rendered := s.tasks }
  | .reply i r =>
    s.inFlight[i]?.map fun q => replied { s with inFlight := s.inFlight.eraseIdx i } q r

/-- The screen with a list loaded and drawn. -/
def machine (t : Loaded) : Machine State Event := ⟨⟨t.tasks, t.tasks, false, [], []⟩, step⟩

/-! ## One reply -/

/-- The rows drawn are the tasks loaded, without those the server said it has deleted. -/
structure Shown (t : Loaded) (s : State) : Prop where
  tasks : s.tasks = t.tasks.filter fun u => u.task_id ∉ s.acknowledged
  rendered : s.rendered = s.tasks

/-- A deletion is acknowledged while its row is where it was, and the screen has not been
drawn for another one since; or there is nothing left to remove, neither the task nor
anything at its place. -/
def InPlace (s : State) (q : Request) : Prop :=
  (∃ u, s.tasks[q.index]? = some u ∧ u.task_id = q.task_id ∧ q.refreshList = s.refreshList) ∨
    (s.tasks[q.index]? = none ∧ ∀ u ∈ s.tasks, u.task_id ≠ q.task_id)

/-- What a step must meet: only the success of a deletion matters. -/
def StepOk (s : State) : Event → Prop
  | .reply i .success => ∀ q ∈ s.inFlight[i]?, InPlace s q
  | _ => True

instance (s : State) (q : Request) : Decidable (InPlace s q) := by
  unfold InPlace
  cases s.tasks[q.index]? with
  | none => exact decidable_of_iff (∀ u ∈ s.tasks, u.task_id ≠ q.task_id) (by simp)
  | some u =>
    exact decidable_of_iff (u.task_id = q.task_id ∧ q.refreshList = s.refreshList) (by simp)

instance (s : State) (e : Event) : Decidable (StepOk s e) := by
  unfold StepOk
  split <;> infer_instance

theorem nodup_of_shown {t : Loaded} {s : State} (hs : Shown t s) :
    (s.tasks.map Task.task_id).Nodup := by
  rw [hs.tasks]
  exact t.nodup.sublist (List.filter_sublist.map Task.task_id)

/-- The tasks that should be left after one more deletion. -/
theorem filter_acknowledged {t : Loaded} {s : State} (hs : Shown t s) (id : ℕ) :
    (t.tasks.filter fun u => u.task_id ∉ s.acknowledged ++ [id]) =
      s.tasks.filter fun u => u.task_id ≠ id := by
  rw [hs.tasks, List.filter_filter]
  refine List.filter_congr fun u _ => ?_
  simp [and_comm]

/-- What a card does to the screen when its task is deleted. -/
theorem deleteItem_fields (s : State) (index : ℕ) (refreshList : Bool) :
    (deleteItem s index refreshList).tasks = s.tasks.eraseIdx index ∧
      (deleteItem s index refreshList).acknowledged = s.acknowledged ∧
      (deleteItem s index refreshList).rendered =
        if refreshList = s.refreshList then s.tasks.eraseIdx index else s.rendered := by
  unfold deleteItem setRefreshList
  cases refreshList <;> cases s.refreshList <;> simp

/-- **One acknowledged deletion.**  The screen still shows what it should exactly when
the row was in its place. -/
theorem shown_reply_iff {t : Loaded} {s : State} (hs : Shown t s) (q : Request) :
    InPlace s q ↔ Shown t (replied s q .success) := by
  obtain ⟨htasks, hack, hdrawn⟩ := deleteItem_fields
    { s with acknowledged := s.acknowledged ++ [q.task_id] } q.index q.refreshList
  have hleft := filter_acknowledged hs q.task_id
  have hplace := Js.eraseIdx_eq_filter_iff Task.task_id (nodup_of_shown hs)
    (i := q.index) (k := q.task_id)
  constructor
  · intro hin
    have herase : s.tasks.eraseIdx q.index = s.tasks.filter fun u => u.task_id ≠ q.task_id := by
      refine hplace.2 ?_
      rcases hin with ⟨u, hu, hid, -⟩ | hgone
      · exact Or.inl ⟨u, hu, hid⟩
      · exact Or.inr hgone
    refine ⟨?_, ?_⟩
    · rw [replied, htasks, hack, hleft]
      exact herase
    · rw [replied, hdrawn, htasks]
      rcases hin with ⟨u, -, -, hflag⟩ | ⟨hnone, -⟩
      · exact if_pos hflag
      · -- nothing is removed, so that nothing has to be drawn
        have hlen : s.tasks.length ≤ q.index := List.getElem?_eq_none_iff.1 hnone
        split
        · rfl
        · exact hs.rendered.trans (List.eraseIdx_of_length_le hlen).symm
  · intro hshown
    have herase : s.tasks.eraseIdx q.index = s.tasks.filter fun u => u.task_id ≠ q.task_id := by
      have := hshown.tasks
      rw [replied, htasks, hack, hleft] at this
      exact this
    rcases hplace.1 herase with ⟨u, hu, hid⟩ | hgone
    · refine Or.inl ⟨u, hu, hid, ?_⟩
      by_contra hflag
      have hrows := hshown.rendered
      rw [replied, hdrawn, htasks, if_neg hflag] at hrows
      -- the rows drawn have not changed, but the array is one shorter
      have hlen := congrArg List.length (hs.rendered.symm.trans hrows)
      have := length_eraseIdx_add_one hu
      simp only at hlen
      omega
    · exact Or.inr hgone

/-! ## Runs -/

theorem shown_step_iff {t : Loaded} {s u : State} {e : Event} (hs : Shown t s)
    (h : step s e = some u) : StepOk s e ↔ Shown t u := by
  cases e with
  | deleteTask row =>
    obtain ⟨item, -, rfl⟩ := Option.map_eq_some_iff.1 h
    exact iff_of_true trivial ⟨hs.tasks, hs.rendered⟩
  | redraw =>
    cases h
    exact iff_of_true trivial ⟨hs.tasks, rfl⟩
  | reply i r =>
    obtain ⟨q, hq, rfl⟩ := Option.map_eq_some_iff.1 h
    cases r with
    | success =>
      have hs' : Shown t { s with inFlight := s.inFlight.eraseIdx i } := ⟨hs.tasks, hs.rendered⟩
      rw [← shown_reply_iff hs' q]
      simp only [StepOk, hq, Option.mem_def, Option.some.injEq, forall_eq']
      rfl
    | error | other | failure => exact iff_of_true trivial ⟨hs.tasks, hs.rendered⟩

/-- **Deleting tasks.**  All along a run the rows drawn are the tasks not deleted, in
their order, if and only if every deletion is acknowledged while its row is in its
place. -/
theorem deleted_iff {t : Loaded} {es : List Event} {s : State}
    (h : (machine t).run es = some s) :
    (machine t).Meets StepOk es ↔
      ∀ fs, fs <+: es → ∀ u, (machine t).run fs = some u → Shown t u := by
  refine (machine t).meets_iff (I := fun _ => Shown t) ⟨?_, rfl⟩ ?_ h
  · simp [machine]
  · intro _ _ _ _ _ hs hstep
    exact shown_step_iff hs hstep

/-- Three tasks. -/
def threeTasks : Loaded where
  tasks := [⟨1, "Logo"⟩, ⟨2, "Flyer"⟩, ⟨3, "Poster"⟩]
  nodup := by decide

/-- Two deletions, one after the other. -/
theorem deleted_sample :
    ∃ s, (machine threeTasks).run
        [.deleteTask 0, .reply 0 .success, .deleteTask 0, .reply 0 .success] = some s ∧
      Shown threeTasks s := by
  have hok : (machine threeTasks).Meets StepOk
      [.deleteTask 0, .reply 0 .success, .deleteTask 0, .reply 0 .success] := by decide
  exact ⟨_, rfl, (deleted_iff rfl).1 hok _ List.prefix_rfl _ rfl⟩

/-- **The wrong row goes.**  The tasks 1 and 2 are deleted, the second before the first
is acknowledged: the list keeps 2 and loses 3, and the rows drawn still have both. -/
theorem wrong_row_removed :
    ∃ s, (machine threeTasks).run
        [.deleteTask 0, .deleteTask 1, .reply 0 .success, .reply 0 .success] = some s ∧
      s.acknowledged = [1, 2] ∧ s.tasks = [⟨2, "Flyer"⟩] ∧
      s.rendered = [⟨2, "Flyer"⟩, ⟨3, "Poster"⟩] ∧ ¬ Shown threeTasks s := by
  refine ⟨_, rfl, rfl, rfl, rfl, fun hs => ?_⟩
  exact absurd hs.rendered (by decide)

end TaskListing
