import Mathlib
import Taskbot.Async.Machine

/-!
# Saving and removing projects

The store's list `savedProjects`, written from three components: the card of a
project in a listing, the page of a project, and the page of the saved items.  Each
of them writes a whole new list, made from the one it saw when it was tapped.

* `addToSaveList`, `removeToSaveList` — the lists the components write.
* `applyOp`, `mem_foldl_applyOp` — what saving and removing mean: **after any
  operations a project is in the list when the last one about it was a save**.
* `machine` — taps and replies, in any order.
* `savedProjects_eq` — **the list is the acknowledged operations applied in the
  order of their replies, when each is acknowledged while the list is still the one
  it was tapped on**, and nothing is saved that is in it.
-/

namespace SavedProjects

/-! ## What saving means -/

/-- An operation on the list: save a project or remove it. -/
inductive Op where
  | save (project_id : ℕ)
  | remove (project_id : ℕ)
  deriving DecidableEq

/-- The project an operation is about. -/
def Op.id : Op → ℕ
  | save project_id | remove project_id => project_id

/-- Is the operation a save? -/
def Op.isSave : Op → Bool
  | save _ => true
  | remove _ => false

/-- What an operation means: a saved project is listed once, a removed one not at
all. -/
def applyOp (l : List ℕ) : Op → List ℕ
  | .save project_id => if project_id ∈ l then l else l ++ [project_id]
  | .remove project_id => l.filter (· ≠ project_id)

theorem nodup_applyOp {l : List ℕ} (hl : l.Nodup) (op : Op) : (applyOp l op).Nodup := by
  cases op with
  | save project_id =>
    rw [applyOp]
    split
    · exact hl
    · rename_i h
      refine List.nodup_append.2 ⟨hl, List.nodup_singleton _, ?_⟩
      rintro a ha b hb rfl
      exact h (List.mem_singleton.1 hb ▸ ha)
  | remove project_id => exact hl.filter _

theorem nodup_foldl_applyOp {l : List ℕ} (hl : l.Nodup) (ops : List Op) :
    (ops.foldl applyOp l).Nodup := by
  induction ops generalizing l with
  | nil => exact hl
  | cons op ops ih => exact ih (nodup_applyOp hl op)

/-- The last operation about a project: was it a save? -/
def lastOp (ops : List Op) (project_id : ℕ) : Option Bool :=
  ops.foldl (fun last op => if op.id = project_id then some op.isSave else last) none

theorem lastOp_concat (ops : List Op) (op : Op) (project_id : ℕ) :
    lastOp (ops ++ [op]) project_id =
      if op.id = project_id then some op.isSave else lastOp ops project_id := by
  rw [lastOp, List.foldl_concat, lastOp]

theorem mem_applyOp (l : List ℕ) (op : Op) (project_id : ℕ) :
    project_id ∈ applyOp l op ↔
      if op.id = project_id then op.isSave = true else project_id ∈ l := by
  cases op with
  | save p =>
    rw [applyOp]
    by_cases hp : p = project_id
    · subst hp
      by_cases hmem : p ∈ l <;> simp [Op.id, Op.isSave, hmem]
    · by_cases hmem : p ∈ l <;> simp [Op.id, hp, hmem, Ne.symm hp]
  | remove p =>
    by_cases hp : p = project_id
    · simp [applyOp, Op.id, Op.isSave, hp]
    · simp [applyOp, Op.id, hp, Ne.symm hp]

/-- **The last operation decides.**  A project is listed in the end when the last
operation about it was a save; when there was none, as before. -/
theorem mem_foldl_applyOp (l : List ℕ) (ops : List Op) (project_id : ℕ) :
    project_id ∈ ops.foldl applyOp l ↔
      lastOp ops project_id = some true ∨ (lastOp ops project_id = none ∧ project_id ∈ l) := by
  induction ops using List.reverseRecOn with
  | nil => simp [lastOp]
  | append_singleton ops op ih =>
    rw [List.foldl_concat, mem_applyOp, lastOp_concat]
    split
    · simp
    · exact ih

/-! ## The components -/

/-- The components that write the list. -/
inductive Component where
  | projectListingCard
  | projectDetails
  | savedItem
  deriving DecidableEq

/-- The list `AddToSaveList(value)` writes, of the list it closed over: a copy with
the project pushed for `'saved'`, and the others for `''`. -/
def addToSaveList (savedList : List ℕ) : Op → List ℕ
  | .save project_id => savedList ++ [project_id]
  | .remove project_id => savedList.filter (· ≠ project_id)

/-- The list `RemoveToSaveList('projects', id)` writes. -/
def removeToSaveList (savedList : List ℕ) (id : ℕ) : List ℕ := savedList.filter (· ≠ id)

/-- The list a component writes for an operation; the page of the saved items can
only remove. -/
def newList (savedList : List ℕ) : Component → Op → Option (List ℕ)
  | .projectListingCard, op => some (addToSaveList savedList op)
  | .projectDetails, op => some (addToSaveList savedList op)
  | .savedItem, .remove id => some (removeToSaveList savedList id)
  | .savedItem, .save _ => none

/-- A request `update-saveditem` in flight: what it asks for, the list the handler
closed over, and the list its handler will write. -/
structure Request where
  op : Op
  savedList : List ℕ
  list : List ℕ
  deriving DecidableEq

/-- What comes back; anything but a success writes nothing. -/
inductive Reply where
  | success
  | error
  | failure
  deriving DecidableEq

/-- The list in the store, the requests in flight, and the operations acknowledged
so far, in the order of their replies. -/
structure State where
  savedProjects : List ℕ
  inFlight : List Request
  acknowledged : List Op
  deriving DecidableEq

/-- What can happen. -/
inductive Event where
  /-- A tap on a heart, or on "remove". -/
  | tap (component : Component) (op : Op)
  /-- The request at place `i` of those in flight is answered. -/
  | reply (i : ℕ) (r : Reply)
  deriving DecidableEq

/-- One event. -/
def step (s : State) : Event → Option State
  | .tap component op =>
    (newList s.savedProjects component op).map fun list =>
      { s with inFlight := s.inFlight ++ [⟨op, s.savedProjects, list⟩] }
  | .reply i r =>
    s.inFlight[i]?.map fun q =>
      match r with
      | .success =>
        { savedProjects := q.list
          inFlight := s.inFlight.eraseIdx i
          acknowledged := s.acknowledged ++ [q.op] }
      | .error | .failure => { s with inFlight := s.inFlight.eraseIdx i }

/-- The app with some projects saved. -/
def machine (savedProjects : List ℕ) : Async.Machine State Event :=
  ⟨⟨savedProjects, [], []⟩, step⟩

/-! ## When no operation is lost -/

/-- A component writes what the operation means, unless it saves a project that is
in its list. -/
theorem newList_eq_applyOp {savedList list : List ℕ} {component : Component} {op : Op}
    (h : newList savedList component op = some list)
    (hnew : op.isSave = true → op.id ∉ savedList) : list = applyOp savedList op := by
  cases op with
  | save project_id =>
    have hadd : applyOp savedList (.save project_id) = savedList ++ [project_id] :=
      if_neg (hnew rfl)
    rw [hadd]
    cases component with
    | projectListingCard | projectDetails => exact (Option.some.inj h).symm
    | savedItem => cases h
  | remove project_id => cases component <;> exact (Option.some.inj h).symm

/-- What a step must meet: an operation is acknowledged while the list is still the
one it was tapped on, and a save only when the project is not in it. -/
def StepOk (s : State) : Event → Prop
  | .reply i .success => ∀ q ∈ s.inFlight[i]?,
    q.savedList = s.savedProjects ∧ (q.op.isSave = true → q.op.id ∉ q.savedList)
  | _ => True

instance (s : State) (e : Event) : Decidable (StepOk s e) := by
  match e with
  | .tap _ _ => exact isTrue trivial
  | .reply i .success => unfold StepOk; infer_instance
  | .reply _ .error => exact isTrue trivial
  | .reply _ .failure => exact isTrue trivial

/-- The list is what the acknowledged operations make of the first one, and every
request in flight will write what a component makes of its list. -/
structure Inv (start : List ℕ) (s : State) : Prop where
  list : s.savedProjects = s.acknowledged.foldl applyOp start
  inFlight : ∀ q ∈ s.inFlight, ∃ component, newList q.savedList component q.op = some q.list

theorem inv_step {start : List ℕ} {s u : State} {e : Event} (hs : Inv start s) (hok : StepOk s e)
    (h : step s e = some u) : Inv start u := by
  cases e with
  | tap component op =>
    obtain ⟨list, hlist, rfl⟩ := Option.map_eq_some_iff.1 h
    refine ⟨hs.list, fun q hq => ?_⟩
    rcases List.mem_append.1 hq with hq | hq
    · exact hs.inFlight q hq
    · obtain rfl := List.mem_singleton.1 hq
      exact ⟨component, hlist⟩
  | reply i r =>
    obtain ⟨q, hq, rfl⟩ := Option.map_eq_some_iff.1 h
    have hrest : ∀ p ∈ s.inFlight.eraseIdx i,
        ∃ component, newList p.savedList component p.op = some p.list :=
      fun p hp => hs.inFlight p (Async.mem_of_eraseIdx hp)
    cases r with
    | success =>
      obtain ⟨hlist, hnew⟩ := hok q hq
      obtain ⟨component, hcomponent⟩ := hs.inFlight q (List.mem_of_getElem? hq)
      refine ⟨?_, hrest⟩
      have hwritten := newList_eq_applyOp hcomponent hnew
      rw [hlist] at hwritten
      rw [List.foldl_concat, ← hs.list]
      exact hwritten
    | error | failure => exact ⟨hs.list, hrest⟩

/-- **No operation is lost.**  In every run in which each operation is acknowledged
while the list is still the one it was tapped on, and no project is saved that is in
it, the list is the first one with the acknowledged operations applied in the order
of their replies: a project is in it when the last of them about it was a save, and
none is in it twice. -/
theorem savedProjects_eq {start : List ℕ} (hstart : start.Nodup) {es : List Event} {s : State}
    (hok : (machine start).Meets StepOk es) (h : (machine start).run es = some s) :
    s.savedProjects = s.acknowledged.foldl applyOp start ∧ s.savedProjects.Nodup ∧
      ∀ project_id, project_id ∈ s.savedProjects ↔
        lastOp s.acknowledged project_id = some true ∨
          (lastOp s.acknowledged project_id = none ∧ project_id ∈ start) := by
  have h0 : Inv start ⟨start, [], []⟩ := ⟨rfl, fun _ hq => absurd hq List.not_mem_nil⟩
  have hs := (machine start).invariant h0 (fun _ _ _ => inv_step) hok h
  rw [hs.list]
  exact ⟨rfl, nodup_foldl_applyOp hstart _, mem_foldl_applyOp start _⟩

/-- Saving a project and then removing another, one after the other. -/
theorem savedProjects_eq_sample :
    ∃ s, (machine [4]).run [.tap .projectListingCard (.save 7), .reply 0 .success,
        .tap .savedItem (.remove 4), .reply 0 .success] = some s ∧
      s.savedProjects = s.acknowledged.foldl applyOp [4] := by
  have hok : (machine [4]).Meets StepOk
      [.tap .projectListingCard (.save 7), .reply 0 .success,
        .tap .savedItem (.remove 4), .reply 0 .success] := by decide
  exact ⟨_, rfl, (savedProjects_eq (by decide) hok rfl).1⟩

/-- **An acknowledged save is lost.**  Two projects are saved from their cards, the
second before the first is acknowledged: only the second is in the list. -/
theorem save_lost :
    ∃ s, (machine []).run [.tap .projectListingCard (.save 7),
        .tap .projectListingCard (.save 8), .reply 0 .success, .reply 0 .success] = some s ∧
      s.inFlight = [] ∧ s.savedProjects = [8] ∧
      s.acknowledged.foldl applyOp [] = [7, 8] :=
  ⟨_, rfl, rfl, rfl, by decide⟩

end SavedProjects
