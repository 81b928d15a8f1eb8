import Mathlib
import Taskbot.Async.Machine
import Taskbot.Store.SavedProjects

/-!
# The tabs of the saved items

The screen of the saved items has a tab for sellers, one for tasks and one for projects.
When an item is removed and the server has acknowledged it, the list of its tab is loaded
again.  The answer may be the empty array, and each tab has a handler of its own for that.

* `State`, `step` — the three lists, what the tabs show, and the removals one after the
  other.
* `upToDate_reloaded_iff` — what a tab shows after a reply.
* `shows_iff` — **the tabs show what was returned last exactly when the empty array comes
  for sellers only, or for a tab that shows nothing anyway.**
-/

namespace SavedTabs

/-! ## The screen -/

/-- The tabs; also the types of `update-saveditem`. -/
inductive Tab where
  | sellers
  | tasks
  | projects
  deriving DecidableEq

/-- An answer for tasks or for projects: the empty array, or an object with an array. -/
inductive Listing (α : Type) where
  | emptyArray
  | object (items : List α)
  deriving DecidableEq

/-- The answer to a request for the list of a tab. -/
inductive Reply (α : Type) where
  | sellers (responseJson : List α)
  | tasks (responseJson : Listing α)
  | projects (responseJson : Listing α)
  deriving DecidableEq

/-- What can happen: another tab is chosen, the server acknowledges that an item is
removed, and the list that is then asked for comes. -/
inductive Event (α : Type) where
  | setSelectedPlan (tab : Tab)
  | removed (type : Tab) (id : ℕ)
  | reloaded (r : Reply α)
  deriving DecidableEq

/-- The screen.  `asked` is the tab whose list is on its way; `last`, what was returned
last for each tab, is for the statements only. -/
structure State (α : Type) where
  selectedPlan : Tab
  loader : Bool
  savedSeller : List α
  savedTask : List α
  savedProjects : List α
  emptyFreelancerList : Bool
  /-- `savedProjects` of the store. -/
  savedList : List ℕ
  asked : Option Tab
  last : Tab → List α

variable {α : Type}

/-- The items that an answer has. -/
def Listing.items : Listing α → List α
  | emptyArray => []
  | object items => items

/-- The tab an answer is for. -/
def Reply.tab : Reply α → Tab
  | sellers _ => .sellers
  | tasks _ => .tasks
  | projects _ => .projects

/-- The items that it returns. -/
def Reply.items : Reply α → List α
  | sellers responseJson => responseJson
  | tasks responseJson | projects responseJson => responseJson.items

/-- `RemoveToSaveList`, from the success on: the list of the tab is asked for. -/
def removeToSaveList (s : State α) (type : Tab) (id : ℕ) : State α :=
  match type with
  | .sellers => { s with loader := true, asked := some .sellers }
  | .tasks => { s with loader := false, asked := some .tasks }
  | .projects =>
    { s with
      savedList := SavedProjects.removeToSaveList s.savedList id
      loader := true
      asked := some .projects }

/-- The reply handlers of `getSavedSeller`, `getSavedTask` and `getSavedProjects`. -/
def handle (s : State α) : Reply α → State α
  | .sellers responseJson =>
    if responseJson.length = 0 then { s with emptyFreelancerList := true, loader := false }
    else { s with emptyFreelancerList := false, savedSeller := responseJson, loader := false }
  | .tasks .emptyArray => { s with loader := false }
  | .tasks (.object items) => { s with savedTask := items, loader := false }
  | .projects .emptyArray => { s with loader := false }
  | .projects (.object items) => { s with savedProjects := items, loader := false }

/-- The reply is not waited for any more. -/
def note (s : State α) (r : Reply α) : State α :=
  { s with asked := none, last := Function.update s.last r.tab r.items }

/-- One event: each removal waits for the list that the one before it asks for. -/
def step (s : State α) : Event α → Option (State α)
  | .setSelectedPlan tab => some { s with selectedPlan := tab }
  | .removed type id => if s.asked = none then some (removeToSaveList s type id) else none
  | .reloaded r =>
    if s.asked = some r.tab then some (note (handle s r) r) else none

/-- The screen with its lists loaded. -/
def machine (lists : Tab → List α) (savedList : List ℕ) : Async.Machine (State α) (Event α) where
  init :=
    { selectedPlan := .sellers
      loader := false
      savedSeller := lists .sellers
      savedTask := lists .tasks
      savedProjects := lists .projects
      emptyFreelancerList := (lists .sellers).length = 0
      savedList := savedList
      asked := none
      last := lists }
  step := step

/-- The items a tab shows; the picture that there are none takes the place of the
sellers. -/
def shown (s : State α) : Tab → List α
  | .sellers => if s.emptyFreelancerList then [] else s.savedSeller
  | .tasks => s.savedTask
  | .projects => s.savedProjects

/-! ## What a reply does -/

@[simp] theorem shown_note (s : State α) (r : Reply α) (tab : Tab) :
    shown (note s r) tab = shown s tab := by
  cases tab <;> rfl

@[simp] theorem last_handle (s : State α) (r : Reply α) : (handle s r).last = s.last := by
  match r with
  | .sellers [] => rfl
  | .sellers (_ :: _) => rfl
  | .tasks .emptyArray => rfl
  | .tasks (.object _) => rfl
  | .projects .emptyArray => rfl
  | .projects (.object _) => rfl

/-- Is it the empty array, for tasks or for projects? -/
def Reply.isEmptyListing : Reply α → Bool
  | sellers _ => false
  | tasks .emptyArray | projects .emptyArray => true
  | tasks (.object _) | projects (.object _) => false

theorem Reply.items_of_isEmptyListing {r : Reply α} (h : r.isEmptyListing) : r.items = [] := by
  match r with
  | .tasks .emptyArray => rfl
  | .projects .emptyArray => rfl

/-- The tab of the reply shows its items, but the empty array for tasks or for projects
leaves it as it is. -/
theorem shown_handle_tab (s : State α) (r : Reply α) :
    shown (handle s r) r.tab = if r.isEmptyListing then shown s r.tab else r.items := by
  match r with
  | .sellers [] => rfl
  | .sellers (_ :: _) => rfl
  | .tasks .emptyArray => rfl
  | .tasks (.object _) => rfl
  | .projects .emptyArray => rfl
  | .projects (.object _) => rfl

/-- The other tabs are left alone. -/
theorem shown_handle_of_ne (s : State α) (r : Reply α) {tab : Tab} (h : tab ≠ r.tab) :
    shown (handle s r) tab = shown s tab := by
  match r, tab with
  | .sellers [], .tasks => rfl
  | .sellers [], .projects => rfl
  | .sellers (_ :: _), .tasks => rfl
  | .sellers (_ :: _), .projects => rfl
  | .tasks .emptyArray, _ => rfl
  | .tasks (.object _), .sellers => rfl
  | .tasks (.object _), .projects => rfl
  | .projects .emptyArray, _ => rfl
  | .projects (.object _), .sellers => rfl
  | .projects (.object _), .tasks => rfl
  | .sellers _, .sellers => exact absurd rfl h
  | .tasks (.object _), .tasks => exact absurd rfl h
  | .projects (.object _), .projects => exact absurd rfl h

/-! ## When the tabs are up to date -/

/-- The property: each tab shows what was returned last for it. -/
def UpToDate (s : State α) : Prop := ∀ tab, shown s tab = s.last tab

/-- What a step must meet: the empty array comes for tasks or projects only when the tab
shows none. -/
def ReloadOk (s : State α) : Event α → Prop
  | .reloaded r => r.isEmptyListing → shown s r.tab = []
  | .setSelectedPlan _ | .removed _ _ => True

instance [DecidableEq α] (s : State α) : (e : Event α) → Decidable (ReloadOk s e)
  | .reloaded r => inferInstanceAs (Decidable (r.isEmptyListing → shown s r.tab = []))
  | .setSelectedPlan _ | .removed _ _ => isTrue trivial

/-- A state that shows and remembers the same is up to date as well. -/
theorem upToDate_of_eq {s t : State α} (hs : UpToDate s)
    (hshown : ∀ tab, shown t tab = shown s tab) (hlast : t.last = s.last) : UpToDate t := by
  intro tab
  rw [hshown, hlast]
  exact hs tab

theorem upToDate_removeToSaveList {s : State α} (hs : UpToDate s) (type : Tab) (id : ℕ) :
    UpToDate (removeToSaveList s type id) := by
  cases type with
  | sellers => exact upToDate_of_eq hs (fun tab => by cases tab <;> rfl) rfl
  | tasks => exact upToDate_of_eq hs (fun tab => by cases tab <;> rfl) rfl
  | projects => exact upToDate_of_eq hs (fun tab => by cases tab <;> rfl) rfl

/-- The tab of a reply shows its items unless the empty array has left others there. -/
theorem shown_tab_iff (s : State α) (r : Reply α) :
    shown (handle s r) r.tab = r.items ↔ (r.isEmptyListing → shown s r.tab = []) := by
  rw [shown_handle_tab]
  by_cases hempty : r.isEmptyListing
  · rw [if_pos hempty, Reply.items_of_isEmptyListing hempty, forall_prop_of_true hempty]
  · rw [if_neg hempty]
    exact iff_of_true rfl fun h => absurd h hempty

/-- **One reply.** -/
theorem upToDate_reloaded_iff {s : State α} (hs : UpToDate s) (r : Reply α) :
    UpToDate (note (handle s r) r) ↔ (r.isEmptyListing → shown s r.tab = []) := by
  have hlast : (note (handle s r) r).last = Function.update s.last r.tab r.items := by
    rw [note, last_handle]
  rw [← shown_tab_iff]
  constructor
  · intro h
    have htab := h r.tab
    rwa [shown_note, hlast, Function.update_self] at htab
  · intro h tab
    rw [shown_note, hlast]
    by_cases htab : tab = r.tab
    · rw [htab, Function.update_self]
      exact h
    · rw [Function.update_of_ne htab, shown_handle_of_ne s r htab]
      exact hs tab

theorem reloadOk_iff {s t : State α} {e : Event α} (hs : UpToDate s) (h : step s e = some t) :
    ReloadOk s e ↔ UpToDate t := by
  cases e with
  | setSelectedPlan tab =>
    cases h
    exact iff_of_true trivial (upToDate_of_eq hs (fun tab => by cases tab <;> rfl) rfl)
  | removed type id =>
    obtain ⟨-, ⟨⟩⟩ := Option.ite_none_right_eq_some.1 h
    exact iff_of_true trivial (upToDate_removeToSaveList hs type id)
  | reloaded r =>
    obtain ⟨-, ⟨⟩⟩ := Option.ite_none_right_eq_some.1 h
    exact (upToDate_reloaded_iff hs r).symm

theorem upToDate_init (lists : Tab → List α) (savedList : List ℕ) :
    UpToDate (machine lists savedList).init := by
  intro tab
  cases tab with
  | sellers =>
    show (if decide ((lists .sellers).length = 0) then [] else lists .sellers) = lists .sellers
    split
    · next hempty => exact (List.eq_nil_of_length_eq_zero (of_decide_eq_true hempty)).symm
    · rfl
  | tasks => rfl
  | projects => rfl

/-- **When the tabs are up to date.**  For all lists, in a run of acknowledged removals with
their reloads: throughout, each tab shows the items that were returned for it last exactly
when the empty array comes for sellers only, or for a tab that shows nothing anyway. -/
theorem shows_iff {lists : Tab → List α} {savedList : List ℕ} {es : List (Event α)}
    {s : State α} (h : (machine lists savedList).run es = some s) :
    (machine lists savedList).Meets ReloadOk es ↔
      ∀ fs, fs <+: es → ∀ t, (machine lists savedList).run fs = some t → UpToDate t :=
  (machine lists savedList).meets_iff (I := fun _ => UpToDate) (upToDate_init lists savedList)
    (fun _ _ _ _ _ hs hst => reloadOk_iff hs hst) h

/-- One item in each tab. -/
def oneEach : Tab → List ℕ
  | .sellers => [1]
  | .tasks => [2]
  | .projects => [3]

/-- The seller is removed, and a task of two. -/
theorem shows_iff_sample :
    ∃ s, (machine (fun _ => [1, 2]) [1, 2]).run [.removed .sellers 1, .reloaded (.sellers []),
        .removed .tasks 2, .reloaded (.tasks (.object [1]))] = some s ∧ UpToDate s := by
  have hok : (machine (fun _ => [1, 2]) [1, 2]).Meets ReloadOk [.removed .sellers 1,
      .reloaded (.sellers []), .removed .tasks 2, .reloaded (.tasks (.object [1]))] := by decide
  exact ⟨_, rfl, (shows_iff rfl).1 hok _ List.prefix_rfl _ rfl⟩

/-- **The last task stays.**  The one task that is saved is removed, and the empty array
comes: the tab still shows it.  So it is with projects; only the sellers are gone. -/
theorem last_shown :
    ∃ s, (machine oneEach [3]).run [.removed .sellers 1, .reloaded (.sellers []),
        .removed .tasks 2, .reloaded (.tasks .emptyArray),
        .removed .projects 3, .reloaded (.projects .emptyArray)] = some s ∧
      [Tab.sellers, .tasks, .projects].map (shown s) = [[], [2], [3]] ∧
      [Tab.sellers, .tasks, .projects].map s.last = [[], [], []] :=
  ⟨_, rfl, rfl, rfl⟩

end SavedTabs
