import Mathlib
import Taskbot.Async.Machine
import Taskbot.Store.SavedProjects

/-!
# The heart of a saved item

Four components look for their item in a saved list of the store and set a flag
`added` that draws the heart: the card and the page of a project when they come into
focus, the pages of a task and of a seller when they are mounted.  Each looks by a loop
of state updates.

* `setEach`, `setMatches` — the two loops; `setEach_eq_true_iff`: **the first is decided
  by the last element**, `setMatches_eq_true_iff`: **the second never takes a heart
  away**.
* `hearts_iff` — when the hearts of a project are right after a focus event.
* `PageState`, `machine` — the pages of a task and of a seller: opened, tapped, answered,
  closed.  A page never writes the saved list.
* `reopened_iff` — **the heart of a page that is opened is the last acknowledged state
  of its item exactly when that is still what the list of the store says.**
-/

namespace SavedHeart

open SavedProjects (Op Reply lastOp lastOp_concat)

/-! ## The loops -/

/-- `savedList.map(data => { if (id == data.id) setAdded(true) else setAdded(false) })`. -/
def setEach (savedList : List ℕ) (id : ℕ) (added : Bool) : Bool :=
  savedList.foldl (fun _ data => if id = data then true else false) added

/-- `savedList.map(data => { if (id == data.id) setAdded(true) })`. -/
def setMatches (savedList : List ℕ) (id : ℕ) (added : Bool) : Bool :=
  savedList.foldl (fun added data => if id = data then true else added) added

@[simp] theorem setEach_nil (id : ℕ) (added : Bool) : setEach [] id added = added := rfl

@[simp] theorem setMatches_nil (id : ℕ) (added : Bool) : setMatches [] id added = added := rfl

/-- **The last element decides.**  Whatever came before it is overwritten. -/
theorem setEach_concat (savedList : List ℕ) (data id : ℕ) (added : Bool) :
    setEach (savedList ++ [data]) id added = true ↔ id = data := by
  rw [setEach, List.foldl_concat]
  by_cases hid : id = data
  · rw [if_pos hid]
    exact iff_of_true rfl hid
  · rw [if_neg hid]
    exact iff_of_false Bool.false_ne_true hid

/-- The heart after the first loop: of an empty list, what it was before; else whether
the item is the last one. -/
theorem setEach_eq_true_iff (savedList : List ℕ) (id : ℕ) (added : Bool) :
    setEach savedList id added = true ↔
      (savedList = [] ∧ added = true) ∨ savedList.getLast? = some id := by
  induction savedList using List.reverseRecOn with
  | nil => simp
  | append_singleton savedList data _ =>
    rw [setEach_concat, eq_comm]
    simp

/-- **A heart is never taken away.**  After the second loop it is there when the item is
in the list or it was there before. -/
theorem setMatches_eq_true_iff (savedList : List ℕ) (id : ℕ) (added : Bool) :
    setMatches savedList id added = true ↔ id ∈ savedList ∨ added = true := by
  induction savedList generalizing added with
  | nil => simp
  | cons data savedList ih =>
    have hcons : setMatches (data :: savedList) id added =
        setMatches savedList id (if id = data then true else added) := rfl
    rw [hcons, ih, List.mem_cons]
    by_cases hid : id = data <;> simp [hid]

/-! ## The card and the page of a project -/

/-- The effect of `ProjectListingCard` on `isFocused`. -/
def ProjectListingCard.focusEffect (isFocused : Bool) (savedList : List ℕ) (project_id : ℕ)
    (added : Bool) : Bool :=
  if isFocused then setEach savedList project_id added else added

/-- The effect of `ProjectDetails` on `isFocused`. -/
def ProjectDetails.focusEffect (isFocused : Bool) (savedList : List ℕ) (project_id : ℕ)
    (added : Bool) : Bool :=
  if isFocused then setMatches savedList project_id added else added

/-- What the two loops need: the heart of the card was not drawn if the list is empty, a
project in the list is its last one, and the heart of the page was not drawn if the
project is not in the list. -/
structure HeartsOk (savedList : List ℕ) (project_id : ℕ) (card page : Bool) : Prop where
  empty : savedList = [] → card = false
  last : project_id ∈ savedList → savedList.getLast? = some project_id
  page : project_id ∉ savedList → page = false

/-- The heart of the card is right when the list is not empty or it was not drawn, and
the project is last if at all. -/
theorem card_iff (savedList : List ℕ) (project_id : ℕ) (card : Bool) :
    (ProjectListingCard.focusEffect true savedList project_id card = true ↔
        project_id ∈ savedList) ↔
      (savedList = [] → card = false) ∧
        (project_id ∈ savedList → savedList.getLast? = some project_id) := by
  have hcard : ProjectListingCard.focusEffect true savedList project_id card =
      setEach savedList project_id card := rfl
  have hlast : savedList.getLast? = some project_id → project_id ∈ savedList :=
    List.mem_of_getLast?
  rw [hcard, setEach_eq_true_iff]
  by_cases hempty : savedList = []
  · subst hempty
    simp
  · simp only [hempty, false_and, false_or, false_implies, true_and]
    exact ⟨fun h => h.2, fun h => ⟨hlast, h⟩⟩

/-- The heart of the page is right when it was not drawn for a project that is not in
the list. -/
theorem page_iff (savedList : List ℕ) (project_id : ℕ) (page : Bool) :
    (ProjectDetails.focusEffect true savedList project_id page = true ↔
        project_id ∈ savedList) ↔
      (project_id ∉ savedList → page = false) := by
  have hpage : ProjectDetails.focusEffect true savedList project_id page =
      setMatches savedList project_id page := rfl
  rw [hpage, setMatches_eq_true_iff]
  by_cases hmem : project_id ∈ savedList <;> simp [hmem]

/-- **When the hearts are right.**  After a focus event both hearts of a project tell
whether it is in the list, exactly when the loops get what they need. -/
theorem hearts_iff (savedList : List ℕ) (project_id : ℕ) (card page : Bool) :
    ((ProjectListingCard.focusEffect true savedList project_id card = true ↔
          project_id ∈ savedList) ∧
        (ProjectDetails.focusEffect true savedList project_id page = true ↔
          project_id ∈ savedList)) ↔
      HeartsOk savedList project_id card page := by
  rw [card_iff, page_iff]
  exact ⟨fun ⟨⟨hempty, hlast⟩, hpage⟩ => ⟨hempty, hlast, hpage⟩,
    fun h => ⟨⟨h.empty, h.last⟩, h.page⟩⟩

/-- **The first of two saved projects.**  Project 7 is saved, and project 8 after it:
the card of project 7 shows no heart. -/
theorem first_not_shown :
    ¬ ∀ (savedList : List ℕ) (project_id : ℕ) (card page : Bool),
      (ProjectListingCard.focusEffect true savedList project_id card = true ↔
          project_id ∈ savedList) ∧
        (ProjectDetails.focusEffect true savedList project_id page = true ↔
          project_id ∈ savedList) := by
  intro h
  have hcard := (h [7, 8] 7 true false).1
  exact absurd (hcard.2 (by decide)) (by decide)

/-- The page of a project over any number of focus events, each with the list of that
moment: the heart is there when the project was in one of them. -/
theorem page_foldl (lists : List (List ℕ)) (project_id : ℕ) (added : Bool) :
    lists.foldl (fun added savedList =>
        ProjectDetails.focusEffect true savedList project_id added) added = true ↔
      added = true ∨ ∃ savedList ∈ lists, project_id ∈ savedList := by
  induction lists generalizing added with
  | nil => simp
  | cons savedList lists ih =>
    rw [List.foldl_cons, ih]
    have hpage : ProjectDetails.focusEffect true savedList project_id added =
        setMatches savedList project_id added := rfl
    rw [hpage, setMatches_eq_true_iff, List.exists_mem_cons_iff]
    tauto

/-! ## The pages of a task and of a seller -/

/-- The page on the screen: its item, its heart, and a number of its own. -/
structure Mounted where
  serial : ℕ
  item : ℕ
  added : Bool
  deriving DecidableEq

/-- A request `update-saveditem` in flight, and the page that sent it. -/
structure Request where
  serial : ℕ
  op : Op
  deriving DecidableEq

/-- One of the two pages: the list of the store, the page if it is open, how often it has
been opened, the requests in flight, and the operations acknowledged so far. -/
structure PageState where
  savedList : List ℕ
  mounted : Option Mounted
  mounts : ℕ
  inFlight : List Request
  acknowledged : List Op
  deriving DecidableEq

/-- The effect a page runs when it is mounted, on a flag that starts as `false`. -/
def mountEffect (savedList : List ℕ) (id : ℕ) : Bool := setMatches savedList id false

/-- `AddToSaveList('')` on a drawn heart, `AddToSaveList('saved')` on one that is not. -/
def Mounted.op (p : Mounted) : Op := if p.added then .remove p.item else .save p.item

/-- `setAdded` of the page that sent the request; on a page that is gone it does nothing. -/
def Mounted.setAdded (p : Mounted) (serial : ℕ) (added : Bool) : Mounted :=
  if p.serial = serial then { p with added } else p

/-- What can happen on a page. -/
inductive PageEvent where
  /-- The page of an item is opened. -/
  | opened (id : ℕ)
  /-- A tap on the heart. -/
  | tap
  /-- The request at place `i` of those in flight is answered. -/
  | reply (i : ℕ) (r : Reply)
  /-- The page is closed. -/
  | closed
  deriving DecidableEq

/-- One event of a page. -/
def pageStep (s : PageState) : PageEvent → Option PageState
  | .opened id =>
    match s.mounted with
    | some _ => none
    | none => some { s with
        mounted := some ⟨s.mounts, id, mountEffect s.savedList id⟩
        mounts := s.mounts + 1 }
  | .tap => s.mounted.map fun p => { s with inFlight := s.inFlight ++ [⟨p.serial, p.op⟩] }
  | .reply i r => s.inFlight[i]?.map fun q =>
    match r with
    | .success =>
      { s with
        mounted := s.mounted.map fun p => p.setAdded q.serial q.op.isSave
        inFlight := s.inFlight.eraseIdx i
        acknowledged := s.acknowledged ++ [q.op] }
    | .error | .failure => { s with inFlight := s.inFlight.eraseIdx i }
  | .closed => s.mounted.map fun _ => { s with mounted := none }

/-- The two pages: `TaskDetail` reads `savedTasks`, `ProfileDetail` reads `savedSellers`. -/
inductive Page where
  | taskDetail
  | profileDetail
  deriving DecidableEq

/-- An event on one of the pages. -/
structure Event where
  page : Page
  event : PageEvent
  deriving DecidableEq

/-- One event: the other page keeps its state. -/
def step (s : Page → PageState) (e : Event) : Option (Page → PageState) :=
  (pageStep (s e.page) e.event).map fun t => Function.update s e.page t

/-- The app with the two lists the store holds, no page open. -/
def machine (saved : Page → List ℕ) : Async.Machine (Page → PageState) Event :=
  ⟨fun page => ⟨saved page, none, 0, [], []⟩, step⟩

/-! ## The heart on reopening -/

/-- The last acknowledged state of an item: what the last acknowledged operation on it
made of it, and what it was at the start when there was none. -/
def acknowledgedState (start : List ℕ) (acknowledged : List Op) (id : ℕ) : Bool :=
  (lastOp acknowledged id).getD (decide (id ∈ start))

/-- A page leaves the list of the store alone. -/
theorem savedList_pageStep {s t : PageState} {e : PageEvent} (h : pageStep s e = some t) :
    t.savedList = s.savedList := by
  cases e with
  | opened id =>
    rw [pageStep] at h
    split at h
    · cases h
    · cases h
      rfl
  | tap | closed =>
    obtain ⟨p, -, rfl⟩ := Option.map_eq_some_iff.1 h
    rfl
  | reply i r =>
    obtain ⟨q, -, rfl⟩ := Option.map_eq_some_iff.1 h
    cases r <;> rfl

theorem savedList_step {s t : Page → PageState} {e : Event} (h : step s e = some t)
    (page : Page) : (t page).savedList = (s page).savedList := by
  obtain ⟨u, hu, rfl⟩ := Option.map_eq_some_iff.1 h
  by_cases hpage : page = e.page
  · subst hpage
    rw [Function.update_self]
    exact savedList_pageStep hu
  · rw [Function.update_of_ne hpage]

/-- What the lists of the store were they still are. -/
theorem savedList_kept {saved : Page → List ℕ} {s t : Page → PageState} {e : Event}
    (hs : ∀ page, (s page).savedList = saved page) (h : step s e = some t) (page : Page) :
    (t page).savedList = saved page := by
  rw [savedList_step h page, hs page]

/-- **The list of the store goes stale.**  No run changes it. -/
theorem savedList_run {saved : Page → List ℕ} {es : List Event} {s : Page → PageState}
    (h : (machine saved).run es = some s) (page : Page) : (s page).savedList = saved page :=
  (machine saved).invariant_run (I := fun s => ∀ page, (s page).savedList = saved page)
    (fun _ => rfl) (fun _ _ _ => savedList_kept) h page

/-- What a step must meet: an item whose page is opened is in the list of the store when
the last acknowledged operation on it, if any, was a save, and only then. -/
def StepOk (s : Page → PageState) : Event → Prop
  | ⟨page, .opened id⟩ =>
    ∀ isSave ∈ lastOp (s page).acknowledged id, isSave = decide (id ∈ (s page).savedList)
  | _ => True

instance (s : Page → PageState) (e : Event) : Decidable (StepOk s e) := by
  match e with
  | ⟨page, .opened id⟩ =>
    exact inferInstanceAs (Decidable (∀ isSave ∈ lastOp (s page).acknowledged id,
      isSave = decide (id ∈ (s page).savedList)))
  | ⟨_, .tap⟩ => exact isTrue trivial
  | ⟨_, .reply _ _⟩ => exact isTrue trivial
  | ⟨_, .closed⟩ => exact isTrue trivial

/-- Opening a page: what is shown, and that nothing is acknowledged by it. -/
theorem opened_cases {s t : Page → PageState} {page : Page} {id : ℕ}
    (h : step s ⟨page, .opened id⟩ = some t) :
    (t page).mounted = some ⟨(s page).mounts, id, mountEffect (s page).savedList id⟩ ∧
      (t page).acknowledged = (s page).acknowledged := by
  obtain ⟨u, hu, rfl⟩ := Option.map_eq_some_iff.1 h
  rw [pageStep] at hu
  split at hu
  · cases hu
  · cases hu
    simp

theorem mountEffect_eq (savedList : List ℕ) (id : ℕ) :
    mountEffect savedList id = decide (id ∈ savedList) := by
  rw [Bool.eq_iff_iff, mountEffect, setMatches_eq_true_iff]
  simp

/-- What a page shows when it is opened is right exactly when the step meets its
condition. -/
theorem stepOk_opened_iff {s t : Page → PageState} {page : Page} {id : ℕ}
    (h : step s ⟨page, .opened id⟩ = some t) :
    StepOk s ⟨page, .opened id⟩ ↔ ∀ p ∈ (t page).mounted,
      p.added = acknowledgedState (s page).savedList (t page).acknowledged id := by
  obtain ⟨hmounted, hacknowledged⟩ := opened_cases h
  rw [hmounted, hacknowledged, acknowledgedState, StepOk]
  simp only [Option.mem_def, Option.some.injEq, forall_eq', mountEffect_eq]
  cases lastOp (s page).acknowledged id <;> simp [eq_comm]

/-- **When a reopened page is right.**  In a run of any taps, replies, openings and
closings of the two pages, every page that is opened shows the last acknowledged state
of its item exactly when each time the list the store held from the start agrees with
the last acknowledged operation on it, if there was one. -/
theorem reopened_iff {saved : Page → List ℕ} {es : List Event} {s : Page → PageState}
    (h : (machine saved).run es = some s) :
    (machine saved).Meets StepOk es ↔
      ∀ fs page id, fs ++ [⟨page, .opened id⟩] <+: es →
        ∀ t, (machine saved).run (fs ++ [⟨page, .opened id⟩]) = some t →
          ∀ p ∈ (t page).mounted,
            p.added = acknowledgedState (saved page) (t page).acknowledged id := by
  have hopened : ∀ (k : Page × ℕ) s t, (∀ page, (s page).savedList = saved page) →
      step s ⟨k.1, .opened k.2⟩ = some t →
        (StepOk s ⟨k.1, .opened k.2⟩ ↔ ∀ p ∈ (t k.1).mounted,
          p.added = acknowledgedState (saved k.1) (t k.1).acknowledged k.2) := by
    intro k s t hs hst
    rw [stepOk_opened_iff hst, hs k.1]
  have hother : ∀ s e, (∀ k : Page × ℕ, e ≠ ⟨k.1, .opened k.2⟩) → StepOk s e := by
    rintro s ⟨page, event⟩ he
    cases event with
    | opened id => exact absurd rfl (he (page, id))
    | tap | reply _ _ | closed => trivial
  rw [(machine saved).meets_iff_of_events (fun k : Page × ℕ => ⟨k.1, .opened k.2⟩)
    (fun _ => rfl) (fun _ _ _ => savedList_kept) hopened hother h]
  constructor
  · intro hall fs page id hfs t ht
    obtain ⟨u, hu, -⟩ := (machine saved).run_concat_eq_some.1 ht
    exact hall fs (page, id) hfs u t hu ht
  · intro hall fs k hfs t u _ hu
    exact hall fs k.1 k.2 hfs u hu

/-- A saved task is removed and saved again; its page shows the heart when it is opened
for the second time. -/
theorem reopened_iff_sample :
    ∃ s, (machine fun _ => [5]).run
        [⟨.taskDetail, .opened 5⟩, ⟨.taskDetail, .tap⟩, ⟨.taskDetail, .reply 0 .success⟩,
          ⟨.taskDetail, .tap⟩, ⟨.taskDetail, .reply 0 .success⟩, ⟨.taskDetail, .closed⟩,
          ⟨.taskDetail, .opened 5⟩] = some s ∧
      (s .taskDetail).mounted = some ⟨1, 5, true⟩ ∧
      acknowledgedState [5] (s .taskDetail).acknowledged 5 = true := by
  have hok : (machine fun _ => [5]).Meets StepOk
      [⟨.taskDetail, .opened 5⟩, ⟨.taskDetail, .tap⟩, ⟨.taskDetail, .reply 0 .success⟩,
        ⟨.taskDetail, .tap⟩, ⟨.taskDetail, .reply 0 .success⟩, ⟨.taskDetail, .closed⟩,
        ⟨.taskDetail, .opened 5⟩] := by decide
  refine ⟨_, rfl, rfl, ?_⟩
  have hshown := (reopened_iff rfl).1 hok
    [⟨.taskDetail, .opened 5⟩, ⟨.taskDetail, .tap⟩, ⟨.taskDetail, .reply 0 .success⟩,
      ⟨.taskDetail, .tap⟩, ⟨.taskDetail, .reply 0 .success⟩, ⟨.taskDetail, .closed⟩]
    .taskDetail 5 List.prefix_rfl _ rfl ⟨1, 5, true⟩ rfl
  exact hshown.symm

/-- **A saved task without its heart.**  A task is saved on its page, the page is closed
and opened again: the heart is not drawn. -/
theorem saved_not_shown :
    ∃ s, (machine fun _ => []).run
        [⟨.taskDetail, .opened 5⟩, ⟨.taskDetail, .tap⟩, ⟨.taskDetail, .reply 0 .success⟩,
          ⟨.taskDetail, .closed⟩, ⟨.taskDetail, .opened 5⟩] = some s ∧
      (s .taskDetail).mounted = some ⟨1, 5, false⟩ ∧
      acknowledgedState [] (s .taskDetail).acknowledged 5 = true :=
  ⟨_, rfl, rfl, rfl⟩

end SavedHeart
