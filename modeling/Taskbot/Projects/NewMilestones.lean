import Mathlib
import Taskbot.Async.Machine
import Taskbot.Projects.MilestoneEncoding

/-!
# The sheet of new milestones

New milestones are written in a sheet of the screen `EmpProjectActivity`.  Each is an object,
changed in place at every letter typed; what is sent is a copy, but the object of the request
holds the milestones themselves, and when the server confirms, it is they that are pushed to
the list of the screen.

* `State`, `step` — the objects, the sheet, the requests on their way, and the list.
* `Inv` — while the sheet is open, none of its milestones is in the list.
* `Shown` — the milestones that were pushed are what the server has stored.
* `StepOk` — a request is confirmed while its milestones are still what they were when it was
  sent.
* `shown_iff` — **the list shows what is stored, throughout a run, exactly when that is so**:
  nothing typed afterwards reaches it.
-/

namespace NewMilestones

open MilestoneEncoding (Draw mileStoneObject newRows)

/-! ## The sheet -/

/-- A milestone of `addNewMilstone`. -/
structure Milestone where
  price : String
  title : String
  detail : String
  status : String
  deriving DecidableEq

/-- The one that `handelAddMilstone` pushes. -/
def blank : Milestone := ⟨"", "", "", ""⟩

/-- The inputs of a milestone. -/
inductive Input where
  | price
  | title
  | detail
  deriving DecidableEq

/-- `changePrice`, `changeTitle`, `changeDecription`. -/
def Milestone.change (m : Milestone) (txt : String) : Input → Milestone
  | .price => { m with price := txt }
  | .title => { m with title := txt }
  | .detail => { m with detail := txt }

/-- A milestone of a request, or pushed by one: its key, its object, and a history, what was
sent of it. -/
structure Row where
  key : String
  addr : ℕ
  sent : Milestone
  deriving DecidableEq

/-- The screen; of the list, the milestones that were pushed.  The objects are numbered as
they were made. -/
structure State where
  objects : List Milestone
  addNewMilstone : List ℕ
  /-- Is the sheet open? -/
  sheet : Bool
  inFlight : List (List Row)
  mileStoneData : List Row
  deriving DecidableEq

/-- A milestone as it is now. -/
def State.object (s : State) (addr : ℕ) : Milestone := s.objects[addr]?.getD blank

/-- The replies to `update-milestone`. -/
inductive Reply where
  | success
  | error
  /-- The request fails. -/
  | failure
  deriving DecidableEq

/-- What can happen. -/
inductive Event where
  | openMileStone
  /-- The sheet is closed by its button, or swiped away. -/
  | close
  | handelAddMilstone
  | removeMileStone (index : ℕ)
  | change (txt : String) (index : ℕ) (input : Input)
  /-- The milestones are sent, each under a name that is drawn. -/
  | handelAddNewMileStone (draws : ℕ → Draw)
  | reply (i : ℕ) (r : Reply)
  /-- The list is read from the server. -/
  | refresh

variable (toString36 : Draw → String)

def handelAddMilstone (s : State) : State :=
  { s with
    objects := s.objects ++ [blank]
    addNewMilstone := s.addNewMilstone ++ [s.objects.length] }

/-- What is sent: the object of the milestones, as it is listed, and a copy of each. -/
def request (s : State) (draws : ℕ → Draw) : List Row :=
  (newRows (mileStoneObject toString36 draws s.addNewMilstone)).map fun p =>
    ⟨p.1, p.2, s.object p.2⟩

/-- The handlers of the replies; the sheet is closed whatever the server says. -/
def replied (s : State) (rows : List Row) : Reply → State
  | .success => { s with mileStoneData := s.mileStoneData ++ rows, sheet := false }
  | .error => { s with sheet := false }
  | .failure => s

/-- One event; the inputs and buttons of the sheet are there while it is open. -/
def step (s : State) : Event → Option State
  | .openMileStone => some { s with addNewMilstone := [], sheet := true }
  | .close => some { s with sheet := false }
  | .handelAddMilstone => if s.sheet then some (handelAddMilstone s) else none
  | .removeMileStone index =>
    if s.sheet then some { s with addNewMilstone := s.addNewMilstone.eraseIdx index } else none
  | .change txt index input =>
    if s.sheet then
      s.addNewMilstone[index]?.map fun addr =>
        { s with objects := s.objects.modify addr fun m => m.change txt input }
    else none
  | .handelAddNewMileStone draws =>
    if s.sheet then some { s with inFlight := s.inFlight ++ [request toString36 s draws] }
    else none
  | .reply i r => s.inFlight[i]?.map fun rows =>
      replied { s with inFlight := s.inFlight.eraseIdx i } rows r
  | .refresh => some { s with mileStoneData := [] }

/-- The screen just opened. -/
def machine : Async.Machine State Event := ⟨⟨[], [], false, [], []⟩, step toString36⟩

/-! ## Whose objects -/

/-- Every milestone has an object; while the sheet is open, none of its milestones is in the
list. -/
structure Inv (s : State) : Prop where
  sheet : ∀ a ∈ s.addNewMilstone, a < s.objects.length
  inFlight : ∀ rows ∈ s.inFlight, ∀ r ∈ rows, r.addr < s.objects.length
  listed : ∀ r ∈ s.mileStoneData, r.addr < s.objects.length
  apart : s.sheet = true → ∀ r ∈ s.mileStoneData, r.addr ∉ s.addNewMilstone

section Inv

variable {toString36} {s t : State}

/-- A request holds milestones of the sheet. -/
theorem addr_mem_of_request {draws : ℕ → Draw} {r : Row}
    (h : r ∈ request toString36 s draws) : r.addr ∈ s.addNewMilstone := by
  obtain ⟨p, hp, rfl⟩ := List.mem_map.1 h
  have hfill : p ∈ mileStoneObject toString36 draws s.addNewMilstone :=
    (Js.ownEntries_perm _).mem_iff.1 hp
  rcases Js.mem_fill hfill with hnil | hitem
  · simp at hnil
  · obtain ⟨⟨a, i⟩, ha, rfl⟩ := List.mem_map.1 hitem
    exact List.fst_mem_of_mem_zipIdx ha

theorem inv_handelAddMilstone (hs : Inv s) : Inv (handelAddMilstone s) := by
  have hlength : (handelAddMilstone s).objects.length = s.objects.length + 1 := by
    simp [handelAddMilstone]
  refine ⟨fun a ha => ?_, fun rows hrows r hr => ?_, fun r hr => ?_, fun hopen r hr ha => ?_⟩
  · rw [hlength]
    rcases List.mem_append.1 ha with ha | ha
    · have := hs.sheet a ha
      omega
    · have := List.mem_singleton.1 ha
      omega
  · have := hs.inFlight rows hrows r hr
    omega
  · have := hs.listed r hr
    omega
  · -- the new object is not one of the list, which has older ones
    rcases List.mem_append.1 ha with ha | ha
    · exact hs.apart hopen r hr ha
    · have hold := hs.listed r hr
      have hnew := List.mem_singleton.1 ha
      omega

theorem inv_replied (hs : Inv s) {i : ℕ} {rows : List Row} (hrows : s.inFlight[i]? = some rows)
    (r : Reply) : Inv (replied { s with inFlight := s.inFlight.eraseIdx i } rows r) := by
  have herase : ∀ rs ∈ s.inFlight.eraseIdx i, ∀ r ∈ rs, r.addr < s.objects.length :=
    fun rs hrs => hs.inFlight rs (List.mem_of_mem_eraseIdx hrs)
  cases r with
  | success =>
    refine ⟨hs.sheet, herase, fun r hr => ?_, fun hopen => by cases hopen⟩
    rcases List.mem_append.1 hr with hr | hr
    · exact hs.listed r hr
    · exact hs.inFlight rows (List.mem_of_getElem? hrows) r hr
  | error => exact ⟨hs.sheet, herase, hs.listed, fun hopen => by cases hopen⟩
  | failure => exact ⟨hs.sheet, herase, hs.listed, hs.apart⟩

theorem inv_step {e : Event} (hs : Inv s) (h : step toString36 s e = some t) : Inv t := by
  cases e with
  | openMileStone =>
    cases h
    exact ⟨by simp, hs.inFlight, hs.listed, by simp⟩
  | close =>
    cases h
    exact ⟨hs.sheet, hs.inFlight, hs.listed, fun hopen => by cases hopen⟩
  | handelAddMilstone =>
    obtain ⟨-, ⟨⟩⟩ := Option.ite_none_right_eq_some.1 h
    exact inv_handelAddMilstone hs
  | removeMileStone index =>
    obtain ⟨-, ⟨⟩⟩ := Option.ite_none_right_eq_some.1 h
    refine ⟨fun a ha => hs.sheet a (List.mem_of_mem_eraseIdx ha), hs.inFlight, hs.listed, ?_⟩
    exact fun hopen r hr ha => hs.apart hopen r hr (List.mem_of_mem_eraseIdx ha)
  | change txt index input =>
    obtain ⟨-, h⟩ := Option.ite_none_right_eq_some.1 h
    obtain ⟨addr, -, rfl⟩ := Option.map_eq_some_iff.1 h
    refine ⟨?_, ?_, ?_, hs.apart⟩
    · simpa using hs.sheet
    · simpa using hs.inFlight
    · simpa using hs.listed
  | handelAddNewMileStone draws =>
    obtain ⟨-, ⟨⟩⟩ := Option.ite_none_right_eq_some.1 h
    refine ⟨hs.sheet, fun rows hrows r hr => ?_, hs.listed, hs.apart⟩
    rcases List.mem_append.1 hrows with hrows | hrows
    · exact hs.inFlight rows hrows r hr
    · obtain rfl := List.mem_singleton.1 hrows
      exact hs.sheet _ (addr_mem_of_request hr)
  | reply i r =>
    obtain ⟨rows, hrows, rfl⟩ := Option.map_eq_some_iff.1 h
    exact inv_replied hs hrows r
  | refresh =>
    cases h
    exact ⟨hs.sheet, hs.inFlight, by simp, by simp⟩

end Inv

/-! ## What is stored -/

/-- Are the milestones now what was sent of them? -/
def State.Same (s : State) (rows : List Row) : Prop := ∀ r ∈ rows, s.object r.addr = r.sent

instance (s : State) (rows : List Row) : Decidable (s.Same rows) := by
  unfold State.Same
  infer_instance

/-- The property: every milestone that was pushed is what the server has stored. -/
def Shown (s : State) : Prop := s.Same s.mileStoneData

instance (s : State) : Decidable (Shown s) := inferInstanceAs (Decidable (s.Same _))

/-- What a step must meet: a request is confirmed while its milestones are still what they
were when it was sent. -/
def StepOk (s : State) : Event → Prop
  | .reply i .success => ∀ rows ∈ s.inFlight[i]?, s.Same rows
  | _ => True

instance (s : State) (e : Event) : Decidable (StepOk s e) := by
  unfold StepOk
  split <;> infer_instance

section Shown

variable {toString36} {s t : State}

/-- What is typed into the sheet is not in the list. -/
theorem shown_change (hs : Inv s) (hshown : Shown s) (hopen : s.sheet = true) {addr : ℕ}
    (haddr : addr ∈ s.addNewMilstone) (f : Milestone → Milestone) :
    Shown { s with objects := s.objects.modify addr f } := by
  intro r hr
  have hne : addr ≠ r.addr := fun heq => hs.apart hopen r hr (heq ▸ haddr)
  have hobject : (s.objects.modify addr f)[r.addr]? = s.objects[r.addr]? :=
    List.getElem?_modify_ne f s.objects hne
  show (s.objects.modify addr f)[r.addr]?.getD blank = r.sent
  rw [hobject]
  exact hshown r hr

/-- A new object leaves those of the list alone. -/
theorem shown_handelAddMilstone (hs : Inv s) (hshown : Shown s) :
    Shown (handelAddMilstone s) := by
  intro r hr
  show (s.objects ++ [blank])[r.addr]?.getD blank = r.sent
  rw [List.getElem?_append_left (hs.listed r hr)]
  exact hshown r hr

theorem stepOk_iff {e : Event} (hs : Inv s) (hshown : Shown s)
    (h : step toString36 s e = some t) : StepOk s e ↔ Shown t := by
  cases e with
  | openMileStone =>
    cases h
    exact iff_of_true trivial hshown
  | close =>
    cases h
    exact iff_of_true trivial hshown
  | handelAddMilstone =>
    obtain ⟨-, ⟨⟩⟩ := Option.ite_none_right_eq_some.1 h
    exact iff_of_true trivial (shown_handelAddMilstone hs hshown)
  | removeMileStone index =>
    obtain ⟨-, ⟨⟩⟩ := Option.ite_none_right_eq_some.1 h
    exact iff_of_true trivial hshown
  | change txt index input =>
    obtain ⟨hopen, h⟩ := Option.ite_none_right_eq_some.1 h
    obtain ⟨addr, haddr, rfl⟩ := Option.map_eq_some_iff.1 h
    have hmem : addr ∈ s.addNewMilstone := List.mem_of_getElem? haddr
    exact iff_of_true trivial (shown_change hs hshown hopen hmem _)
  | handelAddNewMileStone draws =>
    obtain ⟨-, ⟨⟩⟩ := Option.ite_none_right_eq_some.1 h
    exact iff_of_true trivial hshown
  | reply i r =>
    obtain ⟨rows, hrows, rfl⟩ := Option.map_eq_some_iff.1 h
    cases r with
    | success =>
      have hboth : Shown (replied { s with inFlight := s.inFlight.eraseIdx i } rows .success) ↔
          s.Same s.mileStoneData ∧ s.Same rows := List.forall_mem_append
      have hlisted : s.Same s.mileStoneData := hshown
      rw [hboth, StepOk, hrows]
      simp [hlisted]
    | error => exact iff_of_true trivial hshown
    | failure => exact iff_of_true trivial hshown
  | refresh =>
    cases h
    exact iff_of_true trivial (by simp [Shown, State.Same])

end Shown

/-- **What the list shows.**  Throughout a run every milestone that was pushed to the list is
what the server has stored of it, exactly when each request is confirmed while its milestones
are still what they were when it was sent. -/
theorem shown_iff {es : List Event} {s : State} (h : (machine toString36).run es = some s) :
    (machine toString36).Meets StepOk es ↔
      ∀ fs, fs <+: es → ∀ t, (machine toString36).run fs = some t → Shown t := by
  refine (machine toString36).meets_iff_of_invariant (I := fun _ => Shown) (J := Inv)
    (fun _ hr => by cases hr) ?_ (fun _ _ _ hs _ => inv_step hs)
    (fun _ _ _ _ _ hs hshown => stepOk_iff hs hshown) h
  exact ⟨by simp [machine], by simp [machine], by simp [machine], by simp [machine]⟩

/-! ## One milestone -/

/-- A drawing of the same number, and its text. -/
def third : ℕ → Draw := fun _ => ⟨1 / 3, by norm_num⟩

def thirdText : Draw → String := fun _ => "0.c"

/-- A milestone is written and sent. -/
def written : List Event :=
  [.openMileStone, .handelAddMilstone, .change "20" 0 .price, .handelAddNewMileStone third]

theorem shown_iff_sample :
    ∃ s, (machine thirdText).run (written ++ [.reply 0 .success, .openMileStone,
        .handelAddMilstone, .change "30" 0 .price]) = some s ∧ Shown s := by
  refine ⟨_, rfl, ?_⟩
  have hok : (machine thirdText).Meets StepOk (written ++ [.reply 0 .success, .openMileStone,
      .handelAddMilstone, .change "30" 0 .price]) := by decide
  exact (shown_iff thirdText rfl).1 hok _ List.prefix_rfl _ rfl

/-- The price is changed before the server confirms. -/
example : ∃ s, (machine thirdText).run
      (written ++ [.change "30" 0 .price, .reply 0 .success]) = some s ∧ ¬ Shown s :=
  ⟨_, rfl, by decide⟩

end NewMilestones
