import Mathlib
import Taskbot.Async.Machine

/-!
# The activity of a project

The screen `EmpProjectActivity`: the buyer follows the freelancers hired for a
project, one selected at a time, and pays for or approves their milestones.

* `Proposal`, `Answer`, `Lists` — a hired proposal as the project lists it, what
  the server answers about it, and the two lists of milestones made of either.
* `Hooks`, `State` — the hooks of the screen.  The lists are arrays that handlers
  empty and fill **in place**, so that a change is drawn only when some hook
  changes as well: `drawn` is what they held when the screen was last drawn.
* `getUpdatedAmounts`, `effect` — the request `activity-amounts`, and the effect of
  a selection or of a focus.
* `updateMileStoneStatus`, `openWallet`, `hireAndPay`, `completeProjectContract` —
  the handlers that send a proposal and one of its milestones.
-/

namespace ProjectActivity

/-! ## Proposals and answers -/

/-- The states of a milestone the buttons tell apart; `empty` is `''`. -/
inductive MilestoneStatus where
  | empty
  | hired
  | requested
  | decline
  | completed
  deriving DecidableEq

/-- A milestone. -/
structure Milestone where
  title : String
  price : String
  status : MilestoneStatus
  deriving DecidableEq

/-- A row of `mileStoneData`. -/
structure Row where
  key : String
  value : Milestone
  deriving DecidableEq

/-- A proposal of the project; a field the record may lack is an `Option`. -/
structure Proposal where
  proposal_id : ℕ
  /-- Is `proposal_type == 'milestone'`? -/
  byMilestones : Bool
  /-- Is `proposal_status == 'publish'`, and is it `'disputed'`? -/
  publish : Bool
  disputed : Bool
  completed_mil_array : Option (List Milestone)
  milestone : Option (List (String × Milestone))
  /-- Has the record the field `complete_option`? -/
  complete_option : Bool
  deriving DecidableEq

/-- An answer to `activity-amounts`. -/
structure Answer where
  hired_balance : String
  earned_balance : String
  remaning_balance : String
  completed_mil_array : Option (List Milestone)
  mileastone_array : Option (List (String × Milestone))
  deriving DecidableEq

/-- The arrays `mileStoneData` and `completedMileStone`. -/
structure Lists where
  mileStoneData : List Row
  completedMileStone : List Milestone
  deriving DecidableEq

/-- The rows of an object of milestones, in the order of `Object.entries`. -/
def entries (milestone : Option (List (String × Milestone))) : List Row :=
  (milestone.getD []).map fun e => ⟨e.1, e.2⟩

/-- The lists the effect makes of a record. -/
def Proposal.lists (p : Proposal) : Lists := ⟨entries p.milestone, p.completed_mil_array.getD []⟩

/-- The lists a reply is made into. -/
def Answer.lists (a : Answer) : Lists :=
  ⟨entries a.mileastone_array, a.completed_mil_array.getD []⟩

/-- What the screen is opened with. -/
structure Opened where
  project_id : ℕ
  proposals : List Proposal
  /-- The proposal the screen was opened for (`indexItem`). -/
  indexItem : Proposal
  /-- Is the signed-in user one of the `'buyers'`? -/
  buyer : Bool

namespace Opened

variable (t : Opened)

/-- `newProposalData`: the freelancers listed, for a buyer. -/
def newProposalData : List Proposal :=
  if t.buyer then t.proposals.filter fun p => !p.publish else []

/-- The records the screen can get hold of. -/
def records : List Proposal := t.indexItem :: t.proposals

theorem mem_records {p : Proposal} (h : p ∈ t.newProposalData) : p ∈ t.records := by
  rw [newProposalData] at h
  split at h
  · exact List.mem_cons_of_mem _ (List.mem_of_mem_filter h)
  · exact absurd h List.not_mem_nil

end Opened

/-! ## Requests -/

/-- What a handler remembers of the drawing of the screen it was made in. -/
structure Closure where
  proposal_id : ℕ
  refreshList : Bool
  deriving DecidableEq

/-- The requests of the screen.  The ids and the token of the user, the same in
every one of them, are left out. -/
inductive Request where
  | activityAmounts (c : Closure)
  /-- `update-milestone-status`. -/
  | updateMilestone (c : Closure) (key : String) (status : MilestoneStatus)
      (decline_reason : Option String)
  | orderProject (c : Closure) (project_id : ℕ) (wallet : Bool) (key : String)
  /-- `complete-project`, with or without a review. -/
  | completeProject (proposal_id : ℕ) (rating : Bool)
  deriving DecidableEq

/-- Is this a request for the amounts? -/
def Request.isAmounts : Request → Bool
  | activityAmounts _ => true
  | _ => false

/-- What comes back for a request. -/
inductive Reply where
  /-- The answer to `activity-amounts`. -/
  | amounts (a : Answer)
  | success
  | error
  /-- Any other `type`. -/
  | other
  /-- The `catch` branch. -/
  | failure
  deriving DecidableEq

/-! ## The hooks of the screen -/

/-- The hooks the handlers use. -/
structure Hooks where
  selectedItem : Proposal
  escrowAmmount : String
  totalAmount : String
  remaining : String
  selectedIndex : Option ℕ
  selectedMilestoneIndex : Option ℕ
  loader : Bool
  loading : Bool
  refreshList : Bool
  /-- Is the menu open that offers to complete the contract? -/
  visible : Bool
  walletDialoge : Bool
  escrowKey : String
  declineItem : Option Row
  declineIndex : Option ℕ
  declineResone : String
  completeContract : Bool
  isFocused : Bool
  deriving DecidableEq

/-- The state of the screen. -/
structure State where
  hooks : Hooks
  /-- The arrays, as the handlers left them. -/
  lists : Lists
  /-- The arrays, as they were when the screen was last drawn. -/
  drawn : Lists
  /-- Is the sheet `RBSheetDeclineMilestone` open, and `RBSheetOrderStatus`? -/
  declineSheet : Bool
  orderSheet : Bool
  /-- The requests sent and not yet answered. -/
  inFlight : List Request
  /-- The answers about the amounts so far, each with the proposal asked about. -/
  answers : List (ℕ × Answer)
  /-- The pairs of a proposal and a milestone key sent so far. -/
  sent : List (ℕ × String)

namespace State

/-- Setters.  When a hook gets a new value the screen is drawn again. -/
def set (s : State) (f : Hooks → Hooks) : State :=
  if f s.hooks = s.hooks then s else { s with hooks := f s.hooks, drawn := s.lists }

/-- What a handler made now remembers. -/
def closure (s : State) : Closure := ⟨s.hooks.selectedItem.proposal_id, s.hooks.refreshList⟩

/-- A request is sent. -/
def send (s : State) (q : Request) : State := { s with inFlight := s.inFlight ++ [q] }

/-- A request about a milestone is sent: the proposal and the key are noted. -/
def sendFor (s : State) (q : Request) (o : ℕ × String) : State :=
  { s with inFlight := s.inFlight ++ [q], sent := s.sent ++ [o] }

/-- Is a request for the amounts in flight? -/
def waiting (s : State) : Bool := s.inFlight.any Request.isAmounts

/-- Is something open that covers the screen? -/
def covered (s : State) : Bool :=
  s.hooks.visible || s.hooks.walletDialoge || s.declineSheet || s.orderSheet

/-! ### What the setters leave alone -/

section Set

variable (s : State) (f : Hooks → Hooks)

@[simp] theorem set_hooks : (s.set f).hooks = f s.hooks := by
  unfold set
  split
  · rename_i h
    exact h.symm
  · rfl

@[simp] theorem set_lists : (s.set f).lists = s.lists := by
  unfold set
  split <;> rfl

@[simp] theorem set_declineSheet : (s.set f).declineSheet = s.declineSheet := by
  unfold set
  split <;> rfl

@[simp] theorem set_inFlight : (s.set f).inFlight = s.inFlight := by
  unfold set
  split <;> rfl

@[simp] theorem set_answers : (s.set f).answers = s.answers := by
  unfold set
  split <;> rfl

@[simp] theorem set_sent : (s.set f).sent = s.sent := by
  unfold set
  split <;> rfl

/-- The screen is left as it was, or it is drawn again. -/
theorem set_drawn : (s.set f).drawn = s.drawn ∨ (s.set f).drawn = s.lists := by
  unfold set
  split
  · exact Or.inl rfl
  · exact Or.inr rfl

theorem set_drawn_of_ne (h : f s.hooks ≠ s.hooks) : (s.set f).drawn = s.lists := by
  rw [set, if_neg h]

end Set

end State

/-- What can happen to the screen. -/
inductive Event where
  /-- The screen loses or gets the focus. -/
  | blur
  | focus
  /-- Something else makes the screen draw itself again. -/
  | redraw
  /-- A tap on one of the freelancers listed. -/
  | setSelectedItem (i : ℕ)
  /-- A tap on "approve" of a row drawn. -/
  | approve (row : ℕ)
  /-- A tap on "mark completed" of a row drawn. -/
  | markCompleted (row : ℕ)
  /-- A tap on "decline" of a row drawn, and the sheet that opens. -/
  | opneDeclinedRbSheet (row : ℕ)
  | closeDeclineSheet
  | setDeclineResone (body : String)
  | submitDecline
  /-- A tap on "escrow milestone" of a row drawn, and the dialog that opens. -/
  | openWallet (row : ℕ)
  | closeWallet
  | hireAndPay (val : Bool)
  /-- The menu, and the sheet that completes the contract. -/
  | openMenu
  | closeMenu
  | openCompeteContractSheet
  | closeOrderSheet
  | completeProjectContract (val : Bool)
  /-- The request at place `i` of those in flight is answered. -/
  | reply (i : ℕ) (r : Reply)
  deriving DecidableEq

/-- The taps on a button of a milestone. -/
def Event.isRowTap : Event → Bool
  | .approve _ | .markCompleted _ | .opneDeclinedRbSheet _ | .openWallet _ => true
  | _ => false

/-! ## The handlers -/

/-- `getUpdatedAmounts()`, of the drawing with the given closure. -/
def getUpdatedAmounts (s : State) (c : Closure) : State := s.send (.activityAmounts c)

/-- The handlers of the reply to `activity-amounts`. -/
def amountsReplied (s : State) (c : Closure) (a : Answer) : State :=
  let s := s.set fun h =>
    { h with
      escrowAmmount := a.hired_balance
      totalAmount := a.earned_balance
      remaining := a.remaning_balance }
  let s := { s with lists := a.lists, answers := s.answers ++ [(c.proposal_id, a)] }
  s.set fun h => { h with refreshList := !c.refreshList }

/-- The effect on `isFocused` and `selectedItem`: `complete_option` can only set
the flag. -/
def effect (s : State) : State :=
  let s := getUpdatedAmounts s s.closure
  let s := { s with lists := s.hooks.selectedItem.lists }
  if s.hooks.selectedItem.complete_option then
    s.set fun h => { h with completeContract := true }
  else s

/-- `setSelectedItem([item])`: a new array, so that the screen is drawn again and
the effect runs. -/
def setSelectedItem (s : State) (item : Proposal) : State :=
  effect { s with hooks := { s.hooks with selectedItem := item }, drawn := s.lists }

/-- `updateMileStoneStatus(item, index, type, description)`. -/
def updateMileStoneStatus (s : State) (item : Row) (index : Option ℕ) (type : MilestoneStatus)
    (description : Option String) : State :=
  (s.set fun h => { h with selectedIndex := index, loading := true }).sendFor
    (.updateMilestone s.closure item.key type description)
    (s.hooks.selectedItem.proposal_id, item.key)

/-- The handlers of the reply to `update-milestone-status`. -/
def updateReplied (s : State) (c : Closure) (type : MilestoneStatus) : Reply → State
  | .success =>
    let s := s.set fun h => { h with loading := false }
    if type = .decline then
      let s := { s with declineSheet := false }
      getUpdatedAmounts (s.set fun h => { h with refreshList := !c.refreshList }) c
    else getUpdatedAmounts s c
  | .error => s.set fun h => { h with loading := false }
  | .failure => s.set fun h => { h with loader := false }
  | .other | .amounts _ => s

/-- `openWallet(item, index)`. -/
def openWallet (s : State) (item : Row) (index : ℕ) : State :=
  s.set fun h =>
    { h with selectedMilestoneIndex := some index, escrowKey := item.key, walletDialoge := true }

/-- `opneDeclinedRbSheet(item, index)`. -/
def opneDeclinedRbSheet (s : State) (item : Row) (index : ℕ) : State :=
  ({ s with declineSheet := true }).set fun h =>
    { h with declineItem := some item, declineIndex := some index }

/-- `hireAndPay(val)`. -/
def hireAndPay (t : Opened) (s : State) (val : Bool) : State :=
  (s.set fun h => { h with loader := true, walletDialoge := false }).sendFor
    (.orderProject s.closure t.project_id val s.hooks.escrowKey)
    (s.hooks.selectedItem.proposal_id, s.hooks.escrowKey)

/-- The handlers of the reply to `order-project`. -/
def orderReplied (s : State) (c : Closure) (val : Bool) : Reply → State
  | .success =>
    let s := s.set fun h => { h with loader := false, walletDialoge := false }
    if val then getUpdatedAmounts s c else s
  | .error | .failure => s.set fun h => { h with loader := false }
  | .other | .amounts _ => s

/-- `completeProjectContract(val)`. -/
def completeProjectContract (s : State) (val : Bool) : State :=
  (({ s with orderSheet := false }).set fun h => { h with loader := true }).send
    (.completeProject s.hooks.selectedItem.proposal_id val)

/-- The handlers of the reply to `complete-project`.  A success only empties the
form of the review and changes the badge of the proposal. -/
def completeReplied (s : State) : Reply → State
  | .failure => s.set fun h => { h with loader := false }
  | _ => s

/-- The handlers of the reply to a request; the answer to `activity-amounts` is
read whatever its `type`. -/
def replied (s : State) : Request → Reply → Option State
  | .activityAmounts c, .amounts a => some (amountsReplied s c a)
  | .activityAmounts _, .failure => some (s.set fun h => { h with loader := false })
  | .activityAmounts _, _ | _, .amounts _ => none
  | .updateMilestone c _ type _, r => some (updateReplied s c type r)
  | .orderProject c _ val _, r => some (orderReplied s c val r)
  | .completeProject _ _, r => some (completeReplied s r)

/-- A tap on the screen itself. -/
def tap (s : State) (u : Option State) : Option State :=
  if s.hooks.isFocused ∧ s.covered = false then u else none

/-- A tap on a button of a milestone drawn, there for the given user and states of
the milestone while the proposal is not disputed. -/
def tapRow (t : Opened) (s : State) (buyer : Bool) (status : List MilestoneStatus) (row : ℕ)
    (f : Row → State) : Option State :=
  tap s (s.drawn.mileStoneData[row]?.bind fun item =>
    if t.buyer = buyer ∧ item.value.status ∈ status ∧ s.hooks.selectedItem.byMilestones = true ∧
        s.hooks.selectedItem.disputed = false then
      some (f item)
    else none)

/-- One event. -/
def step (t : Opened) (s : State) : Event → Option State
  | .blur =>
    if s.hooks.isFocused then some (s.set fun h => { h with isFocused := false }) else none
  | .focus =>
    if s.hooks.isFocused then none else some (effect (s.set fun h => { h with isFocused := true }))
  | .redraw => some { s with drawn := s.lists }
  | .setSelectedItem i => tap s (t.newProposalData[i]?.map (setSelectedItem s))
  | .approve row =>
    tapRow t s true [.requested] row fun item =>
      updateMileStoneStatus s item (some row) .completed none
  | .markCompleted row =>
    tapRow t s false [.hired, .decline] row fun item =>
      updateMileStoneStatus s item (some row) .requested none
  | .opneDeclinedRbSheet row =>
    tapRow t s true [.requested] row fun item => opneDeclinedRbSheet s item row
  | .closeDeclineSheet => if s.declineSheet then some { s with declineSheet := false } else none
  | .setDeclineResone body =>
    if s.declineSheet then some (s.set fun h => { h with declineResone := body }) else none
  | .submitDecline =>
    if s.declineSheet then
      s.hooks.declineItem.map fun item =>
        updateMileStoneStatus s item s.hooks.declineIndex .decline (some s.hooks.declineResone)
    else none
  | .openWallet row => tapRow t s true [.empty] row fun item => openWallet s item row
  | .closeWallet =>
    if s.hooks.walletDialoge then some (s.set fun h => { h with walletDialoge := false }) else none
  | .hireAndPay val => if s.hooks.walletDialoge then some (hireAndPay t s val) else none
  | .openMenu => tap s (some (s.set fun h => { h with visible := true }))
  | .closeMenu =>
    if s.hooks.visible then some (s.set fun h => { h with visible := false }) else none
  | .openCompeteContractSheet =>
    if s.hooks.visible ∧ s.hooks.completeContract ∧ t.buyer then
      some (({ s with orderSheet := true }).set fun h => { h with visible := false })
    else none
  | .closeOrderSheet => if s.orderSheet then some { s with orderSheet := false } else none
  | .completeProjectContract val =>
    if s.orderSheet then some (completeProjectContract s val) else none
  | .reply i r =>
    s.inFlight[i]?.bind (fun q => replied { s with inFlight := s.inFlight.eraseIdx i } q r)

/-- The screen just opened: drawn once, and its effect run. -/
def initial (t : Opened) : State :=
  effect
    { hooks :=
        { selectedItem := t.indexItem
          escrowAmmount := "0"
          totalAmount := "0"
          remaining := "0"
          selectedIndex := none
          selectedMilestoneIndex := none
          loader := false
          loading := false
          refreshList := false
          visible := false
          walletDialoge := false
          escrowKey := ""
          declineItem := none
          declineIndex := none
          declineResone := ""
          completeContract := false
          isFocused := true }
      lists := ⟨[], []⟩
      drawn := ⟨[], []⟩
      declineSheet := false
      orderSheet := false
      inFlight := []
      answers := []
      sent := [] }

/-- The screen opened for a project. -/
def machine (t : Opened) : Async.Machine State Event := ⟨initial t, step t⟩

end ProjectActivity
