import Mathlib
import Taskbot.Async.Machine
import Taskbot.Js.Decimal
import Taskbot.Js.Toggle

/-!
# The checkout of a task

The screen `OrderDetail`: the buyer picks one of the three plans of a task, ticks
sub-tasks to go with it, and pays.

* `Task` — what the screen is opened with.
* `State`, `Event`, `step` — the hooks of the screen, what can happen to it, and
  the handlers.
* `subTotal` — the sub-total drawn, kept up to date by `calculateTotal` alone.
* `proceedToCheckout`, `addWallet` — the two requests that spend or add money.
-/

namespace OrderDetail

open Js

/-! ## The task and the requests -/

/-- One of the plans of a task. -/
structure Plan where
  key : String
  reg_price : Decimal
  deriving DecidableEq

/-- A sub-task the buyer may add to the plan. -/
structure SubTask where
  ID : ℕ
  reg_price : Decimal
  deriving DecidableEq

/-- What the screen is opened with (`route.params.data`), and what it reads of
the signed-in user. -/
structure Task where
  task_id : ℕ
  attributes : List Plan
  /-- Every task has its three plans. -/
  attributes_length : attributes.length = 3
  sub_tasks : List SubTask
  /-- `userDetail.profile_id` and `token`. -/
  profile_id : ℕ
  token : String
  /-- Is `verify == '1'`? -/
  verified : Bool

namespace Task

/-- `data.attributes[k]`. -/
def plan (t : Task) (k : Fin 3) : Plan := t.attributes.get (k.cast t.attributes_length.symm)

/-- A sub-task of the list drawn.  The screen compares sub-tasks as objects, so
two of them are told apart by where they stand. -/
abbrev Service (t : Task) : Type := Fin t.sub_tasks.length

/-- The sub-task drawn at a place. -/
def subTask (t : Task) (i : t.Service) : SubTask := t.sub_tasks.get i

end Task

/-- The requests the screen sends. -/
inductive Request where
  /-- `order-tasks?type=single`. -/
  | orderTasks (post_id : ℕ) (product_task wallet : String) (id : ℕ) (subtasks : List ℕ)
      (token : String)
  /-- `add-wallet`. -/
  | addWallet (post_id : ℕ) (amount token : String)
  deriving DecidableEq

/-- Is this an order, and not a top-up of the wallet? -/
def Request.isOrder : Request → Bool
  | orderTasks .. => true
  | addWallet .. => false

/-- What comes back for a request. -/
inductive Reply where
  /-- `type == 'success'`; was the order paid from the wallet, so that the reply
  has an `order_id`? -/
  | success (hasOrderId : Bool)
  /-- `type == 'error'`. -/
  | error
  /-- Any other `type`. -/
  | other
  /-- The `catch` branch: no reply, or not one that can be read. -/
  | failure
  deriving DecidableEq

/-! ## The hooks of the screen -/

/-- `totalPrice` holds the text of a price until the first sum is made. -/
inductive Total where
  | text (price : Decimal)
  | number (n : Number)
  deriving DecidableEq

/-- `parseInt(totalPrice)`. -/
def Total.parseInt : Total → Number
  | text price => Js.parseInt price.text
  | number n => n

/-- The state of the screen. -/
structure State (t : Task) where
  packageIndex : Fin 3
  servicesIndex : Option t.Service
  amount : String
  selectedServicesArray : List t.Service
  disable : Bool
  proceedLoader : Bool
  addingData : Bool
  /-- The hook `show`: is the list of plans unfolded? -/
  showPlans : Bool
  totalPrice : Total
  /-- Is the sheet `RBSheetAddCredit` open? -/
  sheetOpen : Bool
  /-- The requests sent and not yet answered. -/
  inFlight : List Request

/-- What can happen to the screen. -/
inductive Event (t : Task) where
  /-- A tap on the box of a sub-task. -/
  | addInBudget (i : t.Service)
  /-- A tap on the arrow that unfolds the plans. -/
  | toggleShow
  /-- A tap on one of the unfolded plans. -/
  | setPackageIndex (k : Fin 3)
  /-- A tap on "use wallet credit". -/
  | toggleWallet
  /-- A tap on the checkout button. -/
  | checkout
  /-- A tap on "add funds", and one on the cross of the sheet. -/
  | openSheet
  | closeSheet
  /-- A change of the amount typed on the sheet. -/
  | setAmount (val : String)
  /-- A tap on the button of the sheet. -/
  | addFund
  /-- The request at place `i` of those in flight is answered. -/
  | reply (i : ℕ) (r : Reply)
  deriving DecidableEq

/-! ## The handlers -/

variable {t : Task}

/-- `useState` of every hook: the total starts as the price of the first plan. -/
def initial (t : Task) : State t where
  packageIndex := 0
  servicesIndex := none
  amount := ""
  selectedServicesArray := []
  disable := false
  proceedLoader := false
  addingData := false
  showPlans := false
  totalPrice := .text (t.plan 0).reg_price
  sheetOpen := false
  inFlight := []

/-- `calculateTotal('add', value)`. -/
def calculateTotalAdd (total : Total) (value : Decimal) : Total :=
  .number (total.parseInt.add (parseInt value.text))

/-- `calculateTotal('subtract', value)`. -/
def calculateTotalSubtract (total : Total) (value : Decimal) : Total :=
  .number (total.parseInt.sub (parseInt value.text))

/-- `AddInBudget(item, index)`. -/
def addInBudget (s : State t) (i : t.Service) : State t :=
  if i ∈ s.selectedServicesArray then
    { s with
      servicesIndex := some i
      totalPrice := calculateTotalSubtract s.totalPrice (t.subTask i).reg_price
      selectedServicesArray := toggle s.selectedServicesArray i
      addingData := false }
  else
    { s with
      servicesIndex := some i
      totalPrice := calculateTotalAdd s.totalPrice (t.subTask i).reg_price
      selectedServicesArray := toggle s.selectedServicesArray i
      addingData := true }

/-- The request `proceedToCheckout` sends in a state. -/
def orderRequest (s : State t) : Request :=
  .orderTasks t.profile_id (t.plan s.packageIndex).key (if s.disable then "on" else "") t.task_id
    (s.selectedServicesArray.map fun i => (t.subTask i).ID) t.token

/-- `proceedToCheckout()`. -/
def proceedToCheckout (s : State t) : State t :=
  { s with proceedLoader := true, inFlight := s.inFlight ++ [orderRequest s] }

/-- `addWallet()`: with no amount it only shows an alert. -/
def addWallet (s : State t) : State t :=
  if s.amount ≠ "" then
    { s with
      proceedLoader := true
      inFlight := s.inFlight ++ [.addWallet t.profile_id s.amount t.token] }
  else s

/-- The handlers of the reply to `order-tasks`.  Wherever they navigate to, the
screen stays mounted below. -/
def orderReplied (s : State t) : Reply → State t
  | .success _ | .error | .failure => { s with proceedLoader := false }
  | .other => s

/-- The handlers of the reply to `add-wallet`; on an error only an alert is
shown. -/
def addWalletReplied (s : State t) : Reply → State t
  | .success _ => { s with proceedLoader := false, amount := "", sheetOpen := false }
  | .failure => { s with proceedLoader := false }
  | .error | .other => s

/-- One event.  Both money buttons only scroll to the top for a user who is not
verified; the sheet's buttons are there while the sheet is. -/
def step (s : State t) : Event t → Option (State t)
  | .addInBudget i => some (addInBudget s i)
  | .toggleShow => some { s with showPlans := !s.showPlans }
  | .setPackageIndex k =>
    if s.showPlans then some { s with packageIndex := k, showPlans := false } else none
  | .toggleWallet => some { s with disable := !s.disable }
  | .checkout => some (if t.verified then proceedToCheckout s else s)
  | .openSheet => some (if t.verified then { s with sheetOpen := true } else s)
  | .closeSheet => if s.sheetOpen then some { s with sheetOpen := false } else none
  | .setAmount val => if s.sheetOpen then some { s with amount := val } else none
  | .addFund => if s.sheetOpen then some (addWallet s) else none
  | .reply i r =>
    match s.inFlight[i]? with
    | none => none
    | some q =>
      let s := { s with inFlight := s.inFlight.eraseIdx i }
      some (if q.isOrder then orderReplied s r else addWalletReplied s r)

/-- The screen opened with a task. -/
def machine (t : Task) : Async.Machine (State t) (Event t) := ⟨initial t, step⟩

/-! ## What is drawn -/

/-- The sub-total drawn, `parseInt(totalPrice).toFixed(2)`: the number itself,
with two zeros after the point. -/
def subTotal (s : State t) : Number := s.totalPrice.parseInt

/-! ## A task with three plans -/

/-- A task with plans for `"10.00"`, `"10"` and `"30"`, and sub-tasks for `"5"` and
`"2.50"`. -/
def sample : Task where
  task_id := 7
  attributes :=
    [⟨"basic", ⟨false, [1, 0], by decide, [0, 0]⟩⟩, ⟨"premium", ⟨false, [1, 0], by decide, []⟩⟩,
      ⟨"pro", ⟨false, [3, 0], by decide, []⟩⟩]
  attributes_length := rfl
  sub_tasks := [⟨21, ⟨false, [5], by decide, []⟩⟩, ⟨22, ⟨false, [2], by decide, [5, 0]⟩⟩]
  profile_id := 3
  token := "token"
  verified := true

end OrderDetail
