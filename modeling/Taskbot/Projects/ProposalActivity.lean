import Mathlib
import Taskbot.Async.Machine

/-!
# Hiring a freelancer

The screen `ProposalActivity`: the buyer has opened one of the proposals made for
a project, and hires the freelancer by paying for a milestone or for the whole.

* `Project`, `Proposal`, `Opened` — what the screen is opened with.
* `mileStoneData` — the list of milestones it draws, built from the first proposal
  of the project.
* `hireButton` — the mixed expression that draws the hire button.
* `hireAndPay`, `declineProposal` — the requests of the wallet dialog and of the
  decline sheet.
* `history` — the orders sent and those paid from the wallet, in order; the screen
  has no such field, it is kept here so that runs can be talked about.
-/

namespace ProposalActivity

/-! ## Projects and proposals -/

/-- The types of a proposal the screen tells apart; `empty` is `''`. -/
inductive ProposalType where
  | fixed
  | milestone
  | empty
  deriving DecidableEq

/-- The fields of a milestone. -/
structure Milestone where
  detail : String
  price : String
  price_format : String
  status : String
  title : String
  deriving DecidableEq

/-- A proposal of a freelancer. -/
structure Proposal where
  proposal_id : ℕ
  proposal_type : ProposalType
  /-- The entries of the object `milestone`, when there is one. -/
  milestone : Option (List (String × Milestone))
  deriving DecidableEq

/-- A project and the proposals made for it (`mainItem`). -/
structure Project where
  project_id : ℕ
  /-- Is `project_meta.is_milestone == 'yes'`? -/
  is_milestone : Bool
  proposals : List Proposal

/-- What the screen is opened with, and the signed-in user. -/
structure Opened where
  mainItem : Project
  sellerDetails : Proposal
  /-- The proposal was opened from the list of the project. -/
  listed : sellerDetails ∈ mainItem.proposals
  profile_id : ℕ
  user_id : ℕ
  token : String

/-- A row of `mileStoneData`. -/
structure MileStoneRow extends Milestone where
  key : String
  deriving DecidableEq

namespace Proposal

/-- The keys of the milestones of a proposal. -/
def keys (p : Proposal) : List String := (p.milestone.getD []).map Prod.fst

/-- `Object.entries(milestone)`, each value with its key. -/
def rows (p : Proposal) : List MileStoneRow :=
  (p.milestone.getD []).map fun e => { e.2 with key := e.1 }

theorem rows_keys (p : Proposal) : p.rows.map MileStoneRow.key = p.keys := by
  rw [rows, List.map_map]
  rfl

end Proposal

namespace Opened

variable (t : Opened)

/-- `mainItem.proposals[0]`. -/
def firstProposal : Proposal := t.mainItem.proposals.head (List.ne_nil_of_mem t.listed)

/-- `mileStoneData`. -/
def mileStoneData : List MileStoneRow := t.firstProposal.rows

/-- The milestones drawn, each with its button. -/
def drawnRows : List MileStoneRow := if t.mainItem.is_milestone then t.mileStoneData else []

end Opened

/-! ## A mixed expression -/

/-- A child of a component: a truth value draws nothing. -/
inductive Child where
  | bool (b : Bool)
  | formButton
  deriving DecidableEq

/-- `b || c`. -/
def Child.or (b : Bool) (c : Child) : Child := if b then .bool true else c

/-- `b && c`. -/
def Child.and (b : Bool) (c : Child) : Child := if b then c else .bool false

/-- `proposal_type == 'fixed' || proposal_type == '' && (<FormButton … />)`. -/
def hireButton (ty : ProposalType) : Child :=
  .or (ty = .fixed) (.and (ty = .empty) .formButton)

/-- The button is drawn for one type only. -/
theorem hireButton_eq_iff (ty : ProposalType) : hireButton ty = .formButton ↔ ty = .empty := by
  cases ty <;> decide

/-! ## Requests and hooks -/

/-- The requests that change something on the server. -/
inductive Request where
  /-- `order-project`; `wallet` is `true` or `''`. -/
  | orderProject (post_id project_id : ℕ) (wallet : Bool) (key : Option String)
      (proposal_id : ℕ) (token : String)
  /-- `decline-proposal`. -/
  | declineProposal (post_id user_id : ℕ) (detail : String) (proposal_id : ℕ) (token : String)
  deriving DecidableEq

/-- The order a request places: the proposal and the key. -/
def Request.order? : Request → Option (ℕ × Option String)
  | orderProject _ _ _ key proposal_id _ => some (proposal_id, key)
  | declineProposal .. => none

/-- What comes back for a request. -/
inductive Reply where
  | success
  | error
  /-- Any other `type`. -/
  | other
  /-- The `catch` branch. -/
  | failure
  deriving DecidableEq

/-- An entry of the history. -/
inductive Entry where
  /-- An order is sent. -/
  | sent (order : ℕ × Option String)
  /-- An order is answered with success, and was to be paid from the wallet. -/
  | paidByWallet (order : ℕ × Option String)
  deriving DecidableEq

/-- The state of the screen. -/
structure State where
  walletDialoge : Bool
  loader : Bool
  description : String
  selectedKey : Option String
  /-- Is the sheet `RBSheetDeclineProposal` open? -/
  sheetOpen : Bool
  /-- Has the screen gone back? -/
  gone : Bool
  /-- The requests sent and not yet answered. -/
  inFlight : List Request
  history : List Entry

/-- What can happen to the screen. -/
inductive Event where
  /-- A tap on the button of a milestone drawn. -/
  | payMilestone (row : ℕ)
  /-- A tap on the hire button. -/
  | hire
  /-- A tap on "continue with wallet" (`true`) or "without wallet" (`''`). -/
  | hireAndPay (val : Bool)
  /-- A tap on "cancel" or outside the dialog. -/
  | closeDialog
  | openSheet
  | closeSheet
  | setDescription (body : String)
  /-- A tap on the button of the sheet. -/
  | declineProposal
  /-- The request at place `i` of those in flight is answered. -/
  | reply (i : ℕ) (r : Reply)
  deriving DecidableEq

/-- The events that send a request: the buttons of the dialog and of the sheet. -/
def Event.sends : Event → Bool
  | .hireAndPay _ | .declineProposal => true
  | _ => false

/-! ## The handlers -/

variable (t : Opened)

/-- `useState` of every hook. -/
def initial : State where
  walletDialoge := false
  loader := false
  description := ""
  selectedKey := none
  sheetOpen := false
  gone := false
  inFlight := []
  history := []

/-- The request of `hireAndPay(val)`. -/
def orderRequest (s : State) (val : Bool) : Request :=
  .orderProject t.profile_id t.mainItem.project_id val s.selectedKey t.sellerDetails.proposal_id
    t.token

/-- `hireAndPay(val)`.  It does not close the dialog. -/
def hireAndPay (s : State) (val : Bool) : State :=
  { s with
    loader := true
    inFlight := s.inFlight ++ [orderRequest t s val]
    history := s.history ++ [.sent (t.sellerDetails.proposal_id, s.selectedKey)] }

/-- `declineProposal()`. -/
def declineProposal (s : State) : State :=
  { s with
    loader := true
    inFlight := s.inFlight ++
      [.declineProposal t.profile_id t.user_id s.description t.sellerDetails.proposal_id t.token] }

/-- The handlers of the reply to a request.  A success leaves `loader` as it is:
after a wallet payment there is only an alert, and otherwise the checkout opens
above the screen. -/
def replied (s : State) (q : Request) (r : Reply) : State :=
  match q, r with
  | .orderProject _ _ true key pid _, .success =>
    { s with history := s.history ++ [.paidByWallet (pid, key)] }
  | .orderProject _ _ false _ _ _, .success => s
  | .declineProposal .., .success => { s with description := "", gone := true }
  | _, .error | _, .failure => { s with loader := false }
  | _, .other => s

/-- A tap does something while the screen is there. -/
def tap (s : State) (u : Option State) : Option State := if s.gone then none else u

/-- One event.  The buttons of the dialog and of the sheet are there while these
are. -/
def step (s : State) : Event → Option State
  | .payMilestone row =>
    tap s (t.drawnRows[row]?.map fun item =>
      { s with selectedKey := some item.key, walletDialoge := true })
  | .hire =>
    tap s (if hireButton t.sellerDetails.proposal_type = .formButton then
      some { s with selectedKey := none, walletDialoge := true } else none)
  | .hireAndPay val => tap s (if s.walletDialoge then some (hireAndPay t s val) else none)
  | .closeDialog => tap s (if s.walletDialoge then some { s with walletDialoge := false } else none)
  | .openSheet => tap s (some { s with sheetOpen := true })
  | .closeSheet => tap s (if s.sheetOpen then some { s with sheetOpen := false } else none)
  | .setDescription body =>
    tap s (if s.sheetOpen then some { s with description := body } else none)
  | .declineProposal => tap s (if s.sheetOpen then some (declineProposal t s) else none)
  | .reply i r =>
    match s.inFlight[i]? with
    | none => none
    | some q => some (replied { s with inFlight := s.inFlight.eraseIdx i } q r)

/-- The screen opened with a proposal. -/
def machine : Async.Machine State Event := ⟨initial, step t⟩

/-! ## What a step can do -/

/-- What the events of the screen do: the cases of `step` that matter to the
orders, and `other` for the rest. -/
inductive Effect (s : State) : Event → State → Prop where
  | payMilestone {row : ℕ} {item : MileStoneRow} (h : t.drawnRows[row]? = some item) :
    Effect s (.payMilestone row) { s with selectedKey := some item.key, walletDialoge := true }
  | hire (h : t.sellerDetails.proposal_type = .empty) :
    Effect s .hire { s with selectedKey := none, walletDialoge := true }
  | hireAndPay {val : Bool} (h : s.walletDialoge = true) :
    Effect s (.hireAndPay val) (hireAndPay t s val)
  | declineProposal : Effect s .declineProposal (declineProposal t s)
  | reply {i : ℕ} {r : Reply} {q : Request} (h : s.inFlight[i]? = some q) :
    Effect s (.reply i r) (replied { s with inFlight := s.inFlight.eraseIdx i } q r)
  | other {e : Event} {u : State} (hsend : e.sends = false)
    (hkey : u.selectedKey = s.selectedKey) (hdialog : u.walletDialoge = true → s.walletDialoge = true)
    (hloader : u.loader = s.loader) (hflight : u.inFlight = s.inFlight)
    (hhistory : u.history = s.history) : Effect s e u

variable {t}

theorem tap_eq_some {s u : State} {v : Option State} (h : tap s v = some u) : v = some u := by
  rw [tap] at h
  split at h
  · cases h
  · exact h

/-- Every step is one of these. -/
theorem step_effect {s u : State} {e : Event} (h : step t s e = some u) : Effect t s e u := by
  cases e with
  | payMilestone row =>
    obtain ⟨item, hitem, rfl⟩ := Option.map_eq_some_iff.1 (tap_eq_some h)
    exact .payMilestone hitem
  | hire =>
    have := tap_eq_some h
    rw [Option.ite_none_right_eq_some, hireButton_eq_iff] at this
    obtain ⟨hty, ⟨⟩⟩ := this
    exact .hire hty
  | hireAndPay val =>
    obtain ⟨hdialog, ⟨⟩⟩ := Option.ite_none_right_eq_some.1 (tap_eq_some h)
    exact .hireAndPay hdialog
  | closeDialog =>
    obtain ⟨-, ⟨⟩⟩ := Option.ite_none_right_eq_some.1 (tap_eq_some h)
    exact .other rfl rfl nofun rfl rfl rfl
  | openSheet =>
    cases tap_eq_some h
    exact .other rfl rfl id rfl rfl rfl
  | closeSheet | setDescription body =>
    obtain ⟨-, ⟨⟩⟩ := Option.ite_none_right_eq_some.1 (tap_eq_some h)
    exact .other rfl rfl id rfl rfl rfl
  | declineProposal =>
    obtain ⟨-, ⟨⟩⟩ := Option.ite_none_right_eq_some.1 (tap_eq_some h)
    exact .declineProposal
  | reply i r =>
    rw [step] at h
    split at h
    · cases h
    · rename_i q hq
      cases h
      exact .reply hq

/-- A reply does not touch the dialog or the key, and takes one request out of
flight. -/
theorem replied_fields (s : State) (q : Request) (r : Reply) :
    (replied s q r).walletDialoge = s.walletDialoge ∧
      (replied s q r).selectedKey = s.selectedKey ∧ (replied s q r).inFlight = s.inFlight := by
  unfold replied
  split <;> exact ⟨rfl, rfl, rfl⟩

/-- A reply adds to the history at most a payment from the wallet, and then leaves
`loader` as it was. -/
theorem replied_history (s : State) (q : Request) (r : Reply) :
    (replied s q r).history = s.history ∨
      (∃ o, q.order? = some o ∧ (replied s q r).history = s.history ++ [.paidByWallet o]) ∧
        (replied s q r).loader = s.loader := by
  unfold replied
  split
  · exact Or.inr ⟨⟨_, rfl, rfl⟩, rfl⟩
  all_goals exact Or.inl rfl

/-! ## A project with two freelancers -/

/-- A milestone with a title. -/
def titled (title : String) : Milestone := ⟨"", "100", "$100", "", title⟩

/-- A project whose two proposals are paid by milestones of their own, opened at
the proposal with the given place. -/
def twoProposals (second : Bool) : Opened where
  mainItem :=
    { project_id := 5
      is_milestone := true
      proposals := [⟨11, .milestone, some [("a", titled "Draft")]⟩,
        ⟨12, .milestone, some [("b", titled "Design")]⟩] }
  sellerDetails :=
    if second then ⟨12, .milestone, some [("b", titled "Design")]⟩
    else ⟨11, .milestone, some [("a", titled "Draft")]⟩
  listed := by cases second <;> simp
  profile_id := 3
  user_id := 2
  token := "token"

end ProposalActivity
