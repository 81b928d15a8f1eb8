import Mathlib
import Taskbot.Projects.ProjectActivity

/-!
# The selected freelancer

What the screen `EmpProjectActivity` shows, against the freelancer selected on it,
over all orders of taps, focus events and replies.

* `OfProposal`, `AmountsOf`, `Owned` — lists, amounts and milestone keys that come
  from a proposal: from its record, or from an answer about it.
* `Inv` — the invariant: what is shown comes from the selected proposal, or a
  request that will put it right is in flight.
* `StepOk`, `inv_step` — the steps that keep it: an answer about the amounts comes
  while its proposal is selected, none is lost, no milestone is tapped while one is
  awaited, and once "complete contract" is offered only freelancers who offer it
  are selected.
* `shows_selected` — **along a run of such steps, whenever no request is
  outstanding, the screen shows the selected freelancer**, and milestones are sent
  with the proposal that owns them.
-/

namespace ProjectActivity

open Async

variable {t : Opened}

/-! ## What comes from a proposal -/

/-- The lists are those of the record, or of an answer about the proposal. -/
def OfProposal (answers : List (ℕ × Answer)) (p : Proposal) (l : Lists) : Prop :=
  l = p.lists ∨ ∃ x ∈ answers, x.1 = p.proposal_id ∧ l = x.2.lists

/-- The amounts are those of an answer about the selected proposal. -/
def AmountsOf (answers : List (ℕ × Answer)) (h : Hooks) : Prop :=
  ∃ x ∈ answers, x.1 = h.selectedItem.proposal_id ∧ h.escrowAmmount = x.2.hired_balance ∧
    h.totalAmount = x.2.earned_balance ∧ h.remaining = x.2.remaning_balance

/-- The keys of the milestones in some lists. -/
def Lists.keys (l : Lists) : List String := l.mileStoneData.map Row.key

/-- The milestone with this key belongs to the proposal with this id: a record of
the proposal has it, or an answer about it. -/
def Owned (t : Opened) (answers : List (ℕ × Answer)) (o : ℕ × String) : Prop :=
  (∃ p ∈ t.records, p.proposal_id = o.1 ∧ o.2 ∈ p.lists.keys) ∨
    ∃ x ∈ answers, x.1 = o.1 ∧ o.2 ∈ x.2.lists.keys

instance (answers : List (ℕ × Answer)) (h : Hooks) : Decidable (AmountsOf answers h) := by
  unfold AmountsOf
  infer_instance

instance (answers : List (ℕ × Answer)) (o : ℕ × String) : Decidable (Owned t answers o) := by
  unfold Owned
  infer_instance

theorem OfProposal.mono {answers : List (ℕ × Answer)} {p : Proposal} {l : Lists}
    (h : OfProposal answers p l) (more : List (ℕ × Answer)) : OfProposal (answers ++ more) p l :=
  h.imp_right fun ⟨x, hx, h⟩ => ⟨x, List.mem_append_left _ hx, h⟩

theorem Owned.mono {answers : List (ℕ × Answer)} {o : ℕ × String} (h : Owned t answers o)
    (more : List (ℕ × Answer)) : Owned t (answers ++ more) o :=
  h.imp_right fun ⟨x, hx, h⟩ => ⟨x, List.mem_append_left _ hx, h⟩

/-- A row of the lists of a proposal is one of its milestones. -/
theorem owned_of_row {answers : List (ℕ × Answer)} {p : Proposal} {l : Lists} {row : Row}
    (hp : p ∈ t.records) (h : OfProposal answers p l) (hrow : row ∈ l.mileStoneData) :
    Owned t answers (p.proposal_id, row.key) := by
  have hkey : row.key ∈ l.keys := List.mem_map_of_mem hrow
  rcases h with rfl | ⟨x, hx, hid, rfl⟩
  · exact Or.inl ⟨p, hp, rfl, hkey⟩
  · exact Or.inr ⟨x, hx, hid, hkey⟩

/-! ## The invariant -/

/-- What is shown comes from the selected proposal, or a request that will put it
right is in flight.  A row is drawn by a change of `refreshList`, so the request
that puts the rows right must still remember the value it has. -/
structure Inv (t : Opened) (s : State) : Prop where
  record : s.hooks.selectedItem ∈ t.records
  lists : OfProposal s.answers s.hooks.selectedItem s.lists
  drawn : OfProposal s.answers s.hooks.selectedItem s.drawn ∨
    Request.activityAmounts s.closure ∈ s.inFlight
  amounts : AmountsOf s.answers s.hooks ∨
    ∃ c, Request.activityAmounts c ∈ s.inFlight ∧ c.proposal_id = s.hooks.selectedItem.proposal_id
  complete : s.hooks.completeContract = s.hooks.selectedItem.complete_option
  wallet : s.hooks.walletDialoge = true →
    Owned t s.answers (s.hooks.selectedItem.proposal_id, s.hooks.escrowKey)
  decline : s.declineSheet = true → ∀ row ∈ s.hooks.declineItem,
    Owned t s.answers (s.hooks.selectedItem.proposal_id, row.key)
  sent : ∀ o ∈ s.sent, Owned t s.answers o

/-- Two states that show the same, but for drawing: no request for the amounts is
lost, and what `refreshList` changes is drawn. -/
structure Same (s u : State) : Prop where
  selected : u.hooks.selectedItem = s.hooks.selectedItem
  escrow : u.hooks.escrowAmmount = s.hooks.escrowAmmount
  total : u.hooks.totalAmount = s.hooks.totalAmount
  remaining : u.hooks.remaining = s.hooks.remaining
  complete : u.hooks.completeContract = s.hooks.completeContract
  lists : u.lists = s.lists
  answers : u.answers = s.answers
  inFlight : ∀ q ∈ s.inFlight, q.isAmounts = true → q ∈ u.inFlight
  drawn : (u.drawn = s.drawn ∧ u.hooks.refreshList = s.hooks.refreshList) ∨ u.drawn = s.lists

/-- The invariant is about what is shown, the dialogs and what was sent. -/
theorem Inv.frame {s u : State} (hs : Inv t s) (h : Same s u)
    (hwallet : u.hooks.walletDialoge = true →
      Owned t s.answers (s.hooks.selectedItem.proposal_id, u.hooks.escrowKey))
    (hdecline : u.declineSheet = true → ∀ row ∈ u.hooks.declineItem,
      Owned t s.answers (s.hooks.selectedItem.proposal_id, row.key))
    (hsent : ∀ o ∈ u.sent, Owned t s.answers o) : Inv t u where
  record := h.selected ▸ hs.record
  lists := by
    rw [h.selected, h.lists, h.answers]
    exact hs.lists
  drawn := by
    rw [h.selected, h.answers]
    rcases h.drawn with ⟨hdrawn, hrefresh⟩ | hdrawn
    · have hclosure : u.closure = s.closure := by
        rw [State.closure, State.closure, h.selected, hrefresh]
      rw [hdrawn, hclosure]
      exact hs.drawn.imp_right fun hq => h.inFlight _ hq rfl
    · rw [hdrawn]
      exact Or.inl hs.lists
  amounts := by
    rw [AmountsOf, h.selected, h.answers, h.escrow, h.total, h.remaining]
    exact hs.amounts.imp_right fun ⟨c, hc, hpid⟩ => ⟨c, h.inFlight _ hc rfl, hpid⟩
  complete := by
    rw [h.complete, h.selected]
    exact hs.complete
  wallet := by
    rw [h.selected, h.answers]
    exact hwallet
  decline := by
    rw [h.selected, h.answers]
    exact hdecline
  sent := by
    rw [h.answers]
    exact hsent

/-- Of a step that shows the same and opens nothing there is nothing more to
check. -/
theorem Inv.quiet {s u : State} (hs : Inv t s) (h : Same s u)
    (hwallet : u.hooks.walletDialoge = true →
      s.hooks.walletDialoge = true ∧ u.hooks.escrowKey = s.hooks.escrowKey)
    (hdecline : u.declineSheet = true →
      s.declineSheet = true ∧ u.hooks.declineItem = s.hooks.declineItem)
    (hsent : u.sent = s.sent) : Inv t u := by
  refine hs.frame h ?_ ?_ (hsent ▸ hs.sent)
  · intro hu
    obtain ⟨hopen, hkey⟩ := hwallet hu
    rw [hkey]
    exact hs.wallet hopen
  · intro hu
    obtain ⟨hopen, hitem⟩ := hdecline hu
    rw [hitem]
    exact hs.decline hopen

/-! ## Handlers that show the same -/

theorem Same.refl (s : State) : Same s s where
  selected := rfl
  escrow := rfl
  total := rfl
  remaining := rfl
  complete := rfl
  lists := rfl
  answers := rfl
  inFlight := fun _ h _ => h
  drawn := Or.inl ⟨rfl, rfl⟩

theorem Same.trans {s u v : State} (h : Same s u) (k : Same u v) : Same s v where
  selected := k.selected.trans h.selected
  escrow := k.escrow.trans h.escrow
  total := k.total.trans h.total
  remaining := k.remaining.trans h.remaining
  complete := k.complete.trans h.complete
  lists := k.lists.trans h.lists
  answers := k.answers.trans h.answers
  inFlight := fun q hq ha => k.inFlight q (h.inFlight q hq ha) ha
  drawn := by
    rcases k.drawn with ⟨hdrawn, hrefresh⟩ | hdrawn
    · rw [hdrawn, hrefresh]
      exact h.drawn
    · exact Or.inr (hdrawn.trans h.lists)

/-- Setters of hooks that are not shown. -/
structure Unseen (f : Hooks → Hooks) : Prop where
  selected : ∀ h, (f h).selectedItem = h.selectedItem := by intro h; rfl
  escrow : ∀ h, (f h).escrowAmmount = h.escrowAmmount := by intro h; rfl
  total : ∀ h, (f h).totalAmount = h.totalAmount := by intro h; rfl
  remaining : ∀ h, (f h).remaining = h.remaining := by intro h; rfl
  complete : ∀ h, (f h).completeContract = h.completeContract := by intro h; rfl
  refreshList : ∀ h, (f h).refreshList = h.refreshList := by intro h; rfl

theorem same_set {f : Hooks → Hooks} (hf : Unseen f) (s : State) : Same s (s.set f) where
  selected := by rw [State.set_hooks, hf.selected]
  escrow := by rw [State.set_hooks, hf.escrow]
  total := by rw [State.set_hooks, hf.total]
  remaining := by rw [State.set_hooks, hf.remaining]
  complete := by rw [State.set_hooks, hf.complete]
  lists := State.set_lists s f
  answers := State.set_answers s f
  inFlight := by
    rw [State.set_inFlight]
    exact fun _ h _ => h
  drawn := by
    rw [State.set_hooks, hf.refreshList]
    exact (State.set_drawn s f).imp_left fun h => ⟨h, rfl⟩

/-- Setters that moreover open no dialog. -/
structure Quiet (f : Hooks → Hooks) : Prop extends Unseen f where
  wallet : ∀ h, (f h).walletDialoge = true →
    h.walletDialoge = true ∧ (f h).escrowKey = h.escrowKey := by intro h; simp
  decline : ∀ h, (f h).declineItem = h.declineItem := by intro h; rfl

/-- `setRefreshList` draws the screen again, or does nothing at all. -/
theorem same_setRefreshList (s : State) (b : Bool) :
    Same s (s.set fun h => { h with refreshList := b }) where
  selected := by rw [State.set_hooks]
  escrow := by rw [State.set_hooks]
  total := by rw [State.set_hooks]
  remaining := by rw [State.set_hooks]
  complete := by rw [State.set_hooks]
  lists := State.set_lists s _
  answers := State.set_answers s _
  inFlight := by
    rw [State.set_inFlight]
    exact fun _ h _ => h
  drawn := by
    by_cases hb : ({ s.hooks with refreshList := b } : Hooks) = s.hooks
    · rw [State.set, if_pos hb]
      exact Or.inl ⟨rfl, rfl⟩
    · exact Or.inr (State.set_drawn_of_ne s _ hb)

theorem same_send (s : State) (q : Request) : Same s (s.send q) :=
  { Same.refl s with inFlight := fun _ h _ => List.mem_append_left _ h }

theorem same_sendFor (s : State) (q : Request) (o : ℕ × String) : Same s (s.sendFor q o) :=
  { Same.refl s with inFlight := fun _ h _ => List.mem_append_left _ h }

theorem same_redraw (s : State) : Same s { s with drawn := s.lists } :=
  { Same.refl s with drawn := Or.inr rfl }

/-- Taking a request out of flight that is not about the amounts. -/
theorem same_eraseIdx {s : State} {i : ℕ} {q : Request} (hq : s.inFlight[i]? = some q)
    (ha : q.isAmounts = false) : Same s { s with inFlight := s.inFlight.eraseIdx i } := by
  refine { Same.refl s with inFlight := fun p hp hpa => ?_ }
  rcases mem_eraseIdx_or_eq hp hq with rfl | h
  · rw [ha] at hpa
    cases hpa
  · exact h

theorem Inv.set {s : State} (hs : Inv t s) {f : Hooks → Hooks} (hf : Quiet f) :
    Inv t (s.set f) := by
  refine hs.quiet (same_set hf.toUnseen s) ?_ ?_ (State.set_sent s f)
  · rw [State.set_hooks]
    exact hf.wallet s.hooks
  · rw [State.set_hooks, State.set_declineSheet]
    exact fun hopen => ⟨hopen, hf.decline s.hooks⟩

theorem Inv.setRefreshList {s : State} (hs : Inv t s) (b : Bool) :
    Inv t (s.set fun h => { h with refreshList := b }) :=
  hs.quiet (same_setRefreshList s b) (by simp) (by simp) (by simp)

theorem Inv.send {s : State} (hs : Inv t s) (q : Request) : Inv t (s.send q) :=
  hs.quiet (same_send s q) (fun h => ⟨h, rfl⟩) (fun h => ⟨h, rfl⟩) rfl

theorem Inv.closeDeclineSheet {s : State} (hs : Inv t s) :
    Inv t { s with declineSheet := false } :=
  hs.quiet { Same.refl s with } (fun h => ⟨h, rfl⟩) nofun rfl

theorem Inv.setOrderSheet {s : State} (hs : Inv t s) (b : Bool) :
    Inv t { s with orderSheet := b } :=
  hs.quiet { Same.refl s with } (fun h => ⟨h, rfl⟩) (fun h => ⟨h, rfl⟩) rfl

/-! ## The effect and the answers -/

/-- **The effect puts the arrays right and asks for the rest.**  It does not clear
the flag of the contract, which must not be set unless the record sets it. -/
theorem inv_effect {s : State} (hrecord : s.hooks.selectedItem ∈ t.records)
    (hcomplete : s.hooks.completeContract = true → s.hooks.selectedItem.complete_option = true)
    (hwallet : s.hooks.walletDialoge = true →
      Owned t s.answers (s.hooks.selectedItem.proposal_id, s.hooks.escrowKey))
    (hdecline : s.declineSheet = true → ∀ row ∈ s.hooks.declineItem,
      Owned t s.answers (s.hooks.selectedItem.proposal_id, row.key))
    (hsent : ∀ o ∈ s.sent, Owned t s.answers o) : Inv t (effect s) := by
  have hmem : Request.activityAmounts s.closure ∈ s.inFlight ++ [.activityAmounts s.closure] :=
    List.mem_append_right _ (List.mem_singleton_self _)
  set m : State := { s with
    lists := s.hooks.selectedItem.lists
    inFlight := s.inFlight ++ [.activityAmounts s.closure] }
  have heffect : effect s = if s.hooks.selectedItem.complete_option then
      m.set fun h => { h with completeContract := true } else m := rfl
  rw [heffect]
  split
  · rename_i hoption
    constructor <;> simp only [State.set_hooks, State.set_lists, State.set_declineSheet,
      State.set_inFlight, State.set_answers, State.set_sent, State.closure]
    · exact hrecord
    · exact Or.inl rfl
    · exact Or.inr hmem
    · exact Or.inr ⟨s.closure, hmem, rfl⟩
    · exact hoption.symm
    · exact hwallet
    · exact hdecline
    · exact hsent
  · rename_i hoption
    refine ⟨hrecord, Or.inl rfl, Or.inr hmem, Or.inr ⟨s.closure, hmem, rfl⟩, ?_, hwallet, hdecline,
      hsent⟩
    exact Bool.eq_iff_iff.2 ⟨hcomplete, fun h => absurd h hoption⟩

/-- **An answer about the selected proposal.**  The arrays and the amounts are its,
and the rows are drawn unless `refreshList` already has the value the answer sets;
then a request that remembers this value is still in flight. -/
theorem inv_amountsReplied {s : State} {i : ℕ} {c : Closure} (hs : Inv t s)
    (hq : s.inFlight[i]? = some (.activityAmounts c))
    (hpid : c.proposal_id = s.hooks.selectedItem.proposal_id) (a : Answer) :
    Inv t (amountsReplied { s with inFlight := s.inFlight.eraseIdx i } c a) := by
  set r : State := { s with inFlight := s.inFlight.eraseIdx i }
  set f : Hooks → Hooks := fun h =>
    { h with
      escrowAmmount := a.hired_balance
      totalAmount := a.earned_balance
      remaining := a.remaning_balance }
  set m : State := { r.set f with
    lists := a.lists
    answers := (r.set f).answers ++ [(c.proposal_id, a)] } with hm
  have hu : amountsReplied r c a = m.set fun h => { h with refreshList := !c.refreshList } := rfl
  have hanswers : m.answers = s.answers ++ [(c.proposal_id, a)] := by
    rw [hm]
    simp only [State.set_answers]
    rfl
  have hhooks : m.hooks = f s.hooks := State.set_hooks r f
  have hflight : m.inFlight = s.inFlight.eraseIdx i := State.set_inFlight r f
  have hlast : (s.hooks.selectedItem.proposal_id, a) ∈ m.answers := by
    rw [hanswers, ← hpid]
    exact List.mem_append_right _ (List.mem_singleton_self _)
  rw [hu]
  constructor <;> simp only [State.set_hooks, State.set_lists, State.set_declineSheet,
    State.set_inFlight, State.set_answers, State.set_sent, State.closure, hhooks, f]
  · exact hs.record
  · exact Or.inr ⟨_, hlast, rfl, rfl⟩
  · by_cases hrefresh : s.hooks.refreshList = c.refreshList
    · have hne : ({ m.hooks with refreshList := !c.refreshList } : Hooks) ≠ m.hooks := by
        intro heq
        have := congrArg Hooks.refreshList heq
        rw [hhooks] at this
        simp [f, hrefresh] at this
      rw [State.set_drawn_of_ne m _ hne]
      exact Or.inl (Or.inr ⟨_, hlast, rfl, rfl⟩)
    · have hkept : s.hooks.refreshList = !c.refreshList := by
        cases hb : s.hooks.refreshList <;> cases hc : c.refreshList <;> simp_all
      have hsame : ({ m.hooks with refreshList := !c.refreshList } : Hooks) = m.hooks := by
        rw [hhooks, ← hkept]
      rw [State.set, if_pos hsame, ← hkept]
      have hdrawn : m.drawn = s.drawn ∨ m.drawn = s.lists := State.set_drawn r f
      rcases hdrawn with hdrawn | hdrawn
      · rw [hdrawn, hanswers]
        rcases hs.drawn with hold | hold
        · exact Or.inl (hold.mono _)
        · refine Or.inr ?_
          rcases mem_eraseIdx_or_eq hold hq with heq | hmem
          · have hcl : s.closure = c := by injection heq
            exact absurd (congrArg Closure.refreshList hcl) hrefresh
          · rw [hflight]
            exact hmem
      · rw [hdrawn, hanswers]
        exact Or.inl (hs.lists.mono _)
  · exact Or.inl ⟨_, hlast, rfl, rfl, rfl, rfl⟩
  · exact hs.complete
  · rw [hanswers]
    exact fun hopen => (hs.wallet hopen).mono _
  · rw [hanswers]
    have hsheet : m.declineSheet = s.declineSheet := State.set_declineSheet r f
    rw [hsheet]
    exact fun hopen row hrow => (hs.decline hopen row hrow).mono _
  · have hsent : m.sent = s.sent := State.set_sent r f
    rw [hanswers, hsent]
    exact fun o ho => (hs.sent o ho).mono _

/-! ## The other handlers -/

theorem inv_updateMileStoneStatus {s : State} (hs : Inv t s) {item : Row}
    (hitem : Owned t s.answers (s.hooks.selectedItem.proposal_id, item.key)) (index : Option ℕ)
    (type : MilestoneStatus) (description : Option String) :
    Inv t (updateMileStoneStatus s item index type description) := by
  refine hs.frame ((same_set {} s).trans (same_sendFor _ _ _)) ?_ ?_ ?_
  · simpa [updateMileStoneStatus, State.sendFor] using hs.wallet
  · simpa [updateMileStoneStatus, State.sendFor] using hs.decline
  · simp only [updateMileStoneStatus, State.sendFor, State.set_sent, List.mem_append,
      List.mem_singleton]
    rintro o (ho | rfl)
    · exact hs.sent o ho
    · exact hitem

theorem inv_hireAndPay {s : State} (hs : Inv t s) (hopen : s.hooks.walletDialoge = true)
    (val : Bool) : Inv t (hireAndPay t s val) := by
  refine hs.frame ((same_set {} s).trans (same_sendFor _ _ _)) ?_ ?_ ?_
  · simp [hireAndPay, State.sendFor]
  · simpa [hireAndPay, State.sendFor] using hs.decline
  · simp only [hireAndPay, State.sendFor, State.set_sent, List.mem_append, List.mem_singleton]
    rintro o (ho | rfl)
    · exact hs.sent o ho
    · exact hs.wallet hopen

theorem inv_openWallet {s : State} (hs : Inv t s) {item : Row}
    (hitem : Owned t s.answers (s.hooks.selectedItem.proposal_id, item.key)) (index : ℕ) :
    Inv t (openWallet s item index) := by
  unfold openWallet
  refine hs.frame (same_set {} s) ?_ ?_ ?_
  · simpa using hitem
  · simpa using hs.decline
  · simpa using hs.sent

theorem inv_opneDeclinedRbSheet {s : State} (hs : Inv t s) {item : Row}
    (hitem : Owned t s.answers (s.hooks.selectedItem.proposal_id, item.key)) (index : ℕ) :
    Inv t (opneDeclinedRbSheet s item index) := by
  unfold opneDeclinedRbSheet
  have hopen : Same s { s with declineSheet := true } := { Same.refl s with }
  refine hs.frame (hopen.trans (same_set {} _)) ?_ ?_ ?_
  · simpa using hs.wallet
  · simpa using hitem
  · simpa using hs.sent

theorem inv_updateReplied {s : State} (hs : Inv t s) (c : Closure) (type : MilestoneStatus)
    (r : Reply) : Inv t (updateReplied s c type r) := by
  cases r with
  | success =>
    have hloading : Inv t (s.set fun h => { h with loading := false }) := hs.set {}
    by_cases htype : type = .decline
    · simp only [updateReplied, if_pos htype]
      exact (hloading.closeDeclineSheet.setRefreshList _).send _
    · simp only [updateReplied, if_neg htype]
      exact hloading.send _
  | error =>
    simp only [updateReplied]
    exact hs.set {}
  | failure =>
    simp only [updateReplied]
    exact hs.set {}
  | other | amounts a => exact hs

theorem inv_orderReplied {s : State} (hs : Inv t s) (c : Closure) (val : Bool) (r : Reply) :
    Inv t (orderReplied s c val r) := by
  cases r with
  | success =>
    have hset : Inv t (s.set fun h => { h with loader := false, walletDialoge := false }) :=
      hs.set {}
    by_cases hval : val = true
    · simp only [orderReplied, if_pos hval]
      exact hset.send _
    · simp only [orderReplied, if_neg hval]
      exact hset
  | error | failure =>
    simp only [orderReplied]
    exact hs.set {}
  | other | amounts a => exact hs

theorem inv_completeReplied {s : State} (hs : Inv t s) (r : Reply) :
    Inv t (completeReplied s r) := by
  cases r with
  | failure =>
    simp only [completeReplied]
    exact hs.set {}
  | success | error | other | amounts a => exact hs

/-! ## Steps that keep the invariant -/

/-- An answer about the amounts comes while its proposal is selected, and it does
come. -/
def Timely (s : State) (r : Reply) : Request → Prop
  | .activityAmounts c => r ≠ .failure ∧ c.proposal_id = s.hooks.selectedItem.proposal_id
  | _ => True

instance (s : State) (r : Reply) (q : Request) : Decidable (Timely s r q) := by
  cases q <;> unfold Timely <;> infer_instance

/-- What a step must meet. -/
def StepOk (t : Opened) (s : State) (e : Event) : Prop :=
  (e.isRowTap = true → s.waiting = false) ∧
    match e with
    | .setSelectedItem i => ∀ p ∈ t.newProposalData[i]?,
      s.hooks.completeContract = true → p.complete_option = true
    | .reply i r => ∀ q ∈ s.inFlight[i]?, Timely s r q
    | _ => True

instance (s : State) (e : Event) : Decidable (StepOk t s e) := by
  cases e <;> unfold StepOk <;> infer_instance

/-- While no answer is awaited the rows drawn are those of the selected proposal. -/
theorem Inv.drawn_of_not_waiting {s : State} (hs : Inv t s) (h : s.waiting = false) :
    OfProposal s.answers s.hooks.selectedItem s.drawn := by
  refine hs.drawn.resolve_right fun hmem => ?_
  rw [State.waiting, List.any_eq_false] at h
  exact h _ hmem rfl

theorem tap_eq_some {s u : State} {v : Option State} (h : tap s v = some u) :
    s.covered = false ∧ v = some u := by
  rw [tap, Option.ite_none_right_eq_some] at h
  exact ⟨h.1.2, h.2⟩

/-- A tap on a row drawn, while no answer is awaited, is one on a milestone of the
selected proposal. -/
theorem tapRow_eq_some {s u : State} {buyer : Bool} {status : List MilestoneStatus} {row : ℕ}
    {f : Row → State} (hs : Inv t s) (hwait : s.waiting = false)
    (h : tapRow t s buyer status row f = some u) :
    ∃ item, Owned t s.answers (s.hooks.selectedItem.proposal_id, item.key) ∧ u = f item := by
  obtain ⟨item, hitem, hu⟩ := Option.bind_eq_some_iff.1 (tap_eq_some h).2
  obtain ⟨-, hu⟩ := Option.ite_none_right_eq_some.1 hu
  exact ⟨item, owned_of_row hs.record (hs.drawn_of_not_waiting hwait) (List.mem_of_getElem? hitem),
    (Option.some.inj hu).symm⟩

theorem inv_replied {s u : State} {i : ℕ} {q : Request} {r : Reply} (hs : Inv t s)
    (hq : s.inFlight[i]? = some q) (hok : Timely s r q)
    (h : replied { s with inFlight := s.inFlight.eraseIdx i } q r = some u) : Inv t u := by
  have hrest : q.isAmounts = false → Inv t { s with inFlight := s.inFlight.eraseIdx i } :=
    fun ha => hs.quiet (same_eraseIdx hq ha) (fun h => ⟨h, rfl⟩) (fun h => ⟨h, rfl⟩) rfl
  cases q with
  | activityAmounts c =>
    cases r with
    | amounts a =>
      cases h
      exact inv_amountsReplied hs hq hok.2 a
    | failure => exact absurd rfl hok.1
    | success | error | other => cases h
  | updateMilestone c key type d =>
    have hu := inv_updateReplied (hrest rfl) c type r
    cases r <;> cases h <;> exact hu
  | orderProject c pid val key =>
    have hu := inv_orderReplied (hrest rfl) c val r
    cases r <;> cases h <;> exact hu
  | completeProject pid rating =>
    have hu := inv_completeReplied (hrest rfl) r
    cases r <;> cases h <;> exact hu

/-- **One step.** -/
theorem inv_step {s u : State} {e : Event} (hs : Inv t s) (hok : StepOk t s e)
    (h : step t s e = some u) : Inv t u := by
  cases e with
  | blur =>
    obtain ⟨-, ⟨⟩⟩ := Option.ite_none_right_eq_some.1 h
    exact hs.set {}
  | focus =>
    obtain ⟨-, ⟨⟩⟩ := Option.ite_none_left_eq_some.1 h
    apply inv_effect
    · simpa using hs.record
    · simpa using fun h => hs.complete.symm.trans h
    · simpa using hs.wallet
    · simpa using hs.decline
    · simpa using hs.sent
  | redraw =>
    cases h
    exact hs.quiet (same_redraw s) (fun h => ⟨h, rfl⟩) (fun h => ⟨h, rfl⟩) rfl
  | setSelectedItem i =>
    obtain ⟨hcovered, hu⟩ := tap_eq_some h
    obtain ⟨item, hitem, rfl⟩ := Option.map_eq_some_iff.1 hu
    simp only [State.covered, Bool.or_eq_false_iff] at hcovered
    obtain ⟨⟨⟨-, hwallet⟩, hdecline⟩, -⟩ := hcovered
    apply inv_effect
    · exact t.mem_records (List.mem_of_getElem? hitem)
    · exact hok.2 item hitem
    · exact fun hopen => absurd (hopen.symm.trans hwallet) Bool.noConfusion
    · exact fun hopen => absurd (hopen.symm.trans hdecline) Bool.noConfusion
    · exact hs.sent
  | approve row =>
    obtain ⟨item, hitem, rfl⟩ := tapRow_eq_some hs (hok.1 rfl) h
    exact inv_updateMileStoneStatus hs hitem _ _ _
  | markCompleted row =>
    obtain ⟨item, hitem, rfl⟩ := tapRow_eq_some hs (hok.1 rfl) h
    exact inv_updateMileStoneStatus hs hitem _ _ _
  | opneDeclinedRbSheet row =>
    obtain ⟨item, hitem, rfl⟩ := tapRow_eq_some hs (hok.1 rfl) h
    exact inv_opneDeclinedRbSheet hs hitem row
  | closeDeclineSheet =>
    obtain ⟨-, ⟨⟩⟩ := Option.ite_none_right_eq_some.1 h
    exact hs.closeDeclineSheet
  | setDeclineResone body =>
    obtain ⟨-, ⟨⟩⟩ := Option.ite_none_right_eq_some.1 h
    exact hs.set {}
  | submitDecline =>
    obtain ⟨hopen, hu⟩ := Option.ite_none_right_eq_some.1 h
    obtain ⟨item, hitem, rfl⟩ := Option.map_eq_some_iff.1 hu
    exact inv_updateMileStoneStatus hs (hs.decline hopen item hitem) _ _ _
  | openWallet row =>
    obtain ⟨item, hitem, rfl⟩ := tapRow_eq_some hs (hok.1 rfl) h
    exact inv_openWallet hs hitem row
  | closeWallet =>
    obtain ⟨-, ⟨⟩⟩ := Option.ite_none_right_eq_some.1 h
    exact hs.set {}
  | hireAndPay val =>
    obtain ⟨hopen, ⟨⟩⟩ := Option.ite_none_right_eq_some.1 h
    exact inv_hireAndPay hs hopen val
  | openMenu =>
    cases (tap_eq_some h).2
    exact hs.set {}
  | closeMenu =>
    obtain ⟨-, ⟨⟩⟩ := Option.ite_none_right_eq_some.1 h
    exact hs.set {}
  | openCompeteContractSheet =>
    obtain ⟨-, ⟨⟩⟩ := Option.ite_none_right_eq_some.1 h
    exact (hs.setOrderSheet true).set {}
  | closeOrderSheet =>
    obtain ⟨-, ⟨⟩⟩ := Option.ite_none_right_eq_some.1 h
    exact hs.setOrderSheet false
  | completeProjectContract val =>
    obtain ⟨-, ⟨⟩⟩ := Option.ite_none_right_eq_some.1 h
    have hset : Inv t (({ s with orderSheet := false } : State).set fun h =>
      { h with loader := true }) := (hs.setOrderSheet false).set {}
    exact hset.send _
  | reply i r =>
    obtain ⟨q, hq, hu⟩ := Option.bind_eq_some_iff.1 h
    exact inv_replied hs hq (hok.2 q hq) hu

theorem inv_initial (t : Opened) : Inv t (initial t) := by
  apply inv_effect
  · exact List.mem_cons_self
  · exact fun h => absurd h Bool.noConfusion
  · exact fun h => absurd h Bool.noConfusion
  · exact fun h => absurd h Bool.noConfusion
  · exact fun o ho => absurd ho List.not_mem_nil

theorem inv_run {es : List Event} {s : State} (hok : (machine t).Meets (StepOk t) es)
    (h : (machine t).run es = some s) : Inv t s :=
  (machine t).invariant (inv_initial t) (fun _ _ _ => inv_step) hok h

/-! ## What the screen shows -/

/-- The milestones drawn and the amounts are those of the selected proposal, and
"complete contract" is offered exactly when its record says so. -/
structure ShowsSelected (s : State) : Prop where
  rows : OfProposal s.answers s.hooks.selectedItem s.drawn
  amounts : AmountsOf s.answers s.hooks
  complete : s.hooks.completeContract = s.hooks.selectedItem.complete_option

/-- **The screen shows the selected freelancer.**  Suppose every answer about the
amounts comes while its proposal is selected, none is lost, no milestone is tapped
while one is awaited, and once "complete contract" is offered only freelancers who
offer it are selected.  Then whenever no request is outstanding what is shown is
about the selected proposal; and every milestone sent for a proposal is one of its
own. -/
theorem shows_selected {es : List Event} {s : State} (hok : (machine t).Meets (StepOk t) es)
    (h : (machine t).run es = some s) :
    (s.inFlight = [] → ShowsSelected s) ∧ ∀ o ∈ s.sent, Owned t s.answers o := by
  have hs := inv_run hok h
  refine ⟨fun hnil => ?_, hs.sent⟩
  have hwait : s.waiting = false := by rw [State.waiting, hnil, List.any_nil]
  refine ⟨hs.drawn_of_not_waiting hwait, hs.amounts.resolve_right ?_, hs.complete⟩
  rintro ⟨c, hc, -⟩
  rw [hnil] at hc
  exact List.not_mem_nil hc

/-! ## Two freelancers -/

/-- A proposal with one milestone to pay for. -/
def hired (proposal_id : ℕ) (key : String) : Proposal where
  proposal_id := proposal_id
  byMilestones := true
  publish := false
  disputed := false
  completed_mil_array := none
  milestone := some [(key, ⟨"Draft", "100", .empty⟩)]
  complete_option := false

/-- The answer about such a proposal. -/
def balances (hired_balance key : String) : Answer where
  hired_balance := hired_balance
  earned_balance := "0"
  remaning_balance := "100"
  completed_mil_array := none
  mileastone_array := some [(key, ⟨"Draft", "100", .empty⟩)]

/-- A project with two freelancers, opened at the first. -/
def twoHired : Opened where
  project_id := 5
  proposals := [hired 11 "a", hired 12 "b"]
  indexItem := hired 11 "a"
  buyer := true

/-- Waiting for each answer before the next tap. -/
theorem shows_selected_sample :
    ∃ s, (machine twoHired).run [.reply 0 (.amounts (balances "1" "a")), .setSelectedItem 1,
        .reply 0 (.amounts (balances "2" "b")), .openWallet 0, .hireAndPay true,
        .reply 0 .success, .reply 0 (.amounts (balances "3" "b"))] = some s ∧
      (s.inFlight = [] → ShowsSelected s) ∧ ∀ o ∈ s.sent, Owned twoHired s.answers o := by
  have hok : (machine twoHired).Meets (StepOk twoHired)
      [.reply 0 (.amounts (balances "1" "a")), .setSelectedItem 1,
        .reply 0 (.amounts (balances "2" "b")), .openWallet 0, .hireAndPay true,
        .reply 0 .success, .reply 0 (.amounts (balances "3" "b"))] := by decide
  exact ⟨_, rfl, shows_selected hok rfl⟩

/-- **A late answer about another freelancer.**  The second freelancer is selected
while the answer about the first is awaited, and it comes last: the amounts shown
are the first one's, and the first one's milestone is paid for the second. -/
theorem late_answer_shown :
    (∃ s, (machine twoHired).run [.setSelectedItem 1, .reply 1 (.amounts (balances "2" "b")),
        .reply 0 (.amounts (balances "1" "a"))] = some s ∧
        s.inFlight = [] ∧ ¬ ShowsSelected s) ∧
      ∃ s, (machine twoHired).run [.setSelectedItem 1, .reply 1 (.amounts (balances "2" "b")),
        .reply 0 (.amounts (balances "1" "a")), .redraw, .openWallet 0, .hireAndPay true] =
          some s ∧
        (12, "a") ∈ s.sent ∧ ¬ Owned twoHired s.answers (12, "a") := by
  refine ⟨⟨_, rfl, by decide, fun h => ?_⟩, ⟨_, rfl, by decide, by decide⟩⟩
  exact absurd h.amounts (by decide)

end ProjectActivity
