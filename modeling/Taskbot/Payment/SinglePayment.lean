import Mathlib
import Taskbot.Async.BusyFlag
import Taskbot.Detail.OrderDetail
import Taskbot.Projects.ProposalActivity

/-!
# Paying once

The two screens that pay, `OrderDetail` and `ProposalActivity`, and what keeps a
payment from being sent twice.  Both keep a busy flag, but the button that shows
it (`FormButton`) only draws a spinner: it can be tapped all the same, and the
buttons of the wallet dialog do not know the flag.

* `OrderDetail.busyFlag`, `ProposalActivity.busyFlag` — the flags are kept as busy
  flags are.
* `ProposalActivity.paidOk_step` — after a payment from the wallet the flag of
  `ProposalActivity` stays set for good.
* `single_payment` — **when no request is sent while the flag is set, no payment is
  sent twice**, on either screen.
* `payment_sent_twice` — taps that do send one twice.
-/

/-! ## The checkout of a task -/

namespace OrderDetail

open Async

variable {t : Task}

/-- The events that send a request in a state: a tap on the checkout button, and
one on the button of the sheet when an amount is typed. -/
def Sends (s : State t) (e : Event t) : Prop :=
  (e = .checkout ∧ t.verified = true) ∨ (e = .addFund ∧ s.amount ≠ "")

instance (s : State t) (e : Event t) : Decidable (Sends s e) := by
  unfold Sends
  infer_instance

theorem orderReplied_inFlight (s : State t) (r : Reply) :
    (orderReplied s r).inFlight = s.inFlight := by
  cases r <;> rfl

theorem addWalletReplied_inFlight (s : State t) (r : Reply) :
    (addWalletReplied s r).inFlight = s.inFlight := by
  cases r <;> rfl

/-- `proceedLoader` is set by every request, and cleared by replies only. -/
theorem busyFlag (t : Task) :
    BusyFlag (machine t) (fun s => s.inFlight.length) (fun s => s.proceedLoader = true) Sends where
  init := rfl
  send := by
    intro s e u hsend h
    rcases hsend with ⟨rfl, hver⟩ | ⟨rfl, hamount⟩
    · simp only [machine, step, hver, if_true, Option.some.injEq] at h
      subst h
      exact ⟨List.length_append, rfl⟩
    · obtain ⟨-, ⟨⟩⟩ := Option.ite_none_right_eq_some.1 h
      rw [addWallet, if_pos hamount]
      exact ⟨List.length_append, rfl⟩
  keep := by
    intro s e u hsend h
    cases e with
    | addInBudget i =>
      cases h
      refine Or.inr ?_
      unfold addInBudget
      split <;> exact ⟨rfl, id⟩
    | toggleShow | toggleWallet =>
      cases h
      exact Or.inr ⟨rfl, id⟩
    | setPackageIndex k | closeSheet | setAmount val =>
      obtain ⟨-, ⟨⟩⟩ := Option.ite_none_right_eq_some.1 h
      exact Or.inr ⟨rfl, id⟩
    | checkout =>
      have hver : t.verified ≠ true := fun hver => hsend (Or.inl ⟨rfl, hver⟩)
      simp only [machine, step, if_neg hver, Option.some.injEq] at h
      subst h
      exact Or.inr ⟨rfl, id⟩
    | openSheet =>
      simp only [machine, step, Option.some.injEq] at h
      subst h
      refine Or.inr ?_
      split <;> exact ⟨rfl, id⟩
    | addFund =>
      obtain ⟨-, ⟨⟩⟩ := Option.ite_none_right_eq_some.1 h
      have hamount : ¬ s.amount ≠ "" := fun hamount => hsend (Or.inr ⟨rfl, hamount⟩)
      rw [addWallet, if_neg hamount]
      exact Or.inr ⟨rfl, id⟩
    | reply i r =>
      simp only [machine, step] at h
      split at h
      · cases h
      · rename_i q hq
        cases h
        refine Or.inl ?_
        have hlength := length_eraseIdx_add_one hq
        split
        · rw [orderReplied_inFlight]
          exact hlength
        · rw [addWalletReplied_inFlight]
          exact hlength

/-- At most one order is sent and not answered. -/
def OneOrder (s : State t) : Prop := s.inFlight.countP Request.isOrder ≤ 1

instance (s : State t) : Decidable (OneOrder s) := by
  unfold OneOrder
  infer_instance

/-- No button that sends a request is tapped while `proceedLoader` is set. -/
def Patient (s : State t) (e : Event t) : Prop := Sends s e → ¬ s.proceedLoader = true

instance (s : State t) (e : Event t) : Decidable (Patient s e) := by
  unfold Patient
  infer_instance

theorem oneOrder_run {es : List (Event t)} {s : State t} (hok : (machine t).Meets Patient es)
    (h : (machine t).run es = some s) : OneOrder s :=
  List.countP_le_length.trans ((busyFlag t).inFlight_le_one hok h).1

end OrderDetail

/-! ## The wallet dialog of a proposal -/

namespace ProposalActivity

open Async

variable {t : Opened}

/-- `loader` is set by every request, and cleared by replies only. -/
theorem busyFlag (t : Opened) :
    BusyFlag (machine t) (fun s => s.inFlight.length) (fun s => s.loader = true)
      (fun _ e => e.sends = true) where
  init := rfl
  send := by
    intro s e u hsend h
    cases step_effect h with
    | hireAndPay hdialog => exact ⟨List.length_append, rfl⟩
    | declineProposal => exact ⟨List.length_append, rfl⟩
    | payMilestone _ | hire _ | reply _ => cases hsend
    | other hother => exact absurd (hsend.symm.trans hother) Bool.noConfusion
  keep := by
    intro s e u hsend h
    cases step_effect h with
    | hireAndPay hdialog => exact absurd rfl hsend
    | declineProposal => exact absurd rfl hsend
    | payMilestone _ => exact Or.inr ⟨rfl, id⟩
    | hire _ => exact Or.inr ⟨rfl, id⟩
    | @reply i r q hq =>
      refine Or.inl ?_
      rw [(replied_fields _ q r).2.2]
      exact length_eraseIdx_add_one hq
    | other _ _ _ hloader hflight _ =>
      refine Or.inr ⟨congrArg List.length hflight, ?_⟩
      rw [hloader]
      exact id

/-- No button that sends a request is tapped while `loader` is set. -/
def Patient (s : State) (e : Event) : Prop := e.sends = true → ¬ s.loader = true

instance (s : State) (e : Event) : Decidable (Patient s e) := by
  unfold Patient
  infer_instance

/-- After a payment from the wallet nothing is in flight, and `loader` is set. -/
def Paid (s : State) : Prop :=
  (∃ o, Entry.paidByWallet o ∈ s.history) → s.inFlight = [] ∧ s.loader = true

/-- No order is sent after it was paid from the wallet. -/
def NotSentAgain (history : List Entry) : Prop :=
  history.Pairwise fun a b => ∀ o, a = .paidByWallet o → b ≠ .sent o

/-- What holds along a patient run. -/
structure PaidOk (s : State) : Prop where
  flag : BusyFlag.AtMostOne (fun s : State => s.inFlight.length) (fun s => s.loader = true) s
  paid : Paid s
  order : NotSentAgain s.history

theorem paidOk_initial : PaidOk initial where
  flag := ⟨Nat.zero_le 1, fun h => absurd rfl h⟩
  paid := fun ⟨_, h⟩ => absurd h List.not_mem_nil
  order := List.Pairwise.nil

/-- Something sent by a patient user is sent before any payment. -/
theorem not_paid_of_sends {s : State} {e : Event} (hs : PaidOk s) (hok : Patient s e)
    (hsend : e.sends = true) (o : ℕ × Option String) : Entry.paidByWallet o ∉ s.history :=
  fun ho => hok hsend (hs.paid ⟨o, ho⟩).2

theorem paidOk_step {s u : State} {e : Event} (hs : PaidOk s) (hok : Patient s e)
    (h : step t s e = some u) : PaidOk u := by
  have hflag := (busyFlag t).atMostOne_step hs.flag hok h
  cases step_effect h with
  | payMilestone _ => exact ⟨hflag, hs.paid, hs.order⟩
  | hire _ => exact ⟨hflag, hs.paid, hs.order⟩
  | hireAndPay hdialog =>
    have hnot := not_paid_of_sends hs hok rfl
    refine ⟨hflag, ?_, ?_⟩
    · rintro ⟨o, ho⟩
      rcases List.mem_append.1 ho with ho | ho
      · exact absurd ho (hnot o)
      · simp at ho
    · refine List.pairwise_append.2 ⟨hs.order, List.pairwise_singleton _ _, ?_⟩
      rintro a ha b - o rfl
      exact absurd ha (hnot o)
  | declineProposal =>
    have hnot := not_paid_of_sends hs hok rfl
    exact ⟨hflag, fun ⟨o, ho⟩ => absurd ho (hnot o), hs.order⟩
  | @reply i r q hq =>
    -- the request answered was the only one in flight
    have hlen := length_eraseIdx_add_one hq
    have hle : s.inFlight.length ≤ 1 := hs.flag.1
    have hne : s.inFlight.length ≠ 0 := by omega
    have hone : s.inFlight.length = 1 := by omega
    have hbusy : s.loader = true := hs.flag.2 hne
    have hnil : s.inFlight.eraseIdx i = [] := (eraseIdx_eq_nil_iff hq).2 hone
    have hnot : ∀ o, Entry.paidByWallet o ∉ s.history := by
      intro o ho
      rw [(hs.paid ⟨o, ho⟩).1] at hone
      cases hone
    obtain ⟨-, -, hflight⟩ := replied_fields { s with inFlight := s.inFlight.eraseIdx i } q r
    rcases replied_history { s with inFlight := s.inFlight.eraseIdx i } q r with
      hhist | ⟨⟨o, -, hhist⟩, hloader⟩
    · refine ⟨hflag, ?_, ?_⟩
      · rintro ⟨p, hp⟩
        exact absurd (hhist ▸ hp) (hnot p)
      · rw [hhist]
        exact hs.order
    · refine ⟨hflag, fun _ => ⟨hflight.trans hnil, hloader.trans hbusy⟩, ?_⟩
      rw [hhist]
      refine List.pairwise_append.2 ⟨hs.order, List.pairwise_singleton _ _, ?_⟩
      rintro a - b hb p - rfl
      simp at hb
  | other _ _ _ hloader hflight hhistory =>
    refine ⟨hflag, ?_, hhistory ▸ hs.order⟩
    rintro ⟨o, ho⟩
    rw [hflight, hloader]
    exact hs.paid ⟨o, hhistory ▸ ho⟩

theorem paidOk_run {es : List Event} {s : State} (hok : (machine t).Meets Patient es)
    (h : (machine t).run es = some s) : PaidOk s :=
  (machine t).invariant paidOk_initial (fun _ _ _ => paidOk_step) hok h

/-- At most one request for each order is sent and not answered. -/
def OneOrderEach (s : State) : Prop :=
  ∀ o, s.inFlight.countP (fun q => q.order? = some o) ≤ 1

end ProposalActivity

/-! ## No payment is sent twice -/

/-- **Paying once.**  When no button that sends a request is tapped while the busy
flag is set, then at no time are two orders for a task in flight, nor two for the
same proposal and key, and no order paid from the wallet is sent again. -/
theorem single_payment {t : OrderDetail.Task} {es : List (OrderDetail.Event t)}
    {s : OrderDetail.State t} {o : ProposalActivity.Opened} {fs : List ProposalActivity.Event}
    {u : ProposalActivity.State}
    (hes : (OrderDetail.machine t).Meets OrderDetail.Patient es)
    (hs : (OrderDetail.machine t).run es = some s)
    (hfs : (ProposalActivity.machine o).Meets ProposalActivity.Patient fs)
    (hu : (ProposalActivity.machine o).run fs = some u) :
    OrderDetail.OneOrder s ∧ ProposalActivity.OneOrderEach u ∧
      ProposalActivity.NotSentAgain u.history := by
  have hpaid := ProposalActivity.paidOk_run hfs hu
  refine ⟨OrderDetail.oneOrder_run hes hs, ?_, hpaid.order⟩
  intro order
  exact List.countP_le_length.trans hpaid.flag.1

/-- A checkout answered and repeated, and a milestone paid by checkout after an
error. -/
theorem single_payment_sample :
    ∃ s u, (OrderDetail.machine OrderDetail.sample).run
        [.checkout, .reply 0 (.success true), .checkout] = some s ∧
      (ProposalActivity.machine (ProposalActivity.twoProposals false)).run
        [.payMilestone 0, .hireAndPay true, .reply 0 .error, .hireAndPay false] = some u ∧
      OrderDetail.OneOrder s ∧ ProposalActivity.OneOrderEach u ∧
      ProposalActivity.NotSentAgain u.history := by
  have hes : (OrderDetail.machine OrderDetail.sample).Meets OrderDetail.Patient
      [.checkout, .reply 0 (.success true), .checkout] := by decide
  have hfs : (ProposalActivity.machine (ProposalActivity.twoProposals false)).Meets
      ProposalActivity.Patient
      [.payMilestone 0, .hireAndPay true, .reply 0 .error, .hireAndPay false] := by decide
  exact ⟨_, _, rfl, rfl, single_payment hes rfl hfs rfl⟩

/-- **Two quick taps pay twice.**  Two taps on the checkout button put two orders
for the task in flight; two taps in the wallet dialog do the same for a milestone;
and the dialog, still open after the milestone was paid from the wallet, sends it
again. -/
theorem payment_sent_twice :
    (∃ s, (OrderDetail.machine OrderDetail.sample).run [.checkout, .checkout] = some s ∧
        ¬ OrderDetail.OneOrder s) ∧
      (∃ s, (ProposalActivity.machine (ProposalActivity.twoProposals false)).run
        [.payMilestone 0, .hireAndPay true, .hireAndPay true] = some s ∧
        ¬ ProposalActivity.OneOrderEach s) ∧
      ∃ s, (ProposalActivity.machine (ProposalActivity.twoProposals false)).run
        [.payMilestone 0, .hireAndPay true, .reply 0 .success, .hireAndPay true] = some s ∧
        ¬ ProposalActivity.NotSentAgain s.history := by
  refine ⟨⟨_, rfl, by decide⟩, ⟨_, rfl, fun h => ?_⟩, ⟨_, rfl, fun h => ?_⟩⟩
  · exact absurd (h (11, some "a")) (by decide)
  · have hpaid := (List.pairwise_cons.1 (List.pairwise_cons.1 h).2).1
    exact hpaid (.sent (11, some "a")) (List.mem_singleton_self _) (11, some "a") rfl rfl
