import Mathlib
import Taskbot.Detail.OrderDetail

/-!
# The sub-total of a checkout

What the buyer is shown, against what the plan and the ticked sub-tasks cost.

* `exactTotal`, `ShowsExactly` — the price of the selected plan and of the
  ticked sub-tasks, and a screen that shows it.
* `selection_run`, `ticked_iff` — after any run the ticked sub-tasks are those
  tapped an odd number of times, and the selected plan is the one tapped last: the
  order sent is always the one on the screen.
* `showsExactly_step` — one step keeps the sub-total exact when a sub-task it adds
  or drops has a price without cents, and a plan it selects costs what the plan
  before did.
* `showsExactly_run` — **along a run of such steps the sub-total is exact, and the
  order is for the plan and the sub-tasks it was made of.**
* `priced_of_showsExactly` — and a run that is exact throughout has no other
  steps.
-/

namespace OrderDetail

open Js Async

variable {t : Task}

/-! ## What the order costs -/

/-- The price of the selected plan and of the ticked sub-tasks. -/
def exactTotal (s : State t) : ℚ :=
  (t.plan s.packageIndex).reg_price.value +
    (s.selectedServicesArray.map fun i => (t.subTask i).reg_price.value).sum

/-- The sub-total drawn is what the order costs. -/
def ShowsExactly (s : State t) : Prop := ∃ n : ℤ, subTotal s = some n ∧ (n : ℚ) = exactTotal s

/-! ## What a step does to the order -/

/-- The sub-task an event taps. -/
def tapped : Event t → Option t.Service
  | .addInBudget i => some i
  | _ => none

/-- The plan an event selects. -/
def planTapped : Event t → Option (Fin 3)
  | .setPackageIndex k => some k
  | _ => none

/-- The selection and the total of two states are the same. -/
structure SameOrder (s u : State t) : Prop where
  plan : u.packageIndex = s.packageIndex
  services : u.selectedServicesArray = s.selectedServicesArray
  total : u.totalPrice = s.totalPrice

/-- A step taps a sub-task, selects a plan, or leaves the order alone. -/
theorem step_cases {s u : State t} {e : Event t} (h : step s e = some u) :
    (∃ i, e = .addInBudget i ∧ u = addInBudget s i) ∨
      (∃ k, e = .setPackageIndex k ∧ u = { s with packageIndex := k, showPlans := false }) ∨
        (tapped e = none ∧ planTapped e = none ∧ SameOrder s u) := by
  cases e with
  | addInBudget i =>
    cases h
    exact Or.inl ⟨i, rfl, rfl⟩
  | setPackageIndex k =>
    simp only [step, Option.ite_none_right_eq_some, Option.some.injEq] at h
    exact Or.inr (Or.inl ⟨k, rfl, h.2.symm⟩)
  | toggleShow | toggleWallet =>
    cases h
    exact Or.inr (Or.inr ⟨rfl, rfl, rfl, rfl, rfl⟩)
  | checkout | openSheet =>
    simp only [step, Option.some.injEq] at h
    subst h
    refine Or.inr (Or.inr ⟨rfl, rfl, ?_⟩)
    split <;> exact ⟨rfl, rfl, rfl⟩
  | closeSheet | setAmount val =>
    simp only [step, Option.ite_none_right_eq_some, Option.some.injEq] at h
    obtain ⟨-, rfl⟩ := h
    exact Or.inr (Or.inr ⟨rfl, rfl, rfl, rfl, rfl⟩)
  | addFund =>
    simp only [step, addWallet, Option.ite_none_right_eq_some, Option.some.injEq] at h
    obtain ⟨-, rfl⟩ := h
    refine Or.inr (Or.inr ⟨rfl, rfl, ?_⟩)
    split <;> exact ⟨rfl, rfl, rfl⟩
  | reply i r =>
    rw [step] at h
    split at h
    · cases h
    · cases h
      refine Or.inr (Or.inr ⟨rfl, rfl, ?_⟩)
      split <;> cases r <;> exact ⟨rfl, rfl, rfl⟩

@[simp] theorem addInBudget_packageIndex (s : State t) (i : t.Service) :
    (addInBudget s i).packageIndex = s.packageIndex := by
  unfold addInBudget
  split <;> rfl

@[simp] theorem addInBudget_selectedServicesArray (s : State t) (i : t.Service) :
    (addInBudget s i).selectedServicesArray = toggle s.selectedServicesArray i := by
  unfold addInBudget
  split <;> rfl

/-- A tap adds what `parseInt` reads of the price, or takes it away. -/
theorem subTotal_addInBudget (s : State t) (i : t.Service) :
    subTotal (addInBudget s i) =
      if i ∈ s.selectedServicesArray then
        (subTotal s).sub (parseInt (t.subTask i).reg_price.text)
      else (subTotal s).add (parseInt (t.subTask i).reg_price.text) := by
  unfold addInBudget
  split <;> rfl

/-- What the order costs after a tap. -/
theorem exactTotal_addInBudget (s : State t) (i : t.Service) :
    exactTotal (addInBudget s i) =
      if i ∈ s.selectedServicesArray then exactTotal s - (t.subTask i).reg_price.value
      else exactTotal s + (t.subTask i).reg_price.value := by
  rw [exactTotal, exactTotal, addInBudget_packageIndex, addInBudget_selectedServicesArray,
    sum_map_toggle]
  split <;> ring

/-! ## The order is the one on the screen -/

/-- The sub-tasks tapped in a run, in order. -/
def taps (es : List (Event t)) : List t.Service := es.filterMap tapped

/-- The plan tapped last in a run, the one selected at the start when none is. -/
def lastPlan (es : List (Event t)) : Fin 3 :=
  es.foldl (fun k e => (planTapped e).getD k) (initial t).packageIndex

/-- After any run the selection is made of the taps of the run. -/
theorem selection_run {es : List (Event t)} {s : State t} (h : (machine t).run es = some s) :
    s.selectedServicesArray = (taps es).foldl toggle [] ∧ s.packageIndex = lastPlan es := by
  induction es using List.reverseRecOn generalizing s with
  | nil => cases h; exact ⟨rfl, rfl⟩
  | append_singleton es e ih =>
    obtain ⟨r, hr, hrs⟩ := (machine t).run_concat_eq_some.1 h
    obtain ⟨hserv, hplan⟩ := ih hr
    rw [taps, lastPlan, List.filterMap_append, List.foldl_append, List.foldl_append, ← taps,
      ← lastPlan, ← hserv, ← hplan]
    rcases step_cases hrs with ⟨i, rfl, rfl⟩ | ⟨k, rfl, rfl⟩ | ⟨hi, hk, hsame⟩
    · exact ⟨addInBudget_selectedServicesArray r i, addInBudget_packageIndex r i⟩
    · exact ⟨rfl, rfl⟩
    · simp [hi, hk, hsame.plan, hsame.services]

/-- A sub-task is ticked exactly when it was tapped an odd number of times, and
none is listed twice. -/
theorem ticked_iff {es : List (Event t)} {s : State t} (h : (machine t).run es = some s) :
    s.selectedServicesArray.Nodup ∧
      ∀ i, i ∈ s.selectedServicesArray ↔ Odd ((taps es).count i) := by
  rw [(selection_run h).1]
  exact ⟨nodup_foldl_toggle (taps es), mem_foldl_toggle (taps es)⟩

/-! ## When the sub-total is exact -/

/-- The steps `calculateTotal` accounts for: the sub-task tapped has a price
without cents, and the plan selected costs what the plan selected before does. -/
def Priced (s : State t) (e : Event t) : Prop :=
  (∀ i ∈ tapped e, (t.subTask i).reg_price.IsWhole) ∧
    ∀ k ∈ planTapped e,
      (t.plan k).reg_price.value = (t.plan s.packageIndex).reg_price.value

/-- The numbers of a step are numbers of JavaScript: the price read and the total
it leads to. -/
def Fits (s : State t) (e : Event t) : Prop :=
  ∀ i ∈ tapped e, Number.Exact (t.subTask i).reg_price.wholePart ∧
    Number.Exact ⌊exactTotal (addInBudget s i)⌋

/-- A step that keeps the sub-total exact. -/
def Kept (s : State t) (e : Event t) : Prop := Priced s e ∧ Fits s e

instance (s : State t) (e : Event t) : Decidable (Kept s e) := by
  unfold Kept Priced Fits
  infer_instance

theorem showsExactly_initial (h : (t.plan 0).reg_price.Readable) : ShowsExactly (initial t) := by
  refine ⟨(t.plan 0).reg_price.wholePart, parseInt_of_readable h, ?_⟩
  rw [exactTotal, initial, List.map_nil, List.sum_nil, add_zero]
  exact h.1.symm

theorem showsExactly_addInBudget {s : State t} {i : t.Service} (hs : ShowsExactly s)
    (hwhole : (t.subTask i).reg_price.IsWhole)
    (hprice : Number.Exact (t.subTask i).reg_price.wholePart)
    (hsum : Number.Exact ⌊exactTotal (addInBudget s i)⌋) : ShowsExactly (addInBudget s i) := by
  obtain ⟨n, hn, hv⟩ := hs
  set w := (t.subTask i).reg_price.wholePart
  have hread : parseInt (t.subTask i).reg_price.text = some w :=
    parseInt_of_readable ⟨hwhole, hprice⟩
  have hvalue : (t.subTask i).reg_price.value = w := hwhole
  have hcost := exactTotal_addInBudget s i
  have hshow := subTotal_addInBudget s i
  rw [← hv, hvalue] at hcost
  rw [hn, hread] at hshow
  by_cases hi : i ∈ s.selectedServicesArray
  · rw [if_pos hi] at hcost hshow
    have hfloor : exactTotal (addInBudget s i) = ((n - w : ℤ) : ℚ) := by rw [hcost]; push_cast; rfl
    rw [hfloor, Int.floor_intCast] at hsum
    exact ⟨n - w, hshow.trans hsum, hfloor.symm⟩
  · rw [if_neg hi] at hcost hshow
    have hfloor : exactTotal (addInBudget s i) = ((n + w : ℤ) : ℚ) := by rw [hcost]; push_cast; rfl
    rw [hfloor, Int.floor_intCast] at hsum
    exact ⟨n + w, hshow.trans hsum, hfloor.symm⟩

/-- **One step.**  A step `calculateTotal` accounts for keeps the sub-total
exact. -/
theorem showsExactly_step {s u : State t} {e : Event t} (hs : ShowsExactly s) (hok : Kept s e)
    (h : step s e = some u) : ShowsExactly u := by
  rcases step_cases h with ⟨i, rfl, rfl⟩ | ⟨k, rfl, rfl⟩ | ⟨-, -, hsame⟩
  · obtain ⟨hprice, hsum⟩ := hok.2 i rfl
    exact showsExactly_addInBudget hs (hok.1.1 i rfl) hprice hsum
  · obtain ⟨n, hn, hv⟩ := hs
    refine ⟨n, hn, hv.trans ?_⟩
    rw [exactTotal, exactTotal, hok.1.2 k rfl]
  · obtain ⟨n, hn, hv⟩ := hs
    refine ⟨n, ?_, hv.trans ?_⟩
    · rw [subTotal, hsame.total]
      exact hn
    · rw [exactTotal, exactTotal, hsame.plan, hsame.services]

/-- **The way back.**  A step between two exact screens is one `calculateTotal`
accounts for. -/
theorem priced_of_showsExactly {s u : State t} {e : Event t} (hs : ShowsExactly s)
    (h : step s e = some u) (hu : ShowsExactly u) : Priced s e := by
  obtain ⟨n, hn, hv⟩ := hs
  obtain ⟨m, hm, hmv⟩ := hu
  rcases step_cases h with ⟨i, rfl, rfl⟩ | ⟨k, rfl, rfl⟩ | ⟨hi, hk, -⟩
  · refine ⟨fun j hj => ?_, fun k hk => (Option.not_mem_none k hk).elim⟩
    obtain rfl : i = j := Option.some.inj hj
    rw [exactTotal_addInBudget, ← hv] at hmv
    split at hmv
    · exact isWhole_of_value_eq (n := n - m) (by push_cast; linarith)
    · exact isWhole_of_value_eq (n := m - n) (by push_cast; linarith)
  · refine ⟨fun i hi => (Option.not_mem_none i hi).elim, fun j hj => ?_⟩
    obtain rfl : k = j := Option.some.inj hj
    obtain rfl : n = m := Option.some.inj (hn.symm.trans hm)
    have hsum := hmv.symm.trans hv
    rw [exactTotal, exactTotal] at hsum
    exact add_right_cancel hsum
  · rw [Priced, hi, hk]
    exact ⟨fun i hi => (Option.not_mem_none i hi).elim, fun k hk => (Option.not_mem_none k hk).elim⟩

/-- A run that shows the right sub-total all along has no step but those
`calculateTotal` accounts for. -/
theorem priced_run {es : List (Event t)} {s : State t} (h : (machine t).run es = some s)
    (hI : ∀ fs, fs <+: es → ∀ u, (machine t).run fs = some u → ShowsExactly u) :
    (machine t).Meets Priced es :=
  (machine t).meets_of_forall (fun _ _ _ => priced_of_showsExactly) h hI

/-! ## The sub-total and the order along a run -/

/-- **What is shown is what is ordered.**  Suppose the price of the first plan has
no cents, and every step of a run is one `calculateTotal` accounts for.  Then the
sub-total is the price of the plan tapped last and of the sub-tasks tapped an odd
number of times, and the checkout button sends that plan and those sub-tasks, each
once. -/
theorem showsExactly_run (h0 : (t.plan 0).reg_price.Readable) {es : List (Event t)} {s : State t}
    (hok : (machine t).Meets Kept es) (h : (machine t).run es = some s) :
    ShowsExactly s ∧ s.packageIndex = lastPlan es ∧ s.selectedServicesArray.Nodup ∧
      (∀ i, i ∈ s.selectedServicesArray ↔ Odd ((taps es).count i)) ∧
      ∀ u, t.verified = true → step s .checkout = some u →
        u.inFlight = s.inFlight ++
          [.orderTasks t.profile_id (t.plan (lastPlan es)).key (if s.disable then "on" else "")
            t.task_id (s.selectedServicesArray.map fun i => (t.subTask i).ID) t.token] := by
  have hexact : ShowsExactly s :=
    (machine t).invariant (showsExactly_initial h0)
      (fun _ _ _ hs hok hstep => showsExactly_step hs hok hstep) hok h
  obtain ⟨hnodup, hticked⟩ := ticked_iff h
  have hplan := (selection_run h).2
  refine ⟨hexact, hplan, hnodup, hticked, ?_⟩
  intro u hver hu
  simp only [step, hver, if_true, Option.some.injEq] at hu
  subst hu
  rw [proceedToCheckout, orderRequest, hplan]

/-! ## Two runs -/

/-- A sub-task for five and a plan at the same price: the sub-total stays right. -/
theorem showsExactly_run_sample :
    ∃ s, (machine sample).run [.addInBudget ⟨0, by decide⟩, .toggleShow, .setPackageIndex 1] = some s ∧
      ShowsExactly s := by
  have hok : (machine sample).Meets Kept
      [.addInBudget ⟨0, by decide⟩, .toggleShow, .setPackageIndex 1] := by decide +kernel
  exact ⟨_, rfl, (showsExactly_run (by decide +kernel) hok rfl).1⟩

/-- **A dearer plan is not charged.**  Selecting the plan for thirty leaves the
sub-total at ten. -/
theorem not_showsExactly_sample :
    ∃ s, (machine sample).run [.toggleShow, .setPackageIndex 2] = some s ∧
      subTotal s = some 10 ∧ exactTotal s = 30 ∧ ¬ ShowsExactly s := by
  refine ⟨_, rfl, by decide +kernel, by decide +kernel, ?_⟩
  rintro ⟨n, hn, hv⟩
  obtain rfl : n = 10 := Option.some.inj (hn.symm.trans (by decide +kernel))
  exact absurd hv (by decide +kernel)

end OrderDetail
