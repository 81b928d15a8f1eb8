import Mathlib
import Taskbot.Async.Machine

/-!
# The plans of a task by their indexes

A task has one, two or three plans.  `TaskDetail` has a tab for each of them; the chooser of
`OrderDetail` has three entries for every task.  What is drawn of a plan is read at an index
of `data.attributes`, and nothing can be read of a plan that is not there.

* `tabs` — the tabs of `TaskDetail`.
* `State`, `render`, `step` — the chooser and the selected plan of `OrderDetail`; a screen
  whose rendering has thrown is gone.
* `render_isSome_iff` — a rendering throws when it reads an index that is out of range.
* `plans_iff` — **all indexes are in range, and the plans to choose are those offered,
  exactly when the chooser is only opened for three plans, and there are not two.**
-/

namespace PlanIndexes

/-! ## Tasks -/

/-- An entry of the list of features of a plan. -/
structure Feature where
  label : String
  plan_value : String
  deriving DecidableEq

/-- An entry of `data.attributes`. -/
structure Plan where
  key : String
  title : String
  price : String
  reg_price : String
  fields : List Feature
  deriving DecidableEq

/-- A task, with the numbers of plans that `TaskDetail` draws. -/
structure Task where
  attributes : List Plan
  length_pos : 1 ≤ attributes.length
  length_le : attributes.length ≤ 3

/-- The tabs of `TaskDetail`: the `selectedPlan` and the `packageIndex` each of them sets. -/
def tabs (t : Task) : List (String × ℕ) :=
  if t.attributes.length = 1 then [("basic", 0)]
  else if t.attributes.length = 2 then [("basic", 0), ("popular", 1)]
  else if t.attributes.length = 3 then [("basic", 0), ("popular", 1), ("premium", 2)]
  else []

/-- The plans that they offer. -/
def offered (t : Task) : List ℕ := (tabs t).map Prod.snd

theorem offered_eq (t : Task) : offered t = List.range t.attributes.length := by
  have hpos := t.length_pos
  have hle := t.length_le
  unfold offered tabs
  split
  · next h => rw [h]; rfl
  · split
    · next h => rw [h]; rfl
    · next h1 h2 =>
      have h3 : t.attributes.length = 3 := by omega
      rw [if_pos h3, h3]
      rfl

/-! ## The screen `OrderDetail` -/

/-- The two hooks for the plans; `showPlans` is `show`. -/
structure State where
  packageIndex : ℕ
  showPlans : Bool
  deriving DecidableEq

/-- What can happen to them. -/
inductive Event where
  /-- The arrow is tapped. -/
  | toggleShow
  /-- The entry of the chooser that sets this index is tapped. -/
  | setPackageIndex (k : ℕ)
  deriving DecidableEq

/-- The indexes that the entries of the chooser set. -/
def choices : List ℕ := [0, 1, 2]

/-- What a rendering draws of the plans. -/
structure Drawn where
  /-- The argument of `useState`, which each rendering evaluates. -/
  reg_price : String
  fields : List Feature
  title : String
  price : String
  /-- The prices in the chooser, when it is open. -/
  choosePrices : Option (List String)
  /-- The title and the price once more, among the additional features. -/
  additional : String × String
  deriving DecidableEq

/-- A rendering; `none` when a property is read of `undefined`, which throws. -/
def render (t : Task) (s : State) : Option Drawn :=
  match t.attributes[s.packageIndex]? with
  | none => none
  | some plan =>
    let drawn (choosePrices : Option (List String)) : Drawn :=
      { reg_price := plan.reg_price
        fields := plan.fields
        title := plan.title
        price := plan.price
        choosePrices
        additional := (plan.title, plan.price) }
    if s.showPlans then
      match t.attributes[0]?, t.attributes[1]?, t.attributes[2]? with
      | some basic, some popular, some premium =>
        some (drawn (some [basic.price, popular.price, premium.price]))
      | _, _, _ => none
    else some (drawn none)

/-- `product_task` in `proceedToCheckout`. -/
def productTask (t : Task) (s : State) : Option String :=
  t.attributes[s.packageIndex]?.map Plan.key

/-- One event, on a screen that is there. -/
def step (t : Task) (s : State) (e : Event) : Option State :=
  if (render t s).isSome then
    match e with
    | .toggleShow => some { s with showPlans := !s.showPlans }
    | .setPackageIndex k =>
      if s.showPlans ∧ k ∈ choices then some { s with packageIndex := k, showPlans := false }
      else none
  else none

/-- The screen just opened with a task. -/
def machine (t : Task) : Async.Machine State Event := ⟨⟨0, false⟩, step t⟩

/-! ## What is read -/

/-- The indexes of `data.attributes` that a rendering and the checkout read: four times the
selected plan, the three of the chooser when it is open, and again the selected plan. -/
def accesses (s : State) : List ℕ :=
  List.replicate 4 s.packageIndex ++ (if s.showPlans then choices else []) ++
    List.replicate 3 s.packageIndex

/-- Is every index in range? -/
def InRange (t : Task) (s : State) : Prop := ∀ k ∈ accesses s, k < t.attributes.length

theorem inRange_iff (t : Task) (s : State) :
    InRange t s ↔ s.packageIndex < t.attributes.length ∧
      (s.showPlans = true → t.attributes.length = 3) := by
  have hle := t.length_le
  cases hshow : s.showPlans with
  | true =>
    simp only [InRange, accesses, choices, hshow, if_true, List.forall_mem_append,
      List.forall_mem_replicate, List.forall_mem_cons]
    simp only [OfNat.ofNat_ne_zero, false_or, forall_true_left]
    constructor
    · rintro ⟨⟨hindex, -, -, htwo, -⟩, -⟩
      exact ⟨hindex, by omega⟩
    · rintro ⟨hindex, hthree⟩
      exact ⟨⟨hindex, by omega, by omega, by omega, by simp⟩, hindex⟩
  | false =>
    simp [InRange, accesses, hshow]

/-- **A rendering throws when an index is out of range.** -/
theorem render_isSome_iff (t : Task) (s : State) : (render t s).isSome ↔ InRange t s := by
  have hle := t.length_le
  rw [inRange_iff]
  by_cases hindex : s.packageIndex < t.attributes.length
  · have hplan := List.getElem?_eq_getElem hindex
    rw [and_iff_right hindex]
    cases hshow : s.showPlans with
    | false => simp [render, hplan, hshow]
    | true =>
      by_cases hthree : t.attributes.length = 3
      · simp [render, hplan, hshow, hthree]
      · have hpremium := List.getElem?_eq_none (show t.attributes.length ≤ 2 by omega)
        simp [render, hplan, hshow, hpremium, hthree]
  · simp [render, hindex]

/-- Then the checkout does not throw either. -/
theorem productTask_isSome {t : Task} {s : State} (h : InRange t s) : (productTask t s).isSome := by
  have hindex := ((inRange_iff t s).1 h).1
  rw [productTask, List.getElem?_eq_getElem hindex]
  rfl

/-! ## When all is in range -/

/-- What a step must meet: the chooser is opened only for three plans. -/
def OpenOk (t : Task) (s : State) : Event → Prop
  | .toggleShow => s.showPlans = false → t.attributes.length = 3
  | .setPackageIndex _ => True

instance (t : Task) (s : State) : (e : Event) → Decidable (OpenOk t s e)
  | .toggleShow => inferInstanceAs (Decidable (s.showPlans = false → t.attributes.length = 3))
  | .setPackageIndex _ => isTrue trivial

theorem inRange_init (t : Task) : InRange t (machine t).init :=
  (inRange_iff t _).2 ⟨t.length_pos, fun h => absurd h Bool.false_ne_true⟩

/-- **One step.** -/
theorem openOk_iff {t : Task} {s u : State} {e : Event} (hs : InRange t s)
    (h : step t s e = some u) : OpenOk t s e ↔ InRange t u := by
  obtain ⟨hindex, hthree⟩ := (inRange_iff t s).1 hs
  obtain ⟨-, h⟩ := Option.ite_none_right_eq_some.1 h
  cases e with
  | toggleShow =>
    cases h
    rw [inRange_iff, and_iff_right hindex]
    simp [OpenOk]
  | setPackageIndex k =>
    obtain ⟨⟨hshow, hk⟩, ⟨⟩⟩ := Option.ite_none_right_eq_some.1 h
    have hlt : k < 3 := by
      have hall : ∀ k ∈ choices, k < 3 := by decide
      exact hall k hk
    refine iff_of_true trivial ((inRange_iff t _).2 ⟨?_, fun h => absurd h Bool.false_ne_true⟩)
    rw [hthree hshow]
    exact hlt

theorem inRange_run_iff {t : Task} {es : List Event} {s : State}
    (h : (machine t).run es = some s) :
    (machine t).Meets (OpenOk t) es ↔
      ∀ fs, fs <+: es → ∀ u, (machine t).run fs = some u → InRange t u :=
  (machine t).meets_iff (I := fun _ => InRange t) (inRange_init t)
    (fun _ _ _ _ _ hs hst => openOk_iff hs hst) h

/-! ## What can be chosen -/

/-- Can a plan be the selected one, on a screen that is there? -/
def CanChoose (t : Task) (k : ℕ) : Prop :=
  ∃ es s, (machine t).run es = some s ∧ InRange t s ∧ s.packageIndex = k

/-- With less than three plans it is the first one. -/
theorem packageIndex_eq_zero {t : Task} (ht : t.attributes.length ≠ 3) {es : List Event}
    {s : State} (h : (machine t).run es = some s) : s.packageIndex = 0 := by
  refine (machine t).invariant_run (I := fun s => s.packageIndex = 0) rfl
    (fun s e u hs hstep => ?_) h
  obtain ⟨hrender, hstep⟩ := Option.ite_none_right_eq_some.1 hstep
  have hthree := ((inRange_iff t s).1 ((render_isSome_iff t s).1 hrender)).2
  cases e with
  | toggleShow =>
    cases hstep
    exact hs
  | setPackageIndex k =>
    obtain ⟨⟨hshow, -⟩, -⟩ := Option.ite_none_right_eq_some.1 hstep
    exact absurd (hthree hshow) ht

/-- The first plan is selected to begin with. -/
theorem canChoose_zero (t : Task) : CanChoose t 0 := ⟨[], _, rfl, inRange_init t, rfl⟩

/-- Of three plans each can be chosen. -/
theorem canChoose_of_three {t : Task} (ht : t.attributes.length = 3) {k : ℕ} (hk : k < 3) :
    CanChoose t k := by
  have hopen : InRange t ⟨0, true⟩ := (inRange_iff t _).2 ⟨t.length_pos, fun _ => ht⟩
  have hchosen : InRange t ⟨k, false⟩ :=
    (inRange_iff t _).2 ⟨hk.trans_eq ht.symm, fun h => absurd h Bool.false_ne_true⟩
  have hchoice : k ∈ choices := by
    have hall : ∀ k < 3, k ∈ choices := by decide
    exact hall k hk
  have htoggle : (machine t).step ⟨0, false⟩ .toggleShow = some ⟨0, true⟩ :=
    if_pos ((render_isSome_iff t _).2 (inRange_init t))
  have hset : (machine t).step ⟨0, true⟩ (.setPackageIndex k) = some ⟨k, false⟩ :=
    (if_pos ((render_isSome_iff t _).2 hopen)).trans (if_pos ⟨rfl, hchoice⟩)
  have hrun : (machine t).run ([] ++ [.toggleShow]) = some ⟨0, true⟩ :=
    (machine t).run_concat_eq_some.2 ⟨_, rfl, htoggle⟩
  exact ⟨([] ++ [.toggleShow]) ++ [.setPackageIndex k], ⟨k, false⟩,
    (machine t).run_concat_eq_some.2 ⟨_, hrun, hset⟩, hchosen, rfl⟩

/-- **The plans offered** can be chosen, all of them and no others, exactly when there are
not two. -/
theorem canChoose_iff (t : Task) :
    (∀ k, CanChoose t k ↔ k ∈ offered t) ↔ t.attributes.length ≠ 2 := by
  have hpos := t.length_pos
  have hle := t.length_le
  have hlt : ∀ {k}, CanChoose t k → k < t.attributes.length := by
    rintro k ⟨es, s, -, hrange, rfl⟩
    exact ((inRange_iff t s).1 hrange).1
  simp only [offered_eq, List.mem_range]
  constructor
  · intro h htwo
    obtain ⟨es, s, hrun, -, hone⟩ := (h 1).2 (by omega)
    have hzero := packageIndex_eq_zero (by omega) hrun
    omega
  · intro htwo k
    refine ⟨hlt, fun hk => ?_⟩
    by_cases hthree : t.attributes.length = 3
    · exact canChoose_of_three hthree (by omega)
    · obtain rfl : k = 0 := by omega
      exact canChoose_zero t

/-- **When plans and indexes agree.**  For every task with one, two or three plans and every
run of the chooser: all indexes that are read are in range throughout, and the plans that
can be chosen are those that the tabs offer, exactly when the chooser is opened only for
three plans, and there are not two. -/
theorem plans_iff {t : Task} {es : List Event} {s : State} (h : (machine t).run es = some s) :
    (machine t).Meets (OpenOk t) es ∧ t.attributes.length ≠ 2 ↔
      (∀ fs, fs <+: es → ∀ u, (machine t).run fs = some u → InRange t u) ∧
        ∀ k, CanChoose t k ↔ k ∈ offered t :=
  and_congr (inRange_run_iff h) (canChoose_iff t).symm

/-- A plan. -/
def plan (key price : String) : Plan := ⟨key, key, price, price, []⟩

/-- A task with three plans. -/
def three : Task := ⟨[plan "basic" "10", plan "popular" "20", plan "premium" "30"], by decide,
  by decide⟩

/-- A task with two. -/
def two : Task := ⟨[plan "basic" "10", plan "popular" "20"], by decide, by decide⟩

/-- The last of three plans is chosen. -/
theorem plans_iff_sample :
    ∃ s, (machine three).run [.toggleShow, .setPackageIndex 2] = some s ∧ InRange three s := by
  have hok : (machine three).Meets (OpenOk three) [.toggleShow, .setPackageIndex 2] := by decide
  exact ⟨_, rfl, ((plans_iff rfl).1 ⟨hok, by decide⟩).1 _ List.prefix_rfl _ rfl⟩

/-- **The third of two plans.**  A task has two plans, and so many tabs.  When the chooser is
opened, the third plan is read, and the rendering throws. -/
theorem third_of_two :
    ∃ s, (machine two).run [.toggleShow] = some s ∧ 2 ∈ accesses s ∧
      two.attributes.length = 2 ∧ offered two = [0, 1] ∧ render two s = none :=
  ⟨_, rfl, by decide, rfl, rfl, rfl⟩

end PlanIndexes
