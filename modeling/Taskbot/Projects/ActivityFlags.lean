import Mathlib
import Taskbot.Async.Machine

/-!
# The busy flags of the activity screen

The screen `EmpProjectActivity` has two flags with names that are nearly the same, `loader`
for a spinner over the whole screen and `loading` for the buttons, and a dozen handlers
that set one of them and clear one or the other.

* `Flag`, `Kind`, `Reply` — the flags, the requests of the screen, and what comes back.
* `handled` — what the handlers of the replies do to the flags, one definition for each.
* `State`, `Event`, `step` — the flags and the requests in flight.
* `idle_iff` — **with nothing in flight both flags are cleared, if and only if** the last
  reply clears those that are set, and no dispute without an issue is sent when nothing is
  in flight.
* `not_tidy_iff`, `idle_of_tidy` — the exits that leave the flag of their own request set;
  on runs without them nothing stays set.
-/

namespace ActivityFlags

open Async

/-! ## The requests and their replies -/

/-- The flags. -/
inductive Flag where
  | loader
  | loading
  deriving DecidableEq

instance : Fintype Flag where
  elems := {.loader, .loading}
  complete f := by cases f <;> simp

/-- The requests of the screen, by the handlers that send them. -/
inductive Kind where
  /-- `activity-amounts`. -/
  | getUpdatedAmounts
  /-- `update-milestone`. -/
  | handelAddNewMileStone
  /-- `update-milestone-status`. -/
  | updateMileStoneStatus
  /-- `complete-project`. -/
  | completeProjectContract
  /-- `order-project`, from the wallet or not. -/
  | hireAndPay (val : Bool)
  /-- `create-project-dispute`. -/
  | createDispute
  /-- `update-activities`. -/
  | addComment
  /-- `get-attachments`. -/
  | getAttachmentLink
  /-- `get-invoice`. -/
  | downloadInvoice
  /-- `projects/get_projects`. -/
  | getSingleProject
  /-- `settings/get_settings`. -/
  | getDisputeIssues
  /-- `get-disputes`. -/
  | getDisputes
  deriving DecidableEq

/-- What comes back for a request. -/
inductive Reply where
  /-- `type == 'success'`; for `getSingleProject` the status 200. -/
  | success
  /-- `type == 'error'`. -/
  | error
  /-- Any other answer. -/
  | other
  /-- The `catch` branch. -/
  | failure
  deriving DecidableEq

/-- The flag that is set when a request is sent. -/
def Kind.sets : Kind → Option Flag
  | handelAddNewMileStone | updateMileStoneStatus | getSingleProject => some .loading
  | completeProjectContract | hireAndPay _ | createDispute | addComment | getAttachmentLink
  | downloadInvoice | getDisputeIssues => some .loader
  | getUpdatedAmounts | getDisputes => none

/-- What a handler does: the flags it clears, and whether it asks for the amounts. -/
structure Handled where
  clears : List Flag
  amounts : Bool
  deriving DecidableEq

/-- The `then` branch clears `loading`, the `catch` branch `loader`. -/
def handelAddNewMileStone : Reply → Handled
  | .success | .error | .other => ⟨[.loading], false⟩
  | .failure => ⟨[.loader], false⟩

/-- The same `catch` branch; and an answer that is neither a success nor an error clears
nothing. -/
def updateMileStoneStatus : Reply → Handled
  | .success => ⟨[.loading], true⟩
  | .error => ⟨[.loading], false⟩
  | .other => ⟨[], false⟩
  | .failure => ⟨[.loader], false⟩

/-- The setters of the `then` branch are comments. -/
def completeProjectContract : Reply → Handled
  | .success | .error | .other => ⟨[], false⟩
  | .failure => ⟨[.loader], false⟩

def hireAndPay (val : Bool) : Reply → Handled
  | .success => ⟨[.loader], val⟩
  | .error | .failure => ⟨[.loader], false⟩
  | .other => ⟨[], false⟩

def createDispute : Reply → Handled
  | .success | .error | .failure => ⟨[.loader], false⟩
  | .other => ⟨[], false⟩

/-- Only the `catch` branch touches a flag. -/
def getUpdatedAmounts : Reply → Handled
  | .success | .error | .other => ⟨[], false⟩
  | .failure => ⟨[.loader], false⟩

/-- Only the `catch` branch touches a flag. -/
def getDisputes : Reply → Handled
  | .success | .error | .other => ⟨[], false⟩
  | .failure => ⟨[.loader], false⟩

def getSingleProject : Reply → Handled
  | .success | .error | .failure => ⟨[.loading], false⟩
  | .other => ⟨[], false⟩

/-- `addComment`, `getAttachmentLink`, `downloadInvoice` and `getDisputeIssues`: every
branch clears the flag. -/
def always : Reply → Handled
  | .success | .error | .other | .failure => ⟨[.loader], false⟩

/-- The handlers of the replies. -/
def handled : Kind → Reply → Handled
  | .getUpdatedAmounts => getUpdatedAmounts
  | .handelAddNewMileStone => handelAddNewMileStone
  | .updateMileStoneStatus => updateMileStoneStatus
  | .completeProjectContract => completeProjectContract
  | .hireAndPay val => hireAndPay val
  | .createDispute => createDispute
  | .addComment | .getAttachmentLink | .downloadInvoice | .getDisputeIssues => always
  | .getSingleProject => getSingleProject
  | .getDisputes => getDisputes

/-! ## The screen -/

/-- The flags, and the requests sent and not yet answered. -/
structure State where
  loader : Bool
  loading : Bool
  inFlight : List Kind
  deriving DecidableEq

/-- What can happen to the screen. -/
inductive Event where
  /-- A request is sent; by the effect of a selection or of a focus, or by a handler. -/
  | send (k : Kind)
  /-- `createDispute` while no issue is selected: it throws when the flag is set, and before
  the request is sent. -/
  | createDisputeThrows
  /-- The request at place `i` of those in flight is answered. -/
  | reply (i : ℕ) (r : Reply)
  deriving DecidableEq

/-- A flag. -/
def State.flag (s : State) : Flag → Bool
  | .loader => s.loader
  | .loading => s.loading

/-- The setters. -/
def setFlag (s : State) (b : Bool) : Flag → State
  | .loader => { s with loader := b }
  | .loading => { s with loading := b }

/-- A request is sent, after its flag is set. -/
def send (s : State) (k : Kind) : State :=
  let s := k.sets.elim s (setFlag s true)
  { s with inFlight := s.inFlight ++ [k] }

/-- The handlers of the replies. -/
def replied (s : State) (k : Kind) (r : Reply) : State :=
  let s := (handled k r).clears.foldl (fun s => setFlag s false) s
  if (handled k r).amounts then send s .getUpdatedAmounts else s

/-- One event. -/
def step (s : State) : Event → Option State
  | .send k => some (send s k)
  | .createDisputeThrows => some (setFlag s true .loader)
  | .reply i r =>
    s.inFlight[i]?.map fun k => replied { s with inFlight := s.inFlight.eraseIdx i } k r

/-- The screen just opened: its effect asks for the amounts. -/
def machine : Machine State Event := ⟨send ⟨false, false, []⟩ .getUpdatedAmounts, step⟩

/-! ## Flags that are left set -/

/-- With nothing in flight both flags are cleared. -/
def Idle (s : State) : Prop := s.inFlight = [] → s.loader = false ∧ s.loading = false

/-- The exits that settle a flag. -/
def Settles (k : Kind) (r : Reply) : Flag → Prop
  | .loading => k = .handelAddNewMileStone ∧ r ≠ .failure ∨
      k = .updateMileStoneStatus ∧ r ∈ [.success, .error] ∨ k = .getSingleProject ∧ r ≠ .other
  | .loader => k ≠ .getSingleProject ∧ r = .failure ∨
      k ∈ [.createDispute, .hireAndPay true, .hireAndPay false] ∧ r ≠ .other ∨
      k ∈ [.addComment, .getAttachmentLink, .downloadInvoice, .getDisputeIssues]

/-- The exits after which the amounts are asked for. -/
def AsksAmounts (k : Kind) (r : Reply) : Prop :=
  k ∈ [.updateMileStoneStatus, .hireAndPay true] ∧ r = .success

/-- What a step must meet: the last request answered settles what is set, and nothing is
set for a request that is never sent. -/
def StepOk (s : State) : Event → Prop
  | .send _ => True
  | .createDisputeThrows => s.inFlight ≠ []
  | .reply i r => ∀ k ∈ s.inFlight[i]?, s.inFlight.length = 1 → ¬ AsksAmounts k r →
      ∀ f, s.flag f = true → Settles k r f

theorem settles_iff (k : Kind) (r : Reply) (f : Flag) :
    Settles k r f ↔ f ∈ (handled k r).clears := by
  cases k with
  | hireAndPay val =>
    cases val <;> cases r <;> cases f <;> simp [Settles, handled, hireAndPay]
  | _ =>
    cases r <;> cases f <;> simp [Settles, handled, getUpdatedAmounts, handelAddNewMileStone,
      updateMileStoneStatus, completeProjectContract, createDispute, always, getSingleProject,
      getDisputes]

theorem asksAmounts_iff (k : Kind) (r : Reply) :
    AsksAmounts k r ↔ (handled k r).amounts = true := by
  cases k with
  | hireAndPay val => cases val <;> cases r <;> simp [AsksAmounts, handled, hireAndPay]
  | _ =>
    cases r <;> simp [AsksAmounts, handled, getUpdatedAmounts, handelAddNewMileStone,
      updateMileStoneStatus, completeProjectContract, createDispute, always, getSingleProject,
      getDisputes]

instance (k : Kind) (r : Reply) (f : Flag) : Decidable (Settles k r f) :=
  decidable_of_iff _ (settles_iff k r f).symm

instance (k : Kind) (r : Reply) : Decidable (AsksAmounts k r) :=
  decidable_of_iff _ (asksAmounts_iff k r).symm

instance (s : State) : ∀ e, Decidable (StepOk s e)
  | .send _ => isTrue trivial
  | .createDisputeThrows => inferInstanceAs (Decidable (s.inFlight ≠ []))
  | .reply i r => inferInstanceAs (Decidable (∀ k ∈ s.inFlight[i]?, s.inFlight.length = 1 →
      ¬ AsksAmounts k r → ∀ f, s.flag f = true → Settles k r f))

@[simp] theorem setFlag_inFlight (s : State) (b : Bool) (f : Flag) :
    (setFlag s b f).inFlight = s.inFlight := by
  cases f <;> rfl

theorem flag_setFlag (s : State) (b : Bool) (f g : Flag) :
    (setFlag s b f).flag g = if g = f then b else s.flag g := by
  cases f <;> cases g <;> rfl

@[simp] theorem send_inFlight (s : State) (k : Kind) :
    (send s k).inFlight = s.inFlight ++ [k] := by
  unfold send
  cases k.sets <;> simp

theorem flag_send (s : State) (k : Kind) (f : Flag) :
    (send s k).flag f = (decide (k.sets = some f) || s.flag f) := by
  unfold send
  cases k.sets with
  | none => cases f <;> rfl
  | some g => cases f <;> cases g <;> simp [setFlag, State.flag]

@[simp] theorem foldl_setFlag_inFlight (s : State) (l : List Flag) :
    (l.foldl (fun s => setFlag s false) s).inFlight = s.inFlight := by
  induction l generalizing s with
  | nil => rfl
  | cons f l ih => simpa using ih (setFlag s false f)

theorem flag_foldl_setFlag (s : State) (l : List Flag) (f : Flag) :
    (l.foldl (fun s => setFlag s false) s).flag f = (s.flag f && decide (f ∉ l)) := by
  induction l generalizing s with
  | nil => simp
  | cons g l ih =>
    rw [List.foldl_cons, ih, flag_setFlag]
    by_cases hfg : f = g <;> simp [hfg]

/-- The flags after a reply: asking for the amounts sets none. -/
theorem flag_replied (s : State) (k : Kind) (r : Reply) (f : Flag) :
    (replied s k r).flag f = (s.flag f && decide (f ∉ (handled k r).clears)) := by
  unfold replied
  dsimp only
  split
  · rw [flag_send, flag_foldl_setFlag]
    simp [Kind.sets]
  · exact flag_foldl_setFlag s _ f

theorem replied_inFlight (s : State) (k : Kind) (r : Reply) : (replied s k r).inFlight =
    s.inFlight ++ if (handled k r).amounts then [.getUpdatedAmounts] else [] := by
  unfold replied
  dsimp only
  split <;> simp

theorem idle_iff_flag (s : State) : Idle s ↔ (s.inFlight = [] → ∀ f, s.flag f = false) := by
  refine imp_congr_right fun _ => ⟨?_, fun h => ⟨h .loader, h .loading⟩⟩
  rintro ⟨hloader, hloading⟩ f
  cases f
  · exact hloader
  · exact hloading

/-- **One step.** -/
theorem idle_step_iff {s t : State} {e : Event} (h : step s e = some t) :
    StepOk s e ↔ Idle t := by
  cases e with
  | send k =>
    cases h
    refine iff_of_true trivial fun hnil => ?_
    simp at hnil
  | createDisputeThrows =>
    cases h
    constructor
    · intro hne hnil
      exact absurd hnil hne
    · intro ht hnil
      have := (ht hnil).1
      simp [setFlag] at this
  | reply i r =>
    obtain ⟨k, hk, rfl⟩ := Option.map_eq_some_iff.1 h
    have hnil : (replied { s with inFlight := s.inFlight.eraseIdx i } k r).inFlight = [] ↔
        s.inFlight.length = 1 ∧ ¬ AsksAmounts k r := by
      rw [replied_inFlight, List.append_eq_nil_iff, eraseIdx_eq_nil_iff hk, asksAmounts_iff]
      cases (handled k r).amounts <;> simp
    rw [idle_iff_flag, hnil, and_imp]
    simp only [StepOk, hk, Option.mem_def, Option.some.injEq, forall_eq', flag_replied,
      settles_iff]
    refine imp_congr_right fun _ => imp_congr_right fun _ => forall_congr' fun f => ?_
    rw [show State.flag { s with inFlight := s.inFlight.eraseIdx i } f = s.flag f by
      cases f <;> rfl]
    cases s.flag f <;> simp

/-- **The flags.**  After every run, and throughout it, the flags are cleared whenever
nothing is in flight, if and only if the last answers cleared those that were set. -/
theorem idle_iff {es : List Event} {s : State} (h : machine.run es = some s) :
    machine.Meets StepOk es ↔ ∀ fs, fs <+: es → ∀ t, machine.run fs = some t → Idle t := by
  refine machine.meets_iff (I := fun _ => Idle) ?_ ?_ h
  · intro hnil
    simp [machine] at hnil
  · intro fs s e t _ _ hst
    exact idle_step_iff hst

/-- Two overlapping requests and a throw, and both flags cleared. -/
def sampleRun : List Event :=
  [.reply 0 .success, .send .handelAddNewMileStone, .send (.hireAndPay true),
    .createDisputeThrows, .reply 0 .success, .reply 0 .success, .reply 0 .success]

/-- A milestone cannot be added for want of a connection: the buttons stay busy. -/
def failedRun : List Event :=
  [.reply 0 .success, .send .handelAddNewMileStone, .reply 0 .failure]

theorem idle_sample : ∃ s, machine.run sampleRun = some s ∧ s.inFlight = [] ∧
    machine.Meets StepOk sampleRun ∧
    ∀ fs, fs <+: sampleRun → ∀ t, machine.run fs = some t → Idle t :=
  ⟨_, rfl, rfl, by decide, (idle_iff (s := ⟨false, false, []⟩) rfl).1 (by decide)⟩

theorem not_idle : ¬ ∀ es s, machine.run es = some s → s.inFlight = [] →
    s.loader = false ∧ s.loading = false := by
  intro h
  exact absurd (h failedRun ⟨false, true, []⟩ rfl rfl).2 (by decide)

/-! ## Handlers that clear the flag of their request -/

/-- Does the handler clear the flag that its request has set? -/
def Tidy (k : Kind) (r : Reply) : Prop := ∀ f ∈ k.sets, Settles k r f

/-- The exits that leave the flag of their request set. -/
theorem not_tidy_iff (k : Kind) (r : Reply) : ¬ Tidy k r ↔
    k = .completeProjectContract ∧ r ≠ .failure ∨
    (k = .handelAddNewMileStone ∨ k = .updateMileStoneStatus) ∧ r = .failure ∨
    (k = .updateMileStoneStatus ∨ k = .createDispute ∨ k = .getSingleProject ∨
      ∃ val, k = .hireAndPay val) ∧ r = .other := by
  cases k with
  | hireAndPay val => cases val <;> cases r <;> simp [Tidy, Kind.sets, Settles]
  | _ => cases r <;> simp [Tidy, Kind.sets, Settles]

/-- What a step must meet when the handlers are to be told apart by themselves. -/
def StepTidy (s : State) : Event → Prop
  | .send _ => True
  | .createDisputeThrows => False
  | .reply i r => ∀ k ∈ s.inFlight[i]?, Tidy k r

/-- A flag is set for a request in flight. -/
def Awaited (s : State) : Prop := ∀ f, s.flag f = true → ∃ k ∈ s.inFlight, k.sets = some f

theorem awaited_step {s t : State} {e : Event} (hs : Awaited s) (he : StepTidy s e)
    (h : step s e = some t) : Awaited t := by
  cases e with
  | send k =>
    cases h
    intro f hf
    rw [flag_send, Bool.or_eq_true, decide_eq_true_iff] at hf
    rw [send_inFlight]
    rcases hf with hk | hf
    · exact ⟨k, List.mem_append_right _ (List.mem_singleton_self k), hk⟩
    · obtain ⟨k', hk', hsets⟩ := hs f hf
      exact ⟨k', List.mem_append_left _ hk', hsets⟩
  | createDisputeThrows => exact he.elim
  | reply i r =>
    obtain ⟨k, hk, rfl⟩ := Option.map_eq_some_iff.1 h
    intro f hf
    rw [flag_replied, Bool.and_eq_true, decide_eq_true_iff] at hf
    obtain ⟨hset, hclears⟩ := hf
    have hflag : s.flag f = true := by cases f <;> exact hset
    obtain ⟨k', hk', hsets⟩ := hs f hflag
    rcases mem_eraseIdx_or_eq hk' hk with rfl | hrest
    · exact absurd ((settles_iff k' r f).1 (he k' hk f hsets)) hclears
    · rw [replied_inFlight]
      exact ⟨k', List.mem_append_left _ hrest, hsets⟩

/-- It is enough that every handler clears the flag of its own request. -/
theorem idle_of_tidy {es : List Event} {s : State} (hes : machine.Meets StepTidy es)
    (h : machine.run es = some s) : Idle s := by
  have hawaited : Awaited s := by
    refine machine.invariant ?_ (fun s e t hs he hst => awaited_step hs he hst) hes h
    intro f hf
    cases f <;> simp [machine, send, Kind.sets, State.flag] at hf
  rw [idle_iff_flag]
  intro hnil f
  refine Bool.eq_false_iff.2 fun hf => ?_
  obtain ⟨k, hk, -⟩ := hawaited f hf
  rw [hnil] at hk
  exact List.not_mem_nil hk

end ActivityFlags
