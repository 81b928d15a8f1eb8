import Mathlib
import Taskbot.Async.Machine

/-!
# The payout history

The screen `PayoutHistory` asks for the payouts under a filter when it is opened and each
time a filter is chosen.  The list and the flag for the picture that there are none are two
states: a choice resets the flag, an empty reply sets it, and the list is that of the reply
that came last.

* `State`, `step` — the screen and its requests, which are answered in any order.
* `Shows` — the payouts under the selected filter, with the picture if there are none.
* `payouts_iff` — **the screen shows them whenever nothing is outstanding exactly when each
  time the last reply has them, and does not find the flag set by an empty one before.**
-/

namespace PayoutHistory

variable {α : Type}

/-- The screen, and the filters of the requests on their way. -/
structure State (α : Type) where
  loader : Bool
  noRecord : Bool
  /-- `selectedSortType.toString()`. -/
  selectedSortType : String
  payoutHistory : List α
  inFlight : List String
  deriving DecidableEq

/-- What can happen: a filter is chosen, and the request at place `i` is answered. -/
inductive Event where
  | getPayoutFilter (value : String)
  | reply (i : ℕ)
  deriving DecidableEq

/-- `getPayoutHistory`, up to the request. -/
def getPayoutHistory (s : State α) : State α :=
  { s with loader := true, inFlight := s.inFlight ++ [s.selectedSortType] }

/-- `getPayoutFilter`.  What is chosen is a new array even when it has the key of the one
before, so that the effect runs. -/
def getPayoutFilter (value : String) (s : State α) : State α :=
  getPayoutHistory { s with noRecord := false, selectedSortType := value }

/-- The reply handler. -/
def handlePayout (payout : List α) (s : State α) : State α :=
  if payout.length < 1 then
    { s with loader := false, noRecord := true, payoutHistory := payout }
  else { s with loader := false, payoutHistory := payout }

/-- One event; the server has the list `payout f` for the filter `f`. -/
def step (payout : String → List α) (s : State α) : Event → Option (State α)
  | .getPayoutFilter value => some (getPayoutFilter value s)
  | .reply i =>
    s.inFlight[i]?.map fun sort_by =>
      handlePayout (payout sort_by) { s with inFlight := s.inFlight.eraseIdx i }

/-- The screen just opened. -/
def machine (payout : String → List α) : Async.Machine (State α) Event where
  init := getPayoutHistory
    { loader := false
      noRecord := false
      selectedSortType := ""
      payoutHistory := []
      inFlight := [] }
  step := step payout

/-! ## What a reply does -/

@[simp] theorem payoutHistory_handlePayout (payout : List α) (s : State α) :
    (handlePayout payout s).payoutHistory = payout := by
  unfold handlePayout
  split <;> rfl

@[simp] theorem selectedSortType_handlePayout (payout : List α) (s : State α) :
    (handlePayout payout s).selectedSortType = s.selectedSortType := by
  unfold handlePayout
  split <;> rfl

@[simp] theorem inFlight_handlePayout (payout : List α) (s : State α) :
    (handlePayout payout s).inFlight = s.inFlight := by
  unfold handlePayout
  split <;> rfl

/-- An empty reply sets the flag, and no reply resets it. -/
theorem noRecord_handlePayout (payout : List α) (s : State α) :
    (handlePayout payout s).noRecord = true ↔ payout = [] ∨ s.noRecord = true := by
  have hlength : payout.length < 1 ↔ payout = [] := by
    rw [Nat.lt_one_iff, List.length_eq_zero_iff]
  unfold handlePayout
  split
  · next hempty => exact iff_of_true rfl (Or.inl (hlength.1 hempty))
  · next hsome => exact (or_iff_right (mt hlength.2 hsome)).symm

/-! ## When the screen is right -/

/-- The property: when nothing is outstanding, the payouts are those under the selected
filter, and the picture is shown exactly when there are none. -/
def Shows (payout : String → List α) (s : State α) : Prop :=
  s.inFlight = [] → s.payoutHistory = payout s.selectedSortType ∧
    (s.noRecord = true ↔ payout s.selectedSortType = [])

/-- What a step must meet: the last reply that is outstanding has the payouts under the
selected filter, and finds the flag reset when it has any. -/
def ReplyOk (payout : String → List α) (s : State α) : Event → Prop
  | .getPayoutFilter _ => True
  | .reply i => s.inFlight.length = 1 → ∀ sort_by ∈ s.inFlight[i]?,
      payout sort_by = payout s.selectedSortType ∧
        (payout sort_by ≠ [] → s.noRecord = false)

instance [DecidableEq α] (payout : String → List α) (s : State α) :
    (e : Event) → Decidable (ReplyOk payout s e)
  | .getPayoutFilter _ => isTrue trivial
  | .reply i => inferInstanceAs (Decidable (s.inFlight.length = 1 → ∀ sort_by ∈ s.inFlight[i]?,
      payout sort_by = payout s.selectedSortType ∧
        (payout sort_by ≠ [] → s.noRecord = false)))

/-- **One step.** -/
theorem replyOk_iff {payout : String → List α} {s t : State α} {e : Event}
    (h : step payout s e = some t) : ReplyOk payout s e ↔ Shows payout t := by
  cases e with
  | getPayoutFilter value =>
    cases h
    refine iff_of_true trivial fun hnone => ?_
    exact absurd hnone (List.append_ne_nil_of_right_ne_nil _ (List.cons_ne_nil _ _))
  | reply i =>
    obtain ⟨sort_by, hq, rfl⟩ := Option.map_eq_some_iff.1 h
    have hlast : s.inFlight.eraseIdx i = [] ↔ s.inFlight.length = 1 :=
      Async.eraseIdx_eq_nil_iff hq
    have hflag : (payout sort_by = [] ∨ s.noRecord = true ↔ payout sort_by = []) ↔
        (payout sort_by ≠ [] → s.noRecord = false) := by
      rw [or_iff_left_iff_imp, ← not_imp_not, Bool.not_eq_true]
    simp only [ReplyOk, Shows, inFlight_handlePayout, payoutHistory_handlePayout,
      selectedSortType_handlePayout, noRecord_handlePayout, hq, hlast, Option.mem_some_iff,
      forall_eq']
    refine imp_congr_right fun _ => and_congr_right fun hpayout => ?_
    rw [← hpayout, hflag]

/-- **When the screen is right.**  For every server, in a run of any choices and of replies
in any order: throughout, when nothing is outstanding the payouts held are those under the
selected filter, and the picture is shown exactly when there are none, if and only if each
time the last reply has these payouts, and if there are any, no empty reply has come since
the choice. -/
theorem payouts_iff {payout : String → List α} {es : List Event} {s : State α}
    (h : (machine payout).run es = some s) :
    (machine payout).Meets (ReplyOk payout) es ↔
      ∀ fs, fs <+: es → ∀ t, (machine payout).run fs = some t → Shows payout t := by
  have hinit : Shows payout (machine payout).init := fun hnone => absurd hnone (by simp [machine,
    getPayoutHistory])
  exact (machine payout).meets_iff (I := fun _ => Shows payout) hinit
    (fun _ _ _ _ _ _ hst => replyOk_iff hst) h

/-- A server with one payout, which is pending. -/
def onePending (sort_by : String) : List ℕ := if sort_by = "publish" then [] else [1]

/-- The approved payouts are chosen, of which there are none, and the others again. -/
theorem payouts_iff_sample :
    ∃ s, (machine onePending).run [.reply 0, .getPayoutFilter "publish", .reply 0,
        .getPayoutFilter "pending", .reply 0] = some s ∧ Shows onePending s := by
  have hok : (machine onePending).Meets (ReplyOk onePending) [.reply 0,
      .getPayoutFilter "publish", .reply 0, .getPayoutFilter "pending", .reply 0] := by decide
  exact ⟨_, rfl, (payouts_iff rfl).1 hok _ List.prefix_rfl _ rfl⟩

/-- **The picture hides a payout.**  The filter is changed twice before the first two
replies come: the empty one of the filter between sets the flag, and the last reply, which
has a payout, leaves it set. -/
theorem picture_stays :
    ∃ s, (machine onePending).run [.getPayoutFilter "publish", .getPayoutFilter "pending",
        .reply 0, .reply 0, .reply 0] = some s ∧
      s.inFlight = [] ∧ s.payoutHistory = onePending "pending" ∧
      onePending "pending" = [1] ∧ s.noRecord = true :=
  ⟨_, rfl, rfl, rfl, rfl, rfl⟩

end PayoutHistory
