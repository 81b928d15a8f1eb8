import Mathlib
import Taskbot.Async.Machine

/-!
# The busy flag

A screen sets a flag when it sends a request and clears it when the reply comes
in.  Such a flag bounds the requests in flight only when the buttons look at it.

* `BusyFlag` — what the handlers do with the flag: sending sets it, and nothing
  but a reply clears it.
* `BusyFlag.inFlight_le_one` — **when no request is sent while the flag is set,
  there is never more than one in flight**, and the flag is set while there is.
-/

namespace Async

variable {σ ε : Type*}

/-- A flag kept along the requests of a machine; `inFlight` counts them and
`sends` tells the events that send one. -/
structure BusyFlag (m : Machine σ ε) (inFlight : σ → ℕ) (busy : σ → Prop)
    (sends : σ → ε → Prop) : Prop where
  /-- Nothing is in flight at the start. -/
  init : inFlight m.init = 0
  /-- An event that sends a request sets the flag. -/
  send : ∀ {s e t}, sends s e → m.step s e = some t → inFlight t = inFlight s + 1 ∧ busy t
  /-- Any other event answers a request, or leaves the requests alone and does not
  clear the flag. -/
  keep : ∀ {s e t}, ¬ sends s e → m.step s e = some t →
    inFlight t + 1 = inFlight s ∨ (inFlight t = inFlight s ∧ (busy s → busy t))

namespace BusyFlag

variable {m : Machine σ ε} {inFlight : σ → ℕ} {busy : σ → Prop} {sends : σ → ε → Prop}

/-- At most one request is in flight, and the flag is set while there is one. -/
def AtMostOne (inFlight : σ → ℕ) (busy : σ → Prop) (s : σ) : Prop :=
  inFlight s ≤ 1 ∧ (inFlight s ≠ 0 → busy s)

theorem atMostOne_step (h : BusyFlag m inFlight busy sends) {s t : σ} {e : ε}
    (hs : AtMostOne inFlight busy s) (hok : sends s e → ¬ busy s) (hstep : m.step s e = some t) :
    AtMostOne inFlight busy t := by
  by_cases hsend : sends s e
  · obtain ⟨hcount, hbusy⟩ := h.send hsend hstep
    have hzero : inFlight s = 0 := by
      by_contra hne
      exact hok hsend (hs.2 hne)
    exact ⟨by omega, fun _ => hbusy⟩
  · have hle := hs.1
    rcases h.keep hsend hstep with hcount | ⟨hcount, hbusy⟩
    · exact ⟨by omega, fun hne => absurd hcount (by omega)⟩
    · exact ⟨by omega, fun hne => hbusy (hs.2 (by omega))⟩

/-- **A flag that is looked at.**  In a run that sends nothing while the flag is
set, at most one request is in flight at any time. -/
theorem inFlight_le_one (h : BusyFlag m inFlight busy sends) {es : List ε} {s : σ}
    (hok : m.Meets (fun s e => sends s e → ¬ busy s) es) (hrun : m.run es = some s) :
    AtMostOne inFlight busy s := by
  refine m.invariant ⟨?_, ?_⟩ (fun _ _ _ => h.atMostOne_step) hok hrun
  · rw [h.init]
    exact Nat.zero_le 1
  · intro hne
    exact absurd h.init hne

end BusyFlag

end Async
