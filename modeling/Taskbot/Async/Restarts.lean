import Taskbot.Async.Machine

/-!
# Restarts

A program saves its state now and then, and when it is started again it goes on from what was
saved last.  A part of the state is not saved, the requests on their way for instance.

* `Lifecycle`, `withRestarts` — a machine that is saved and restarted at any time; `boot`
  makes the state of a new start of the one that was saved, and of the last one for what is
  only a history.
* `Survives` — a new start can be told from the state that was saved by nothing that the
  machine does from there on.
* `Survives.run` — **what is reached with restarts is reached without**, by some of the events
  in their order.
* `meets_iff_restarts` — when a property is kept by a new start, the runs that keep it
  throughout are those whose events meet the condition that keeps it.
-/

namespace Async

/-- What happens to a program: an event, a save, a restart. -/
inductive Lifecycle (ε : Type*) where
  | event (e : ε)
  | save
  | restart

/-- The state of now, and the one that was saved last. -/
structure Saved (σ : Type*) where
  live : σ
  saved : σ

namespace Machine

variable {σ ε : Type*} (m : Machine σ ε) (boot : σ → σ → σ)

/-- One event, a save or a restart. -/
def stepSaved (s : Saved σ) : Lifecycle ε → Option (Saved σ)
  | .event e => (m.step s.live e).map fun t => { s with live := t }
  | .save => some { s with saved := s.live }
  | .restart => some { s with live := boot s.saved s.live }

/-- The machine with saves and restarts, from its first start on. -/
def withRestarts : Machine (Saved σ) (Lifecycle ε) := ⟨⟨m.init, m.init⟩, m.stepSaved boot⟩

variable {m boot}

/-! ## What restarts can reach -/

/-- `R s u`: the machine can do in `u` whatever it can in `s`, an event `e` by the events
`f s u e`; and so it can after a new start from `s`. -/
structure Survives (m : Machine σ ε) (boot : σ → σ → σ) (R : σ → σ → Prop) (f : σ → σ → ε → ε) :
    Prop where
  init : R m.init m.init
  step : ∀ {s e t u}, R s u → m.step s e = some t → ∃ v, m.step u (f s u e) = some v ∧ R t v
  boot : ∀ {s u} live, R s u → R (boot s live) u

/-- A state is reached, up to `R`, by a run of some of the events that happened, in their
order, each as the machine does it there. -/
def ReachedBySome (m : Machine σ ε) (R : σ → σ → Prop) (f : σ → σ → ε → ε)
    (ls : List (Lifecycle ε)) (s : σ) : Prop :=
  ∃ es ds u, (es.map .event).Sublist ls ∧ List.Forall₂ (fun e d => ∃ s u, d = f s u e) es ds ∧
    m.run ds = some u ∧ R s u

variable {R : σ → σ → Prop} {f : σ → σ → ε → ε} {ls : List (Lifecycle ε)} {s t : σ}

theorem ReachedBySome.mono (h : ReachedBySome m R f ls s) (l : Lifecycle ε) :
    ReachedBySome m R f (ls ++ [l]) s := by
  obtain ⟨es, ds, u, hes, hds, hu⟩ := h
  exact ⟨es, ds, u, hes.trans (List.sublist_append_left ls [l]), hds, hu⟩

/-- One more event. -/
theorem ReachedBySome.event (hsurvives : Survives m boot R f) (h : ReachedBySome m R f ls s)
    {e : ε} (hstep : m.step s e = some t) : ReachedBySome m R f (ls ++ [.event e]) t := by
  obtain ⟨es, ds, u, hes, hds, hu, hR⟩ := h
  obtain ⟨v, hv, hRv⟩ := hsurvives.step hR hstep
  refine ⟨es ++ [e], ds ++ [f s u e], v, ?_, ?_, m.run_concat_eq_some.2 ⟨u, hu, hv⟩, hRv⟩
  · simpa using hes.append_right [.event e]
  · exact List.rel_append hds (List.Forall₂.cons ⟨s, u, rfl⟩ List.Forall₂.nil)

/-- A new start. -/
theorem ReachedBySome.restart (hsurvives : Survives m boot R f) (h : ReachedBySome m R f ls s)
    (live : σ) : ReachedBySome m R f ls (boot s live) := by
  obtain ⟨es, ds, u, hes, hds, hu, hR⟩ := h
  exact ⟨es, ds, u, hes, hds, hu, hsurvives.boot live hR⟩

/-- **With restarts nothing new is reached.** -/
theorem Survives.run (h : Survives m boot R f) {s : Saved σ}
    (hs : (m.withRestarts boot).run ls = some s) :
    ReachedBySome m R f ls s.live ∧ ReachedBySome m R f ls s.saved := by
  induction ls using List.reverseRecOn generalizing s with
  | nil =>
    cases hs
    have hnone : ReachedBySome m R f [] m.init :=
      ⟨[], [], _, List.Sublist.slnil, List.Forall₂.nil, rfl, h.init⟩
    exact ⟨hnone, hnone⟩
  | append_singleton ls l ih =>
    obtain ⟨t, ht, hts⟩ := (m.withRestarts boot).run_concat_eq_some.1 hs
    obtain ⟨hlive, hsaved⟩ := ih ht
    cases l with
    | event e =>
      obtain ⟨u, hu, rfl⟩ := Option.map_eq_some_iff.1 hts
      exact ⟨hlive.event h hu, hsaved.mono _⟩
    | save =>
      cases hts
      exact ⟨hlive.mono _, hlive.mono _⟩
    | restart =>
      cases hts
      exact ⟨(hsaved.restart h t.live).mono _, hsaved.mono _⟩

/-! ## What restarts keep -/

/-- The condition on the events, whatever was saved. -/
def liftOk (ok : σ → ε → Prop) (s : Saved σ) : Lifecycle ε → Prop
  | .event e => ok s.live e
  | .save | .restart => True

instance (ok : σ → ε → Prop) [∀ s e, Decidable (ok s e)] (s : Saved σ) :
    ∀ l, Decidable (liftOk ok s l)
  | .event e => inferInstanceAs (Decidable (ok s.live e))
  | .save | .restart => isTrue trivial

/-- **A property that a new start keeps** is had throughout a run exactly when its events meet
the condition that keeps it. -/
theorem meets_iff_restarts {I : σ → Prop} {ok : σ → ε → Prop} (h0 : I m.init)
    (hboot : ∀ s live, I s → I live → I (boot s live))
    (hstep : ∀ s e t, I s → m.step s e = some t → (ok s e ↔ I t)) {s : Saved σ}
    (hs : (m.withRestarts boot).run ls = some s) :
    (m.withRestarts boot).Meets (liftOk ok) ls ↔
      ∀ fs, fs <+: ls → ∀ t, (m.withRestarts boot).run fs = some t → I t.live := by
  have hboth : ∀ t e t', I t.live ∧ I t.saved → (m.withRestarts boot).step t e = some t' →
      (liftOk ok t e ↔ I t'.live) ∧ I t'.saved := by
    rintro t e t' ⟨hlive, hsaved⟩ h
    cases e with
    | event e =>
      obtain ⟨u, hu, rfl⟩ := Option.map_eq_some_iff.1 h
      exact ⟨hstep t.live e u hlive hu, hsaved⟩
    | save =>
      cases h
      exact ⟨iff_of_true trivial hlive, hlive⟩
    | restart =>
      cases h
      exact ⟨iff_of_true trivial (hboot t.saved t.live hsaved hlive), hsaved⟩
  -- what was saved has the property as long as the run does
  exact (m.withRestarts boot).meets_iff_of_invariant (I := fun _ t => I t.live)
    (J := fun t => I t.live ∧ I t.saved) h0 ⟨h0, h0⟩
    (fun t e t' hJ hok h => ⟨(hboth t e t' hJ h).1.1 hok, (hboth t e t' hJ h).2⟩)
    (fun _ t e t' _ hJ _ h => (hboth t e t' hJ h).1) hs

end Machine

end Async
