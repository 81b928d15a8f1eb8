import Taskbot.Async.Machine

/-!
# One machine refines another

A screen keeps, among much else, a part of a state that another machine describes on its
own.  It refines that machine when every event of the screen, translated, does the same to
that part there.

* `traceFrom` — the events of a run, translated.
* `Refines` — the simulation, with a relation between the states.
* `Refines.run` — **a run, translated, is a run of the other machine, and ends in related
  states.**
* `Refines.invariant` — what holds after every run of the other machine holds of the one.
* `Refines.meets` — a condition on the events, carried over with them.
* `runFrom_map` — events of the other machine that the one can follow.
* `getElem?_filterMap`, `eraseIdx_filterMap` — the requests in flight that the other machine
  knows of, when one of them is answered.
-/

namespace Async

namespace Machine

variable {σ ε τ δ : Type*} (m : Machine σ ε) {n : Machine τ δ}

/-- The events from a state on, translated. -/
def traceFrom (f : σ → ε → List δ) (s : σ) : List ε → List δ
  | [] => []
  | e :: es => f s e ++ (m.step s e).elim [] fun t => traceFrom f t es

/-- The events of a run, translated, after those that lead to its start. -/
def trace (start : List δ) (f : σ → ε → List δ) (es : List ε) : List δ :=
  start ++ m.traceFrom f m.init es

variable {m}

/-- Each event of `m`, translated, does to related states the same in `n`. -/
structure Refines (m : Machine σ ε) (n : Machine τ δ) (R : σ → τ → Prop) (start : List δ)
    (f : σ → ε → List δ) : Prop where
  init : ∃ u, n.run start = some u ∧ R m.init u
  step : ∀ {s e t u}, R s u → m.step s e = some t → ∃ v, n.runFrom u (f s e) = some v ∧ R t v

/-- A condition met by some events in a row. -/
theorem meetsFrom_append {ok : σ → ε → Prop} {s : σ} {es fs : List ε} :
    m.MeetsFrom ok s (es ++ fs) ↔
      m.MeetsFrom ok s es ∧ ∀ t, m.runFrom s es = some t → m.MeetsFrom ok t fs := by
  induction es generalizing s with
  | nil => simp [MeetsFrom]
  | cons e es ih =>
    simp only [List.cons_append, MeetsFrom, runFrom_cons, ih, Option.bind_eq_some_iff,
      Option.mem_def]
    constructor
    · rintro ⟨he, hes⟩
      refine ⟨⟨he, fun t ht => (hes t ht).1⟩, ?_⟩
      rintro u ⟨t, ht, htu⟩
      exact (hes t ht).2 u htu
    · rintro ⟨⟨he, hes⟩, hfs⟩
      exact ⟨he, fun t ht => ⟨hes t ht, fun u hu => hfs u ⟨t, ht, hu⟩⟩⟩

/-- A condition that events meet in any state. -/
theorem meetsFrom_of_forall {ok : σ → ε → Prop} {es : List ε} (hok : ∀ e ∈ es, ∀ s, ok s e)
    (s : σ) : m.MeetsFrom ok s es := by
  induction es generalizing s with
  | nil => trivial
  | cons e es ih =>
    obtain ⟨he, hes⟩ := List.forall_mem_cons.1 hok
    exact ⟨he s, fun t _ => ih hes t⟩

theorem runFrom_singleton {u v : τ} {d : δ} (h : n.step u d = some v) :
    n.runFrom u [d] = some v := by
  rw [n.runFrom_cons_of_step h, n.runFrom_nil]

namespace Refines

variable {R : σ → τ → Prop} {start : List δ} {f : σ → ε → List δ}

/-- Some events in a row. -/
theorem runFrom (h : Refines m n R start f) {es : List ε} {s t : σ} {u : τ} (hR : R s u)
    (hs : m.runFrom s es = some t) :
    ∃ v, n.runFrom u (m.traceFrom f s es) = some v ∧ R t v := by
  induction es generalizing s u with
  | nil =>
    cases hs
    exact ⟨u, rfl, hR⟩
  | cons e es ih =>
    rw [m.runFrom_cons, Option.bind_eq_some_iff] at hs
    obtain ⟨s', hs', hst⟩ := hs
    obtain ⟨u', hu', hR'⟩ := h.step hR hs'
    obtain ⟨v, hv, hRv⟩ := ih hR' hst
    refine ⟨v, ?_, hRv⟩
    rw [traceFrom, hs', Option.elim_some, n.runFrom_append, hu', Option.bind_some, hv]

/-- **Every run, translated, is a run.** -/
theorem run (h : Refines m n R start f) {es : List ε} {s : σ} (hs : m.run es = some s) :
    ∃ u, n.run (m.trace start f es) = some u ∧ R s u := by
  obtain ⟨u, hu, hR⟩ := h.init
  obtain ⟨v, hv, hRv⟩ := h.runFrom hR hs
  refine ⟨v, ?_, hRv⟩
  rw [trace, Machine.run, n.runFrom_append, ← Machine.run, hu, Option.bind_some, hv]

/-- What holds after every run of the other machine. -/
theorem invariant (h : Refines m n R start f) {I : List δ → τ → Prop}
    (hI : ∀ ds u, n.run ds = some u → I ds u) {es : List ε} {s : σ} (hs : m.run es = some s) :
    ∃ u, R s u ∧ I (m.trace start f es) u := by
  obtain ⟨u, hu, hR⟩ := h.run hs
  exact ⟨u, hR, hI _ u hu⟩

/-- A condition that the events of `m` meet makes their translations meet another one. -/
theorem meetsFrom (h : Refines m n R start f) {okm : σ → ε → Prop} {okn : τ → δ → Prop}
    (hok : ∀ {s e t u}, R s u → m.step s e = some t → okm s e → n.MeetsFrom okn u (f s e))
    {es : List ε} {s t : σ} {u : τ} (hR : R s u) (hs : m.runFrom s es = some t)
    (hes : m.MeetsFrom okm s es) : n.MeetsFrom okn u (m.traceFrom f s es) := by
  induction es generalizing s u with
  | nil => trivial
  | cons e es ih =>
    rw [m.runFrom_cons, Option.bind_eq_some_iff] at hs
    obtain ⟨s', hs', hst⟩ := hs
    obtain ⟨u', hu', hR'⟩ := h.step hR hs'
    rw [traceFrom, hs', Option.elim_some, n.meetsFrom_append]
    refine ⟨hok hR hs' hes.1, fun v hv => ?_⟩
    cases hu'.symm.trans hv
    exact ih hR' hst (hes.2 s' hs')

theorem meets (h : Refines m n R [] f) {okm : σ → ε → Prop} {okn : τ → δ → Prop}
    (hok : ∀ {s e t u}, R s u → m.step s e = some t → okm s e → n.MeetsFrom okn u (f s e))
    {es : List ε} {s : σ} (hs : m.run es = some s) (hes : m.Meets okm es) :
    n.Meets okn (m.trace [] f es) := by
  obtain ⟨u, hu, hR⟩ := h.init
  cases hu
  exact h.meetsFrom hok hR hs hes

end Refines

/-- Some events of the other machine, followed by the one. -/
theorem runFrom_map {R : σ → τ → Prop} {g : δ → ε} {Ok : δ → Prop}
    (hback : ∀ {s u d v}, R s u → Ok d → n.step u d = some v →
      ∃ t, m.step s (g d) = some t ∧ R t v)
    {ds : List δ} {s : σ} {u v : τ} (hR : R s u) (hds : ∀ d ∈ ds, Ok d)
    (hu : n.runFrom u ds = some v) : ∃ t, m.runFrom s (ds.map g) = some t ∧ R t v := by
  induction ds generalizing s u with
  | nil =>
    cases hu
    exact ⟨s, rfl, hR⟩
  | cons d ds ih =>
    rw [n.runFrom_cons, Option.bind_eq_some_iff] at hu
    obtain ⟨u', hu', huv⟩ := hu
    obtain ⟨hd, hds⟩ := List.forall_mem_cons.1 hds
    obtain ⟨s', hs', hR'⟩ := hback hR hd hu'
    rw [List.map_cons, m.runFrom_cons_of_step hs']
    exact ih hR' hds huv

end Machine

/-! ## Requests that both know of -/

variable {ρ β : Type*} {f : ρ → Option β} {l : List ρ} {i : ℕ} {y : ρ} {b : β}

/-- The place of a request among those that the other machine knows of. -/
def placeOf (f : ρ → Option β) (l : List ρ) (i : ℕ) : ℕ := ((l.take i).filterMap f).length

theorem getElem?_filterMap (h : l[i]? = some y) (hy : f y = some b) :
    (l.filterMap f)[placeOf f l i]? = some b := by
  induction l generalizing i with
  | nil => simp at h
  | cons x l ih =>
    cases i with
    | zero =>
      obtain rfl : x = y := by simpa using h
      simp [placeOf, hy]
    | succ i =>
      have hrest := ih (i := i) (by simpa using h)
      cases hx : f x <;> simpa [placeOf, hx] using hrest

theorem eraseIdx_filterMap (h : l[i]? = some y) (hy : f y = some b) :
    (l.filterMap f).eraseIdx (placeOf f l i) = (l.eraseIdx i).filterMap f := by
  induction l generalizing i with
  | nil => simp at h
  | cons x l ih =>
    cases i with
    | zero =>
      obtain rfl : x = y := by simpa using h
      simp [placeOf, hy]
    | succ i =>
      have hrest := ih (i := i) (by simpa using h)
      cases hx : f x <;> simpa [placeOf, hx] using hrest

end Async
