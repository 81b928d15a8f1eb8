import Mathlib.Data.List.Induction
import Mathlib.Data.List.Perm.Basic

/-!
# Event-driven machines and their runs

A screen that waits for taps and for the replies of a server is a machine that
is given one event after another.  This file is about such machines in general:
it names no screen and no server.

* `Machine` — a start state and a step function; an event the state does not
  allow (a button that is not drawn, a reply nobody is waiting for) has no step.
* `runFrom`, `run` — a whole sequence of events; `run_concat` splits off the
  last one.
* `MeetsFrom`, `Meets` — a sequence of events each of which satisfies a
  condition in the state it arrives in.
* `invariant` — **the induction, once and for all**: what holds at the start and
  is kept by every step that meets the condition holds after every run whose
  steps meet it.
* `meets_iff_forall`, `meets_and` — the same condition, said of every event of the run; two
  conditions at once.
* `meets_of_forall`, `meets_iff`, `meets_iff_of_invariant`, `meets_iff_last` — the ways
  back, from the property to the condition; `meets_iff_of_events`, when it is a property of
  some of the steps.
* `run_filter` — a run with some of its events left out.
* `perm_cons_eraseIdx`, `mem_eraseIdx_or_eq`, `eraseIdx_eq_nil_iff` — the list of requests
  in flight when one of them, any of them, is answered.
-/

namespace Async

/-- A machine driven by events. -/
structure Machine (σ ε : Type*) where
  /-- The state before any event. -/
  init : σ
  /-- The state after an event, `none` when the state does not allow it. -/
  step : σ → ε → Option σ

namespace Machine

variable {σ ε : Type*} (m : Machine σ ε)

/-! ## Runs -/

/-- The state after a sequence of events, `none` as soon as one is not allowed. -/
def runFrom (s : σ) : List ε → Option σ
  | [] => some s
  | e :: es => (m.step s e).bind fun t => runFrom t es

/-- A run from the start state. -/
def run (es : List ε) : Option σ := m.runFrom m.init es

@[simp] theorem runFrom_nil (s : σ) : m.runFrom s [] = some s := rfl

theorem runFrom_cons (s : σ) (e : ε) (es : List ε) :
    m.runFrom s (e :: es) = (m.step s e).bind fun t => m.runFrom t es := rfl

theorem runFrom_cons_of_step {s t : σ} {e : ε} (h : m.step s e = some t) (es : List ε) :
    m.runFrom s (e :: es) = m.runFrom t es := by
  rw [runFrom_cons, h, Option.bind_some]

theorem runFrom_append (s : σ) (es fs : List ε) :
    m.runFrom s (es ++ fs) = (m.runFrom s es).bind fun t => m.runFrom t fs := by
  induction es generalizing s with
  | nil => rfl
  | cons e es ih =>
    rw [List.cons_append, runFrom_cons, runFrom_cons]
    cases m.step s e with
    | none => rfl
    | some t => exact ih t

@[simp] theorem run_nil : m.run [] = some m.init := rfl

/-- The last event of a run, split off. -/
theorem run_concat (es : List ε) (e : ε) :
    m.run (es ++ [e]) = (m.run es).bind fun t => m.step t e := by
  rw [run, runFrom_append, run]
  congr 1
  funext t
  rw [runFrom_cons]
  cases m.step t e <;> rfl

theorem run_concat_eq_some {es : List ε} {e : ε} {u : σ} :
    m.run (es ++ [e]) = some u ↔ ∃ t, m.run es = some t ∧ m.step t e = some u := by
  rw [run_concat, Option.bind_eq_some_iff]

/-- A run has been through all its beginnings. -/
theorem exists_run_of_prefix {es fs : List ε} {s : σ} (h : m.run es = some s)
    (hfs : fs <+: es) : ∃ t, m.run fs = some t := by
  obtain ⟨rest, rfl⟩ := hfs
  rw [run, runFrom_append, Option.bind_eq_some_iff] at h
  obtain ⟨t, ht, -⟩ := h
  exact ⟨t, ht⟩

/-! ## Runs whose steps meet a condition -/

variable (ok : σ → ε → Prop)

/-- Every event of the sequence satisfies the condition in the state it
arrives in. -/
def MeetsFrom (s : σ) : List ε → Prop
  | [] => True
  | e :: es => ok s e ∧ ∀ t ∈ m.step s e, MeetsFrom t es

/-- A sequence of events from the start state, each meeting the condition. -/
def Meets (es : List ε) : Prop := m.MeetsFrom ok m.init es

/-- The condition of a concrete run can be checked by running it. -/
instance decidableMeetsFrom [∀ s e, Decidable (ok s e)] :
    ∀ (s : σ) (es : List ε), Decidable (m.MeetsFrom ok s es)
  | _, [] => isTrue trivial
  | s, e :: es =>
    match h : m.step s e with
    | none => decidable_of_iff (ok s e) (by simp [MeetsFrom, h])
    | some t =>
      have := decidableMeetsFrom t es
      decidable_of_iff (ok s e ∧ m.MeetsFrom ok t es) (by simp [MeetsFrom, h])

instance decidableMeets [∀ s e, Decidable (ok s e)] (es : List ε) :
    Decidable (m.Meets ok es) :=
  m.decidableMeetsFrom ok m.init es

variable {ok}

theorem meetsFrom_concat {s : σ} {es : List ε} {e : ε} :
    m.MeetsFrom ok s (es ++ [e]) ↔
      m.MeetsFrom ok s es ∧ ∀ t, m.runFrom s es = some t → ok t e := by
  induction es generalizing s with
  | nil => simp [MeetsFrom]
  | cons d ds ih =>
    rw [List.cons_append]
    simp only [MeetsFrom, runFrom_cons, ih, Option.bind_eq_some_iff, Option.mem_def]
    constructor
    · rintro ⟨hd, hds⟩
      refine ⟨⟨hd, fun u hu => (hds u hu).1⟩, ?_⟩
      rintro t ⟨u, hu, hut⟩
      exact (hds u hu).2 t hut
    · rintro ⟨⟨hd, hds⟩, he⟩
      exact ⟨hd, fun u hu => ⟨hds u hu, fun t hut => he t ⟨u, hu, hut⟩⟩⟩

theorem meets_concat {es : List ε} {e : ε} :
    m.Meets ok (es ++ [e]) ↔ m.Meets ok es ∧ ∀ t, m.run es = some t → ok t e :=
  m.meetsFrom_concat

/-- Meeting a condition, said of every event and the state it arrives in. -/
theorem meets_iff_forall {es : List ε} :
    m.Meets ok es ↔ ∀ fs e, fs ++ [e] <+: es → ∀ t, m.run fs = some t → ok t e := by
  induction es using List.reverseRecOn with
  | nil =>
    refine ⟨fun _ fs e hfs => ?_, fun _ => trivial⟩
    simp at hfs
  | append_singleton es d ih =>
    rw [m.meets_concat, ih]
    constructor
    · rintro ⟨hes, hd⟩ fs e hfs t ht
      rcases List.prefix_concat_iff.1 hfs with hlast | hfs
      · obtain ⟨rfl, rfl⟩ := List.append_singleton_inj.1 hlast
        exact hd t ht
      · exact hes fs e hfs t ht
    · intro hall
      refine ⟨fun fs e hfs => hall fs e (hfs.trans (List.prefix_append es [d])), ?_⟩
      exact hall es d List.prefix_rfl

/-- Two conditions at once. -/
theorem meets_and {ok' : σ → ε → Prop} {es : List ε} :
    m.Meets (fun s e => ok s e ∧ ok' s e) es ↔ m.Meets ok es ∧ m.Meets ok' es := by
  simp only [m.meets_iff_forall]
  constructor
  · intro h
    exact ⟨fun fs e hfs t ht => (h fs e hfs t ht).1, fun fs e hfs t ht => (h fs e hfs t ht).2⟩
  · rintro ⟨h, h'⟩ fs e hfs t ht
    exact ⟨h fs e hfs t ht, h' fs e hfs t ht⟩

/-- **Invariants.**  What holds of the start state and is kept by every step
that meets the condition holds after every run whose steps meet it. -/
theorem invariant {I : σ → Prop} (h0 : I m.init)
    (hstep : ∀ s e t, I s → ok s e → m.step s e = some t → I t)
    {es : List ε} {s : σ} (hok : m.Meets ok es) (h : m.run es = some s) : I s := by
  induction es using List.reverseRecOn generalizing s with
  | nil => cases h; exact h0
  | append_singleton es e ih =>
    obtain ⟨hes, he⟩ := m.meets_concat.1 hok
    obtain ⟨t, ht, hts⟩ := m.run_concat_eq_some.1 h
    exact hstep t e s (ih hes ht) (he t ht) hts

/-- Invariants of all runs, whatever their events. -/
theorem invariant_run {I : σ → Prop} (h0 : I m.init)
    (hstep : ∀ s e t, I s → m.step s e = some t → I t)
    {es : List ε} {s : σ} (h : m.run es = some s) : I s := by
  induction es using List.reverseRecOn generalizing s with
  | nil => cases h; exact h0
  | append_singleton es e ih =>
    obtain ⟨t, ht, hts⟩ := m.run_concat_eq_some.1 h
    exact hstep t e s (ih ht) hts

/-- **The way back.**  When a step between two states with a property must meet
the condition, every step of a run all of whose states have the property does. -/
theorem meets_of_forall {I : σ → Prop}
    (hstep : ∀ s e t, I s → m.step s e = some t → I t → ok s e)
    {es : List ε} {s : σ} (h : m.run es = some s)
    (hI : ∀ fs, fs <+: es → ∀ t, m.run fs = some t → I t) : m.Meets ok es := by
  induction es using List.reverseRecOn generalizing s with
  | nil => trivial
  | append_singleton es e ih =>
    obtain ⟨t, ht, hts⟩ := m.run_concat_eq_some.1 h
    refine m.meets_concat.2 ⟨ih ht fun fs hfs => hI fs (hfs.trans (List.prefix_append es [e])), ?_⟩
    intro t' ht'
    cases ht.symm.trans ht'
    exact hstep t e s (hI es (List.prefix_append es [e]) t ht) hts (hI _ List.prefix_rfl s h)

/-- **Both ways.**  When a step from a state with a property keeps it exactly when it
meets the condition, a run keeps the property throughout exactly when all its steps meet
it.  The property may speak of the events so far, and lean on an invariant `J` of the
steps that meet the condition. -/
theorem meets_iff_of_invariant {I : List ε → σ → Prop} {J : σ → Prop} (h0 : I [] m.init)
    (hJ0 : J m.init) (hJ : ∀ s e t, J s → ok s e → m.step s e = some t → J t)
    (hstep : ∀ es s e t, m.run es = some s → J s → I es s → m.step s e = some t →
      (ok s e ↔ I (es ++ [e]) t))
    {es : List ε} {s : σ} (h : m.run es = some s) :
    m.Meets ok es ↔ ∀ fs, fs <+: es → ∀ t, m.run fs = some t → I fs t := by
  induction es using List.reverseRecOn generalizing s with
  | nil =>
    refine ⟨fun _ fs hfs t ht => ?_, fun _ => trivial⟩
    obtain rfl := List.prefix_nil.1 hfs
    cases ht
    exact h0
  | append_singleton es e ih =>
    obtain ⟨t, ht, hts⟩ := m.run_concat_eq_some.1 h
    rw [m.meets_concat, ih ht]
    constructor
    · rintro ⟨hes, he⟩ fs hfs u hu
      rcases List.prefix_concat_iff.1 hfs with rfl | hfs
      · cases h.symm.trans hu
        have hJt : J t := m.invariant hJ0 hJ ((ih ht).2 hes) ht
        exact (hstep es t e s ht hJt (hes es List.prefix_rfl t ht) hts).1 (he t ht)
      · exact hes fs hfs u hu
    · intro hI
      have hes : ∀ fs, fs <+: es → ∀ u, m.run fs = some u → I fs u :=
        fun fs hfs => hI fs (hfs.trans (List.prefix_append es [e]))
      have hJt : J t := m.invariant hJ0 hJ ((ih ht).2 hes) ht
      refine ⟨hes, fun t' ht' => ?_⟩
      cases ht.symm.trans ht'
      exact (hstep es t e s ht hJt (hes es List.prefix_rfl t ht) hts).2
        (hI _ List.prefix_rfl s h)

/-- The same without an invariant to lean on. -/
theorem meets_iff {I : List ε → σ → Prop} (h0 : I [] m.init)
    (hstep : ∀ es s e t, m.run es = some s → I es s → m.step s e = some t →
      (ok s e ↔ I (es ++ [e]) t))
    {es : List ε} {s : σ} (h : m.run es = some s) :
    m.Meets ok es ↔ ∀ fs, fs <+: es → ∀ t, m.run fs = some t → I fs t :=
  m.meets_iff_of_invariant (J := fun _ => True) h0 trivial (fun _ _ _ _ _ _ => trivial)
    (fun es s e t hes _ => hstep es s e t hes) h

/-- When a property cannot come back once it is lost, the last state tells whether every
step has met the condition. -/
theorem meets_iff_last {I J : σ → Prop} (h0 : I m.init) (hJ0 : J m.init)
    (hJ : ∀ s e t, J s → m.step s e = some t → J t)
    (hstep : ∀ s e t, J s → m.step s e = some t → (I s ∧ ok s e ↔ I t))
    {es : List ε} {s : σ} (h : m.run es = some s) : m.Meets ok es ↔ I s := by
  induction es using List.reverseRecOn generalizing s with
  | nil =>
    cases h
    exact iff_of_true trivial h0
  | append_singleton es e ih =>
    obtain ⟨t, ht, hts⟩ := m.run_concat_eq_some.1 h
    rw [m.meets_concat, ih ht, ← hstep t e s (m.invariant_run hJ0 hJ ht) hts]
    refine and_congr_right fun _ => ⟨fun hok => hok t ht, fun hok t' ht' => ?_⟩
    cases ht.symm.trans ht'
    exact hok

/-- **Event by event.**  When the events of some family must meet the condition just in
order to do what they should, and all others meet it anyway, a run meets it exactly when
every event of the family does what it should. -/
theorem meets_iff_of_events {κ : Type*} (event : κ → ε) {P : κ → σ → σ → Prop} {J : σ → Prop}
    (hJ0 : J m.init) (hJ : ∀ s e t, J s → m.step s e = some t → J t)
    (hstep : ∀ k s t, J s → m.step s (event k) = some t → (ok s (event k) ↔ P k s t))
    (hother : ∀ s e, (∀ k, e ≠ event k) → ok s e)
    {es : List ε} {s : σ} (h : m.run es = some s) :
    m.Meets ok es ↔ ∀ fs k, fs ++ [event k] <+: es →
      ∀ t u, m.run fs = some t → m.run (fs ++ [event k]) = some u → P k t u := by
  have hevent : ∀ {fs k t u}, m.run fs = some t → m.run (fs ++ [event k]) = some u →
      (ok t (event k) ↔ P k t u) := by
    intro fs k t u ht hu
    obtain ⟨t', ht', htu⟩ := m.run_concat_eq_some.1 hu
    cases ht.symm.trans ht'
    exact hstep k t u (m.invariant_run hJ0 hJ ht) htu
  rw [m.meets_iff_forall]
  constructor
  · intro hok fs k hfs t u ht hu
    exact (hevent ht hu).1 (hok fs _ hfs t ht)
  · intro hP fs e hfs t ht
    by_cases he : ∃ k, e = event k
    · obtain ⟨k, rfl⟩ := he
      obtain ⟨u, hu⟩ := m.exists_run_of_prefix h hfs
      exact (hevent ht hu).2 (hP fs k hfs t u ht hu)
    · exact hother t e fun k hk => he ⟨k, hk⟩

/-- **Events left out.**  When the events that are kept do the same to related states, and
those that are not leave a state related to what it was, a run and the run of the kept
events end in related states. -/
theorem run_filter {R : σ → σ → Prop} {keep : ε → Bool} (h0 : R m.init m.init)
    (hkeep : ∀ s s' e t, R s s' → keep e = true → m.step s e = some t →
      ∃ t', m.step s' e = some t' ∧ R t t')
    (hdrop : ∀ s s' e t, R s s' → keep e = false → m.step s e = some t → R t s')
    {es : List ε} {s : σ} (h : m.run es = some s) :
    ∃ s', m.run (es.filter keep) = some s' ∧ R s s' := by
  induction es using List.reverseRecOn generalizing s with
  | nil =>
    cases h
    exact ⟨_, rfl, h0⟩
  | append_singleton es e ih =>
    obtain ⟨t, ht, hts⟩ := m.run_concat_eq_some.1 h
    obtain ⟨t', ht', hR⟩ := ih ht
    rw [List.filter_append]
    cases hkeeps : keep e with
    | true =>
      obtain ⟨s', hs', hRs⟩ := hkeep t t' e s hR hkeeps hts
      refine ⟨s', ?_, hRs⟩
      rw [List.filter_singleton, hkeeps]
      exact m.run_concat_eq_some.2 ⟨t', ht', hs'⟩
    | false =>
      refine ⟨t', ?_, hdrop t t' e s hR hkeeps hts⟩
      rw [List.filter_singleton, hkeeps]
      simpa using ht'

end Machine

/-! ## Requests in flight -/

variable {ρ : Type*}

/-- The requests in flight are the one that is answered and those that are left. -/
theorem perm_cons_eraseIdx {l : List ρ} {i : ℕ} {y : ρ} (h : l[i]? = some y) :
    (y :: l.eraseIdx i).Perm l := by
  obtain ⟨hi, rfl⟩ := List.getElem?_eq_some_iff.1 h
  exact List.getElem_cons_eraseIdx_perm hi

/-- A request in flight is still in flight after another one is answered. -/
theorem mem_eraseIdx_or_eq {l : List ρ} {i : ℕ} {x y : ρ} (hx : x ∈ l) (hy : l[i]? = some y) :
    x = y ∨ x ∈ l.eraseIdx i :=
  List.mem_cons.1 ((perm_cons_eraseIdx hy).mem_iff.2 hx)

/-- Answering a request puts no new one in flight. -/
theorem mem_of_eraseIdx {l : List ρ} {i : ℕ} {x : ρ} (h : x ∈ l.eraseIdx i) : x ∈ l :=
  List.mem_of_mem_eraseIdx h

/-- Answering a request leaves one less in flight. -/
theorem length_eraseIdx_add_one {l : List ρ} {i : ℕ} {y : ρ} (h : l[i]? = some y) :
    (l.eraseIdx i).length + 1 = l.length := by
  obtain ⟨hi, -⟩ := List.getElem?_eq_some_iff.1 h
  exact List.length_eraseIdx_add_one hi

/-- None is left exactly when the one answered was the only one. -/
theorem eraseIdx_eq_nil_iff {l : List ρ} {i : ℕ} {y : ρ} (h : l[i]? = some y) :
    l.eraseIdx i = [] ↔ l.length = 1 := by
  have hlen := length_eraseIdx_add_one h
  rw [← List.length_eq_zero_iff]
  omega

/-- What is asked by the requests left, when one that asks nothing of the kind is
answered. -/
theorem filterMap_eraseIdx_of_eq_none {β : Type*} {f : ρ → Option β} {l : List ρ} {i : ℕ} {y : ρ}
    (h : l[i]? = some y) (hy : f y = none) : (l.eraseIdx i).filterMap f = l.filterMap f := by
  induction l generalizing i with
  | nil => simp at h
  | cons x l ih =>
    cases i with
    | zero =>
      obtain rfl : x = y := by simpa using h
      simp [hy]
    | succ i =>
      have hrest := ih (i := i) (by simpa using h)
      simp [List.filterMap_cons, hrest]

/-- The number of requests that ask something, when one of them is answered. -/
theorem length_filterMap_eraseIdx {β : Type*} {f : ρ → Option β} {l : List ρ} {i : ℕ} {y : ρ}
    {b : β} (h : l[i]? = some y) (hy : f y = some b) :
    ((l.eraseIdx i).filterMap f).length + 1 = (l.filterMap f).length := by
  have hperm := (perm_cons_eraseIdx h).filterMap f
  rw [List.filterMap_cons_some hy] at hperm
  simpa using hperm.length_eq

end Async
