import Mathlib.Data.List.Induction
import Mathlib.Data.List.Perm.Basic

/-!
# Writes to cells

A state that is made of cells, and actions each of which overwrites one of them.  A reply
handler is a batch of such actions; several batches are handled one after the other, in
the order in which the replies come.

* `Cells` — the states, the cells, and the writes.
* `last`, `holds_writes` — a cell holds what was written to it last.
* `writes_eq_iff` — when two sequences of writes end in the same state.
* `Agree`, `anyOrder_iff` — **batches can be handled in any order exactly when any two
  of them write the same to the cells they both write.**
* `answered`, `exists_answered` — requests in flight, answered one after the other; every
  order is possible.
-/

namespace Async

/-- States of cells: `α` are the writes, and what a cell holds is given by the write that
would put it there. -/
structure Cells (σ κ α : Type*) where
  /-- The cell that is written. -/
  cell : α → κ
  write : σ → α → σ
  holds : σ → κ → α
  holds_write_self : ∀ s a, holds (write s a) (cell a) = a
  holds_write_of_ne : ∀ s a k, k ≠ cell a → holds (write s a) k = holds s k
  ext : ∀ s t, (∀ k, holds s k = holds t k) → s = t

namespace Cells

variable {σ κ α : Type*} [DecidableEq κ] (C : Cells σ κ α)

/-! ## Sequences of writes -/

/-- Some writes, one after the other. -/
def writes (s : σ) (l : List α) : σ := l.foldl C.write s

/-- What is written last to a cell. -/
def last (k : κ) (l : List α) : Option α := (l.filter fun a => C.cell a = k).getLast?

@[simp] theorem last_nil (k : κ) : C.last k [] = none := rfl

theorem last_append (k : κ) (l l' : List α) :
    C.last k (l ++ l') = (C.last k l').or (C.last k l) := by
  rw [last, List.filter_append, List.getLast?_append, last, last]

theorem last_concat (k : κ) (l : List α) (a : α) :
    C.last k (l ++ [a]) = if C.cell a = k then some a else C.last k l := by
  rw [last_append]
  by_cases h : C.cell a = k <;> simp [last, h]

/-- **A cell holds what was written to it last.** -/
theorem holds_writes (s : σ) (l : List α) (k : κ) :
    C.holds (C.writes s l) k = (C.last k l).getD (C.holds s k) := by
  induction l using List.reverseRecOn with
  | nil => rfl
  | append_singleton l a ih =>
    rw [writes, List.foldl_concat, last_concat]
    by_cases h : C.cell a = k
    · subst h
      rw [holds_write_self, if_pos rfl, Option.getD_some]
    · rw [holds_write_of_ne _ _ _ _ (Ne.symm h), if_neg h]
      exact ih

/-- Two sequences of writes end in the same state when every cell ends up the same. -/
theorem writes_eq_iff {s : σ} {l l' : List α} :
    C.writes s l = C.writes s l' ↔
      ∀ k, (C.last k l).getD (C.holds s k) = (C.last k l').getD (C.holds s k) := by
  simp only [← C.holds_writes]
  exact ⟨fun h k => by rw [h], fun h => C.ext _ _ h⟩

/-! ## Batches in any order -/

/-- Of several batches, the last one to write a cell decides. -/
theorem last_flatMap {ι : Type*} (batch : ι → List α) (k : κ) (l : List ι) :
    C.last k (l.flatMap batch) = (l.filterMap fun x => C.last k (batch x)).getLast? := by
  induction l using List.reverseRecOn with
  | nil => rfl
  | append_singleton l x ih =>
    rw [List.flatMap_append, List.flatMap_singleton, last_append, ih, List.filterMap_append,
      List.getLast?_append]
    cases h : C.last k (batch x) <;> simp [h]

/-- Two batches write the same to every cell they both write. -/
def Agree (b b' : List α) : Prop := ∀ k, ∀ a ∈ C.last k b, ∀ a' ∈ C.last k b', a = a'

variable {C}

theorem Agree.refl (b : List α) : C.Agree b b := by
  intro k a ha a' ha'
  exact Option.some.inj (ha.symm.trans ha')

theorem Agree.symm {b b' : List α} (h : C.Agree b b') : C.Agree b' b :=
  fun k a ha a' ha' => (h k a' ha' a ha).symm

variable (C)

/-- A list of equal things ends like any rearrangement of it. -/
private theorem getLast?_eq_of_perm {l l' : List α} (hperm : l'.Perm l)
    (hall : ∀ a ∈ l, ∀ a' ∈ l, a = a') : l'.getLast? = l.getLast? := by
  cases hlast : l.getLast? with
  | none =>
    rw [List.getLast?_eq_none_iff] at hlast ⊢
    exact (hlast ▸ hperm).eq_nil
  | some a =>
    cases hlast' : l'.getLast? with
    | none =>
      rw [List.getLast?_eq_none_iff] at hlast'
      subst hlast'
      rw [hperm.symm.eq_nil] at hlast
      cases hlast
    | some a' =>
      rw [hall a' (hperm.mem_iff.1 (List.mem_of_getLast? hlast')) a (List.mem_of_getLast? hlast)]

/-- Anything can be put last. -/
private theorem exists_perm_concat {β : Type*} {l : List β} {x : β} (hx : x ∈ l) :
    ∃ rest, (rest ++ [x]).Perm l := by
  obtain ⟨l, l', rfl⟩ := List.append_of_mem hx
  refine ⟨l ++ l', ?_⟩
  rw [List.append_assoc]
  exact (List.perm_append_singleton x l').append_left l

/-- **Any order.**  Batches end in the same state, in whatever order they are handled,
exactly when any two of them agree. -/
theorem anyOrder_iff {ι : Type*} (batch : ι → List α) (s : σ) (l : List ι) :
    (∀ l' : List ι, l'.Perm l →
        C.writes s (l'.flatMap batch) = C.writes s (l.flatMap batch)) ↔
      ∀ x ∈ l, ∀ y ∈ l, C.Agree (batch x) (batch y) := by
  constructor
  · intro h x hx y hy k a ha b hb
    -- with either batch handled last, its write is what the cell holds in the end
    have hlast : ∀ {z c}, z ∈ l → c ∈ C.last k (batch z) →
        C.holds (C.writes s (l.flatMap batch)) k = c := by
      intro z c hz hc
      obtain ⟨rest, hrest⟩ := exists_perm_concat hz
      rw [← h _ hrest, holds_writes, List.flatMap_append, List.flatMap_singleton, last_append, hc]
      rfl
    exact (hlast hx ha).symm.trans (hlast hy hb)
  · intro h l' hl'
    rw [writes_eq_iff]
    intro k
    rw [last_flatMap, last_flatMap, getLast?_eq_of_perm (hl'.filterMap _)]
    intro a ha b hb
    obtain ⟨x, hx, hxa⟩ := List.mem_filterMap.1 ha
    obtain ⟨y, hy, hyb⟩ := List.mem_filterMap.1 hb
    exact h x hx y hy k a hxa b hyb

end Cells

/-! ## Requests answered one after the other -/

variable {ρ β : Type*}

/-- The requests answered, with their answers: `(i, r)` answers the one at place `i` of
those still in flight. -/
def answered : List ρ → List (ℕ × β) → List (ρ × β)
  | _, [] => []
  | qs, (i, r) :: es =>
    match qs[i]? with
    | none => []
    | some q => (q, r) :: answered (qs.eraseIdx i) es

theorem answered_cons {qs : List ρ} {i : ℕ} {q : ρ} (h : qs[i]? = some q) (r : β)
    (es : List (ℕ × β)) :
    answered qs ((i, r) :: es) = (q, r) :: answered (qs.eraseIdx i) es := by
  rw [answered, h]

/-- Every place names a request that is still in flight. -/
def Places : List ρ → List (ℕ × β) → Prop
  | _, [] => True
  | qs, (i, _) :: es => i < qs.length ∧ Places (qs.eraseIdx i) es

/-- **Every order is possible.** -/
theorem exists_answered {qs : List ρ} {order : List (ρ × β)}
    (h : (order.map Prod.fst).Perm qs) :
    ∃ es, Places qs es ∧ answered qs es = order := by
  induction order generalizing qs with
  | nil => exact ⟨[], trivial, rfl⟩
  | cons p order ih =>
    obtain ⟨q, r⟩ := p
    have hmem : q ∈ qs := h.mem_iff.1 (by simp)
    obtain ⟨i, hi⟩ := List.mem_iff_getElem?.1 hmem
    have hrest : (order.map Prod.fst).Perm (qs.eraseIdx i) := by
      obtain ⟨hlt, rfl⟩ := List.getElem?_eq_some_iff.1 hi
      exact (h.trans (List.getElem_cons_eraseIdx_perm hlt).symm).cons_inv
    obtain ⟨es, hplaces, hes⟩ := ih hrest
    refine ⟨(i, r) :: es, ⟨(List.getElem?_eq_some_iff.1 hi).1, hplaces⟩, ?_⟩
    rw [answered_cons hi, hes]

end Async
