import Mathlib

/-!
# Removing an element by its place

`a.splice(i, 1)` removes the element at place `i` of an array, whatever it is by then,
and nothing when there is none: `List.eraseIdx`.  This file compares it with removing
the elements that have a key.

* `eraseIdx_eq_filter` — the two agree when the place holds an element with the key.
* `eraseIdx_eq_filter_iff` — **they agree if and only if it does, or neither the place
  nor the key is there.**
* `forall₂_eraseIdx` — two arrays related place by place stay so when a place of both is
  removed.
-/

namespace Js

variable {α κ : Type*} [DecidableEq κ] (key : α → κ)

/-- Removing a place removes just what has the key when the place holds it. -/
theorem eraseIdx_eq_filter {l : List α} (h : (l.map key).Nodup) {i : ℕ} {a : α}
    (ha : l[i]? = some a) : l.eraseIdx i = l.filter fun b => key b ≠ key a := by
  induction l generalizing i with
  | nil => simp at ha
  | cons b l ih =>
    rw [List.map_cons, List.nodup_cons] at h
    cases i with
    | zero =>
      obtain rfl : b = a := by simpa using ha
      have hrest : ∀ c ∈ l, key c ≠ key b := by
        intro c hc heq
        exact h.1 (heq ▸ List.mem_map_of_mem hc)
      simp only [List.eraseIdx_cons_zero, ne_eq, not_true_eq_false, decide_false, Bool.false_eq_true,
        not_false_eq_true, List.filter_cons_of_neg]
      exact (List.filter_eq_self.2 fun c hc => by simpa using hrest c hc).symm
    | succ i =>
      have ha' : l[i]? = some a := by simpa using ha
      have hne : key b ≠ key a := by
        intro heq
        exact h.1 (heq ▸ List.mem_map_of_mem (List.mem_of_getElem? ha'))
      simp [ih h.2 ha', hne]

/-- When removing a place removes just the elements with a key: it holds the one that
has it, or neither is there. -/
theorem eraseIdx_eq_filter_iff {l : List α} (h : (l.map key).Nodup) {i : ℕ} {k : κ} :
    (l.eraseIdx i = l.filter fun b => key b ≠ k) ↔
      (∃ a, l[i]? = some a ∧ key a = k) ∨ (l[i]? = none ∧ ∀ b ∈ l, key b ≠ k) := by
  cases hi : l[i]? with
  | none =>
    have hlen : l.length ≤ i := List.getElem?_eq_none_iff.1 hi
    rw [List.eraseIdx_of_length_le hlen, eq_comm, List.filter_eq_self]
    simp
  | some a =>
    constructor
    · intro heq
      refine Or.inl ⟨a, rfl, ?_⟩
      by_contra hne
      -- the row removed has another key, so that it should have stayed
      have hmem : a ∈ l.eraseIdx i := by
        rw [heq]
        exact List.mem_filter.2 ⟨List.mem_of_getElem? hi, by simpa using hne⟩
      rw [eraseIdx_eq_filter key h hi] at hmem
      simp at hmem
    · rintro (⟨b, hb, rfl⟩ | ⟨hnone, -⟩)
      · cases hb
        exact eraseIdx_eq_filter key h hi
      · cases hnone

/-- A place removed from two aligned arrays. -/
theorem forall₂_eraseIdx {β : Type*} {R : α → β → Prop} {l : List α} {m : List β}
    (h : List.Forall₂ R l m) (i : ℕ) : List.Forall₂ R (l.eraseIdx i) (m.eraseIdx i) := by
  induction h generalizing i with
  | nil => exact .nil
  | cons hab hlm ih =>
    cases i with
    | zero => exact hlm
    | succ i => exact .cons hab (ih i)

end Js
