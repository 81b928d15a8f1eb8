import Mathlib

/-!
# Lists of ticked items

A list of check boxes keeps the ticked items in an array, and a tap on an item
runs `if (a.includes(x)) a.splice(a.indexOf(x), 1) else a.push(x)`.  This file
is about that operation on arbitrary items.

* `toggle` — the operation.
* `toggle_nodup`, `nodup_foldl_toggle` — it never lists an item twice.
* `mem_toggle` — it ticks or unticks one item and no other.
* `mem_foldl_toggle` — **after any taps, an item is ticked if and only if it was
  tapped an odd number of times.**
* `toFinset_toggle` — the set of ticked items.
* `sum_map_toggle` — what it does to a sum over the ticked items.
-/

namespace Js

variable {α : Type*} [DecidableEq α]

/-- `includes`, then `splice` of `indexOf` or `push`. -/
def toggle (l : List α) (a : α) : List α := if a ∈ l then l.erase a else l ++ [a]

theorem toggle_of_mem {l : List α} {a : α} (h : a ∈ l) : toggle l a = l.erase a := if_pos h

theorem toggle_of_not_mem {l : List α} {a : α} (h : a ∉ l) : toggle l a = l ++ [a] := if_neg h

theorem toggle_nodup {l : List α} (hl : l.Nodup) (a : α) : (toggle l a).Nodup := by
  rw [toggle]
  split
  · exact hl.erase a
  · rename_i h
    exact List.nodup_append.2 ⟨hl, List.nodup_singleton a, by
      rintro x hx y hy rfl
      exact h (List.mem_singleton.1 hy ▸ hx)⟩

/-- A tap changes the tick of the item tapped, and of no other. -/
theorem mem_toggle {l : List α} (hl : l.Nodup) (a b : α) :
    b ∈ toggle l a ↔ (if b = a then b ∉ l else b ∈ l) := by
  by_cases h : a ∈ l
  · rw [toggle_of_mem h, hl.mem_erase_iff]
    split
    · rename_i hb
      simp [hb, h]
    · rename_i hb
      exact and_iff_right hb
  · rw [toggle_of_not_mem h, List.mem_append, List.mem_singleton]
    split
    · rename_i hb
      simp [hb, h]
    · rename_i hb
      exact or_iff_left hb

/-- On the set of ticked items a tap is the symmetric difference. -/
theorem toFinset_toggle {l : List α} (hl : l.Nodup) (a : α) :
    (toggle l a).toFinset = symmDiff l.toFinset {a} := by
  ext b
  rw [List.mem_toFinset, mem_toggle hl, Finset.mem_symmDiff, Finset.mem_singleton,
    List.mem_toFinset]
  by_cases hb : b = a
  · simp [hb]
  · simp [hb]

theorem nodup_foldl_toggle (taps : List α) : (taps.foldl toggle []).Nodup := by
  induction taps using List.reverseRecOn with
  | nil => exact List.nodup_nil
  | append_singleton taps b ih =>
    rw [List.foldl_concat]
    exact toggle_nodup ih b

/-- **Ticked is tapped an odd number of times.** -/
theorem mem_foldl_toggle (taps : List α) (a : α) :
    a ∈ taps.foldl toggle [] ↔ Odd (taps.count a) := by
  induction taps using List.reverseRecOn with
  | nil => simp
  | append_singleton taps b ih =>
    rw [List.foldl_concat, List.count_append, List.count_singleton,
      mem_toggle (nodup_foldl_toggle taps)]
    by_cases hab : b = a
    · rw [if_pos hab.symm, if_pos (beq_iff_eq.2 hab), ih, Nat.odd_add_one]
    · rw [if_neg (Ne.symm hab), if_neg (by simpa using hab), ih, Nat.add_zero]

/-- A tap adds or takes away the amount of the item tapped. -/
theorem sum_map_toggle {M : Type*} [AddCommGroup M] (f : α → M) (l : List α) (a : α) :
    ((toggle l a).map f).sum = if a ∈ l then (l.map f).sum - f a else (l.map f).sum + f a := by
  by_cases h : a ∈ l
  · rw [toggle_of_mem h, if_pos h, eq_sub_iff_add_eq', List.sum_map_erase f h]
  · simp [toggle_of_not_mem h, h]

end Js
