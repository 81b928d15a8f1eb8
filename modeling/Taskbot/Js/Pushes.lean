import Mathlib

/-!
# Loops that push

`for (x of l) if (p(x)) array.push(y)`, and such a loop inside another one.  This file
says what is in the array afterwards, for arbitrary items.

* `foldl_push_map`, `foldl_push_const` — one loop, pushing something of its own items or
  one item that is given.
* `foldl_append_flatMap` — a loop whose body is a loop.
* `flatMap_replicate_eq_iff` — two nested loops that push every item some number of times
  **make the same array exactly when they push each as often**.
* `filter_eq_flatMap_replicate` — to filter is to push once or not at all.
* `flatMap_eq_map_iff` — a loop that pushes one thing at most for each item pushes as many
  as there are items **only if it pushes the right one for each**; `forall₂_map_flatMap`:
  then what it pushes is aligned with the items.
* `flatten_replicate_eq_iff` — a loop that is run any number of times makes what it makes
  when it is run once, **only if it is run once** or makes nothing.
* `map_snd_zipIdx`, `map_name_zipIdx` — what is appended to a form under names made of the
  places, and these names.
-/

namespace Js

variable {α β : Type*}

/-- The loop pushes what it makes of the items that pass, in their order. -/
theorem foldl_push_map (p : α → Prop) [DecidablePred p] (f : α → β) (l : List α)
    (array : List β) :
    l.foldl (fun array x => if p x then array ++ [f x] else array) array =
      array ++ (l.filter p).map f := by
  induction l generalizing array with
  | nil => simp
  | cons x l ih =>
    rw [List.foldl_cons, ih]
    by_cases hx : p x <;> simp [hx]

/-- Without a condition it pushes all of them. -/
theorem foldl_push (f : α → β) (l : List α) (array : List β) :
    l.foldl (fun array x => array ++ [f x]) array = array ++ l.map f := by
  induction l generalizing array with
  | nil => simp
  | cons x l ih => rw [List.foldl_cons, ih, List.map_cons, List.append_assoc, List.singleton_append]

/-- The loop pushes the one item as often as the condition holds. -/
theorem foldl_push_const (p : α → Prop) [DecidablePred p] (y : β) (l : List α)
    (array : List β) :
    l.foldl (fun array x => if p x then array ++ [y] else array) array =
      array ++ List.replicate (l.countP p) y := by
  induction l generalizing array with
  | nil => simp
  | cons x l ih =>
    rw [List.foldl_cons, ih]
    by_cases hx : p x
    · simp [hx, List.replicate_succ]
    · simp [hx]

/-- A loop whose body pushes a list pushes the lists one after the other. -/
theorem foldl_append_flatMap (f : α → List β) (l : List α) (array : List β) :
    l.foldl (fun array x => array ++ f x) array = array ++ l.flatMap f := by
  induction l generalizing array with
  | nil => simp
  | cons x l ih => rw [List.foldl_cons, ih, List.flatMap_cons, List.append_assoc]

/-- How often an item is pushed, when it comes once. -/
theorem count_flatMap_replicate [DecidableEq α] {l : List α} (hl : l.Nodup) (f : α → ℕ)
    {x : α} (hx : x ∈ l) : (l.flatMap fun y => List.replicate (f y) y).count x = f x := by
  induction l with
  | nil => cases hx
  | cons y l ih =>
    obtain ⟨hy, hl⟩ := List.nodup_cons.1 hl
    rw [List.flatMap_cons, List.count_append, List.count_replicate]
    rcases List.mem_cons.1 hx with rfl | hx
    · have hnone : (l.flatMap fun y => List.replicate (f y) y).count x = 0 := by
        rw [List.count_eq_zero, List.mem_flatMap]
        rintro ⟨z, hz, hxz⟩
        exact hy (List.eq_of_mem_replicate hxz ▸ hz)
      simp [hnone]
    · have hne : y ≠ x := by
        rintro rfl
        exact hy hx
      simp [hne, ih hl hx]

/-- **As often, each of them.** -/
theorem flatMap_replicate_eq_iff {l : List α} (hl : l.Nodup) (f g : α → ℕ) :
    (l.flatMap fun x => List.replicate (f x) x) = (l.flatMap fun x => List.replicate (g x) x) ↔
      ∀ x ∈ l, f x = g x := by
  classical
  refine ⟨fun h x hx => ?_, fun h => List.flatMap_congr fun x hx => by rw [h x hx]⟩
  rw [← count_flatMap_replicate hl f hx, h, count_flatMap_replicate hl g hx]

/-- Filtering pushes what passes once, and the rest not at all. -/
theorem filter_eq_flatMap_replicate (p : α → Prop) [DecidablePred p] (l : List α) :
    l.filter p = l.flatMap fun x => List.replicate (if p x then 1 else 0) x := by
  induction l with
  | nil => rfl
  | cons x l ih =>
    rw [List.flatMap_cons, ← ih]
    by_cases hx : p x <;> simp [hx]

/-- One thing at most for each item makes as long a list only if it is one for each. -/
theorem flatMap_eq_map_iff {f : α → List β} {g : α → β} {l : List α}
    (hone : ∀ x ∈ l, (f x).length ≤ 1) :
    l.flatMap f = l.map g ↔ ∀ x ∈ l, f x = [g x] := by
  induction l with
  | nil => simp
  | cons x l ih =>
    obtain ⟨hx, hl⟩ := List.forall_mem_cons.1 hone
    rw [List.flatMap_cons, List.map_cons, List.forall_mem_cons, ← ih hl]
    constructor
    · intro h
      have hlength : (l.flatMap f).length ≤ l.length := by
        rw [List.length_flatMap]
        exact (List.sum_le_card_nsmul _ 1 (by simpa using hl)).trans (by simp)
      match hfx : f x with
      | [] =>
        have hcons := congrArg List.length h
        rw [hfx, List.nil_append, List.length_cons, List.length_map] at hcons
        omega
      | [y] =>
        rw [hfx] at h
        obtain ⟨rfl, hrest⟩ := List.cons_eq_cons.1 h
        exact ⟨rfl, hrest⟩
      | _ :: _ :: _ => simp [hfx] at hx
    · rintro ⟨hfx, hrest⟩
      rw [hfx, hrest, List.singleton_append]

/-- Pushing one thing for each item keeps what is pushed aligned with the items. -/
theorem forall₂_map_flatMap {γ : Type*} {R : γ → β → Prop} {g : α → γ} {f : α → List β}
    {l : List α} (h : ∀ x ∈ l, ∃ y, f x = [y] ∧ R (g x) y) :
    List.Forall₂ R (l.map g) (l.flatMap f) := by
  induction l with
  | nil => exact .nil
  | cons x l ih =>
    obtain ⟨⟨y, hy, hxy⟩, hl⟩ := List.forall_mem_cons.1 h
    rw [List.map_cons, List.flatMap_cons, hy]
    exact .cons hxy (ih hl)

/-! ## Loops that are run again -/

/-- Once more pushes the same once more. -/
theorem flatten_replicate_succ (n : ℕ) (l : List α) :
    (List.replicate (n + 1) l).flatten = (List.replicate n l).flatten ++ l := by
  rw [List.replicate_succ', List.flatten_append, List.flatten_singleton]

/-- **Once, or nothing to push.** -/
theorem flatten_replicate_eq_iff (n : ℕ) (l : List α) :
    (List.replicate n l).flatten = l ↔ l = [] ∨ n = 1 := by
  constructor
  · intro h
    by_cases hl : l = []
    · exact Or.inl hl
    · have hlength := congrArg List.length h
      rw [List.length_flatten, List.map_replicate, List.sum_replicate, smul_eq_mul] at hlength
      have hpos := List.length_pos_iff.2 hl
      exact Or.inr (Nat.eq_of_mul_eq_mul_right hpos (by rw [hlength, one_mul]))
  · rintro (rfl | rfl)
    · exact List.flatten_replicate_nil
    · simp

/-! ## Items appended to a form -/

/-- Whatever name is made of the place of an item, without the names it is the array. -/
theorem map_snd_zipIdx (name : ℕ → β) (l : List α) :
    (l.zipIdx.map fun u => (name u.2, u.1)).map Prod.snd = l := by
  rw [List.map_map]
  exact List.zipIdx_map_fst 0 l

/-- And the names, without the items, are those of the places. -/
theorem map_name_zipIdx (name : ℕ → β) (l : List α) :
    (l.zipIdx.map fun u => name u.2) = (List.range l.length).map name := by
  rw [List.range_eq_range', ← List.zipIdx_map_snd 0 l, List.map_map]
  rfl

end Js
