import Mathlib
import Taskbot.Js.Heap

/-!
# A row that is remembered by its place

A screen remembers the row it edits by its place in the array, while rows are pushed and
deleted.  This file is about the rows by numbers of their own, and about when what is
written at the place is written to the row that was meant.

* `RowIds` — a number for every row, given when it came; `push`, `erase`, `replace`.
* `Numbers` — **the numbers tell the rows of an array apart**, and every change keeps that.
* `EditsOnly` — a change of one row, whichever place it has.
* `editsOnly_modify_iff` — **a write at a place edits just one row exactly when that row is
  there, or the write changes nothing and would change nothing of that row either.**
-/

namespace Js

/-! ## Numbers for the rows -/

/-- The numbers of the rows of an array, and the next one. -/
structure RowIds where
  ids : List ℕ
  next : ℕ
  deriving DecidableEq

namespace RowIds

/-- The rows of an array that has been there from the start. -/
def start (n : ℕ) : RowIds := ⟨List.range n, n⟩

/-- A row is pushed. -/
def push (r : RowIds) : RowIds := ⟨r.ids ++ [r.next], r.next + 1⟩

/-- The row at a place is deleted. -/
def erase (r : RowIds) (i : ℕ) : RowIds := ⟨r.ids.eraseIdx i, r.next⟩

/-- The array gives way to one of `n` other rows. -/
def replace (r : RowIds) (n : ℕ) : RowIds := ⟨List.range' r.next n, r.next + n⟩

variable {α : Type*}

/-- The rows of an array have these numbers. -/
structure Numbers (r : RowIds) (items : List α) : Prop where
  length : r.ids.length = items.length
  nodup : r.ids.Nodup
  lt : ∀ k ∈ r.ids, k < r.next

theorem numbers_start (items : List α) : (start items.length).Numbers items where
  length := List.length_range
  nodup := List.nodup_range
  lt := fun _ hk => List.mem_range.1 hk

theorem Numbers.push {r : RowIds} {items : List α} (h : r.Numbers items) (x : α) :
    r.push.Numbers (items ++ [x]) where
  length := by simp [RowIds.push, h.length]
  nodup := by
    have hnew : r.next ∉ r.ids := fun hmem => lt_irrefl _ (h.lt _ hmem)
    exact List.nodup_append.2 ⟨h.nodup, List.nodup_singleton _, by
      rintro a ha b hb rfl
      exact hnew (List.mem_singleton.1 hb ▸ ha)⟩
  lt := by
    intro k hk
    rcases List.mem_append.1 hk with hk | hk
    · exact (h.lt k hk).trans (Nat.lt_succ_self _)
    · rw [List.mem_singleton.1 hk]
      exact Nat.lt_succ_self _

theorem Numbers.erase {r : RowIds} {items : List α} (h : r.Numbers items) (i : ℕ) :
    (r.erase i).Numbers (items.eraseIdx i) where
  length := by simp only [RowIds.erase, List.length_eraseIdx, h.length]
  nodup := h.nodup.sublist (List.eraseIdx_sublist _ _)
  lt := fun k hk => h.lt k (List.mem_of_mem_eraseIdx hk)

theorem Numbers.modify {r : RowIds} {items : List α} (h : r.Numbers items) (i : ℕ)
    (f : α → α) : r.Numbers (items.modify i f) where
  length := by rw [h.length, List.length_modify]
  nodup := h.nodup
  lt := h.lt

theorem numbers_replace (r : RowIds) (items : List α) :
    (r.replace items.length).Numbers items where
  length := List.length_range'
  nodup := List.nodup_range'
  lt := fun k hk => (List.mem_range'_1.1 hk).2

end RowIds

/-! ## A change of one row -/

variable {α : Type*}

/-- The row of number `k` is changed by `f`, wherever it is, and no other row is. -/
def EditsOnly (ids : List ℕ) (k : ℕ) (f : α → α) (before after : List α) : Prop :=
  ∀ j : ℕ, after[j]? = if ids[j]? = some k then before[j]?.map f else before[j]?

/-- `f` changes nothing of the row of number `k`, if that is there. -/
def Keeps (ids : List ℕ) (k : ℕ) (f : α → α) (items : List α) : Prop :=
  ∀ p ∈ ids.zip items, p.1 = k → f p.2 = p.2

instance [DecidableEq α] (ids : List ℕ) (k : ℕ) (f : α → α) (items : List α) :
    Decidable (Keeps ids k f items) :=
  inferInstanceAs (Decidable (∀ p ∈ _, _))

/-- The same, said of the places. -/
theorem keeps_iff_getElem? {ids : List ℕ} {k : ℕ} {f : α → α} {items : List α} :
    Keeps ids k f items ↔ ∀ j : ℕ, ids[j]? = some k → items[j]?.map f = items[j]? := by
  constructor
  · intro h j hj
    cases hitem : items[j]? with
    | none => rfl
    | some x =>
      have hmem : (k, x) ∈ ids.zip items :=
        List.mem_of_getElem? (List.getElem?_zip_eq_some.2 ⟨hj, hitem⟩)
      rw [Option.map_some, h _ hmem rfl]
  · rintro h ⟨m, x⟩ hmem rfl
    obtain ⟨j, hj⟩ := List.getElem?_of_mem hmem
    obtain ⟨hid, hitem⟩ := List.getElem?_zip_eq_some.1 hj
    have hx := h j hid
    rw [hitem] at hx
    exact Option.some.inj hx

/-- To leave an array alone edits just one row when that row is kept. -/
theorem editsOnly_self {ids : List ℕ} {k : ℕ} {f : α → α} {items : List α}
    (h : Keeps ids k f items) : EditsOnly ids k f items items := by
  intro j
  split
  next hj => exact (keeps_iff_getElem?.1 h j hj).symm
  next => rfl

/-- **A write at a place** edits just the row of number `k` exactly when that row is there,
or nothing is changed by it, nor of that row. -/
theorem editsOnly_modify_iff {r : RowIds} {items : List α} (hr : r.Numbers items) {i k : ℕ}
    {f : α → α} :
    EditsOnly r.ids k f items (items.modify i f) ↔
      r.ids[i]? = some k ∨ (∀ x ∈ items[i]?, f x = x) ∧ Keeps r.ids k f items := by
  constructor
  · intro h
    by_cases hi : r.ids[i]? = some k
    · exact Or.inl hi
    · refine Or.inr ⟨fun x hx => ?_, keeps_iff_getElem?.2 fun j hj => ?_⟩
      · have hplace := h i
        rw [if_neg hi, List.getElem?_modify_eq, Option.mem_def.1 hx] at hplace
        exact Option.some.inj hplace
      · have hij : i ≠ j := fun hij => hi (hij ▸ hj)
        have hplace := h j
        rw [if_pos hj, List.getElem?_modify_ne f items hij] at hplace
        exact hplace.symm
  · rintro (hi | ⟨hsame, hkeeps⟩)
    · intro j
      by_cases hij : i = j
      · subst hij
        rw [if_pos hi, List.getElem?_modify_eq]
        rfl
      · have hj : r.ids[j]? ≠ some k := by
          intro hj
          -- no number is given twice
          have hlt := (List.getElem?_eq_some_iff.1 hi).1
          exact hij ((List.getElem?_inj hlt hr.nodup).1 (hi.trans hj.symm))
        rw [if_neg hj, List.getElem?_modify_ne f items hij]
    · rw [(modify_eq_self_iff items i f).2 hsame]
      exact editsOnly_self hkeeps

end Js
