import Mathlib.Data.List.Range

/-!
# Reading a list page by page

A reader of a paged list keeps what was read so far and a cursor, the number of
the page to ask for next.

* `pages` — the first pages, one after the other.
* `ReadUpTo` — what was read is exactly the pages before the cursor; the rules
  `ReadUpTo.first` and `ReadUpTo.more` are the two ways to get there.
* `ReadFrom` — the same of pages that change from one answer to the next: what was read is
  one answer to the request for each page before the cursor.
-/

namespace Paging

variable {α : Type*} (page : ℕ → List α)

/-- The pages `1`, …, `n`, each once and in order. -/
def pages (n : ℕ) : List α := (List.range n).flatMap fun i => page (i + 1)

@[simp] theorem pages_zero : pages page 0 = [] := rfl

theorem pages_succ (n : ℕ) : pages page (n + 1) = pages page n ++ page (n + 1) := by
  simp [pages, List.range_succ]

/-- Whatever holds of all items of all pages holds of what is read. -/
theorem of_mem_pages {P : α → Prop} (h : ∀ n, ∀ x ∈ page n, P x) {n : ℕ} :
    ∀ x ∈ pages page n, P x := by
  intro x hx
  obtain ⟨i, -, hx⟩ := List.mem_flatMap.1 hx
  exact h (i + 1) x hx

/-- The list is what was read when the next page to ask for is `cursor`. -/
def ReadUpTo (list : List α) (cursor : ℕ) : Prop :=
  1 ≤ cursor ∧ list = pages page (cursor - 1)

instance [DecidableEq α] (list : List α) (cursor : ℕ) : Decidable (ReadUpTo page list cursor) :=
  inferInstanceAs (Decidable (_ ∧ _))

variable {page}

theorem ReadUpTo.nil : ReadUpTo page [] 1 := ⟨le_refl 1, rfl⟩

/-- The first page read anew. -/
theorem ReadUpTo.first : ReadUpTo page (page 1) 2 := by
  refine ⟨by omega, ?_⟩
  rw [Nat.add_one_sub_one, pages_succ, pages_zero, List.nil_append]

/-- The page at the cursor appended. -/
theorem ReadUpTo.more {list : List α} {cursor : ℕ} (h : ReadUpTo page list cursor) :
    ReadUpTo page (list ++ page cursor) (cursor + 1) := by
  obtain ⟨hpos, rfl⟩ := h
  refine ⟨Nat.le_add_left 1 cursor, ?_⟩
  have hcursor : cursor - 1 + 1 = cursor := Nat.sub_add_cancel hpos
  have hsucc := pages_succ page (cursor - 1)
  rw [hcursor] at hsucc
  rw [Nat.add_sub_cancel, hsucc]

/-! ## Pages that change -/

/-- The list is one answer for each page before the cursor, in order; `answers` are all the
answers given so far, each with the number of its page. -/
def ReadFrom (answers : List (ℕ × List α)) (list : List α) (cursor : ℕ) : Prop :=
  ∃ read : List (List α), list = read.flatten ∧ cursor = read.length + 1 ∧
    ∀ k, ∀ items ∈ read[k]?, (k + 1, items) ∈ answers

variable {answers : List (ℕ × List α)} {list items : List α} {cursor : ℕ}

/-- Another answer is given. -/
theorem ReadFrom.mono (h : ReadFrom answers list cursor) (answer : ℕ × List α) :
    ReadFrom (answers ++ [answer]) list cursor := by
  obtain ⟨read, hlist, hcursor, hread⟩ := h
  exact ⟨read, hlist, hcursor, fun k x hx => List.mem_append_left [answer] (hread k x hx)⟩

/-- The first page read anew. -/
theorem ReadFrom.first (h : (1, items) ∈ answers) : ReadFrom answers items 2 := by
  refine ⟨[items], by simp, rfl, ?_⟩
  intro k x hx
  cases k with
  | zero =>
    cases hx
    exact h
  | succ k => simp at hx

/-- The page at the cursor appended. -/
theorem ReadFrom.more (h : ReadFrom answers list cursor) (hitems : (cursor, items) ∈ answers) :
    ReadFrom answers (list ++ items) (cursor + 1) := by
  obtain ⟨read, rfl, rfl, hread⟩ := h
  refine ⟨read ++ [items], by simp, by simp, ?_⟩
  intro k x hx
  rw [Option.mem_def, List.getElem?_append] at hx
  split at hx
  · exact hread k x hx
  · rename_i hk
    obtain ⟨hlt, rfl⟩ := List.getElem?_eq_some_iff.1 hx
    rw [List.length_singleton] at hlt
    obtain rfl : k = read.length := by omega
    simpa using hitems

end Paging
