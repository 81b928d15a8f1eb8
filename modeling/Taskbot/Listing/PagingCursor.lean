import Mathlib
import Taskbot.Async.Machine
import Taskbot.Async.Paging

/-!
# The cursor of the results

`SearchResultTask`, `SearchResult` and the sellers of `SavedItem` read the first page of
their results each time they come into focus, and a later one each time their list is
scrolled to its end.  The number of the page to ask for next is a state variable of its
own, which no first page sets back.

* `Screen` — the three screens, and what they do not have in common.
* `State`, `step` — a screen of which every request is answered before the next event.
* `hides`, `shown` — an empty first answer that is ignored leaves an older list in the state
  variable, but it is not drawn.
* `StepOk` — no page has been loaded before the last reload.
* `cursor_iff` — **the pages asked for after a reload are the ones that come next exactly
  when that is so.**
* `readUpTo` — where they are, what is shown is read page by page.
-/

namespace PagingCursor

/-- The screens. -/
inductive Screen where
  | searchResultTask
  | searchResult
  | savedItem
  deriving DecidableEq

/-- `useState` of the cursor `page`. -/
def Screen.start : Screen → ℕ
  | searchResultTask => 2
  | searchResult => 3
  | savedItem => 2

/-- Does the screen empty its list when it comes into focus? -/
def Screen.empties : Screen → Bool
  | searchResult => true
  | searchResultTask | savedItem => false

variable {α : Type}

/-- What the server answers from a reload on. -/
structure Results (α : Type) where
  /-- The items of the answer to the request for the first page. -/
  first : List α
  /-- That answer is the array `[]`, where the screen expects an object with tasks. -/
  bare : Bool
  /-- The items of the answer to the request for the page with a number. -/
  page : ℕ → List α

/-- Does the handler of the first page leave the list as it is?  `SearchResult` and
`SavedItem` set a flag instead when there are no sellers; `SearchResultTask` calls a
function that is not defined when the answer is `[]`. -/
def Screen.ignores (r : Results α) : Screen → Bool
  | searchResultTask => r.bare && r.first.isEmpty
  | searchResult | savedItem => r.first.isEmpty

/-- A screen; the last three fields are a history for the statements only. -/
structure State (α : Type) where
  list : List α
  page : ℕ
  /-- Of `SavedItem`: it has no sellers to show. -/
  emptyFreelancerList : Bool
  /-- Of `SearchResultTask`: it shows skeletons. -/
  taskCardSpinner : Bool
  /-- What the server answers, since the last reload. -/
  results : Option (Results α)
  /-- The pages asked for since then. -/
  requested : List ℕ
  /-- How many pages were loaded before it. -/
  older : ℕ

/-- What can happen, the answers included. -/
inductive Event (α : Type) where
  /-- The screen comes into focus, and the first page is answered. -/
  | reload (r : Results α)
  /-- The end of the list is reached, and the next page is answered. -/
  | loadMoreData

/-- Is something else drawn in the place of the list? -/
def Screen.hides (s : State α) : Screen → Bool
  | searchResultTask => s.taskCardSpinner
  | searchResult => false
  | savedItem => s.emptyFreelancerList

variable (sc : Screen)

/-- One event; there is nothing to scroll before the first page has come, and where the list
is not drawn. -/
def step (s : State α) : Event α → Option (State α)
  | .reload r =>
    let list := if sc.empties then [] else s.list
    some
      { list := if sc.ignores r then list else r.first
        page := s.page
        emptyFreelancerList := sc.ignores r
        -- set when the screen comes into focus, and cleared where the answer is handled
        taskCardSpinner := sc.ignores r
        results := some r
        requested := []
        older := s.older + s.requested.length }
  | .loadMoreData =>
    if sc.hides s then none
    else
      s.results.map fun r =>
        { s with
          list := s.list ++ r.page s.page
          page := s.page + 1
          requested := s.requested ++ [s.page] }

/-- A screen just opened. -/
def machine : Async.Machine (State α) (Event α) where
  init :=
    { list := []
      page := sc.start
      emptyFreelancerList := false
      taskCardSpinner := true
      results := none
      requested := []
      older := 0 }
  step := step sc

/-- The items drawn. -/
def shown (s : State α) : List α := if sc.hides s then [] else s.list

/-- The cursor has moved by one for every page ever loaded. -/
def Inv (s : State α) : Prop := s.page = sc.start + s.older + s.requested.length

/-- The property: the `k`-th page asked for since the last reload is the one with the
number `start + k - 1`, and what is drawn is the first answer and those pages. -/
def GapFree (s : State α) : Prop :=
  ∀ r ∈ s.results, s.requested = List.range' sc.start s.requested.length ∧
    shown sc s = r.first ++ s.requested.flatMap r.page

/-- What a step must meet: a page is loaded only if none was before the last reload. -/
def StepOk (s : State α) : Event α → Prop
  | .reload _ => True
  | .loadMoreData => s.older = 0

variable {sc}

theorem inv_step {s t : State α} {e : Event α} (hs : Inv sc s) (h : step sc s e = some t) :
    Inv sc t := by
  rw [Inv] at hs
  cases e with
  | reload r =>
    cases h
    show s.page = sc.start + (s.older + s.requested.length) + 0
    omega
  | loadMoreData =>
    obtain ⟨-, h⟩ := Option.ite_none_left_eq_some.1 h
    obtain ⟨r, -, rfl⟩ := Option.map_eq_some_iff.1 h
    show s.page + 1 = sc.start + s.older + (s.requested ++ [s.page]).length
    rw [List.length_append, List.length_singleton]
    omega

/-- A screen that ignores the answer has none to show. -/
theorem first_of_ignores {r : Results α} (h : sc.ignores r = true) : r.first = [] := by
  cases sc <;> simp_all [Screen.ignores]

/-- An answer that is ignored leaves nothing to see of an older list. -/
theorem shown_of_ignores {s t : State α} {r : Results α} (h : step sc s (.reload r) = some t)
    (hignores : sc.ignores r = true) : shown sc t = [] := by
  cases h
  cases sc with
  | searchResultTask | savedItem => simp [shown, Screen.hides, hignores]
  | searchResult => simp [shown, Screen.hides, Screen.empties, hignores]

/-- One that is not is drawn. -/
theorem shown_reload {s t : State α} {r : Results α} (h : step sc s (.reload r) = some t)
    (hignores : sc.ignores r = false) : shown sc t = r.first := by
  cases h
  cases sc <;> simp [shown, Screen.hides, hignores]

/-- A reload shows the first answer. -/
theorem gapFree_reload {s t : State α} {r : Results α} (h : step sc s (.reload r) = some t) :
    GapFree sc t := by
  have hshown : shown sc t = r.first := by
    cases hignores : sc.ignores r with
    | true => rw [shown_of_ignores h hignores, first_of_ignores hignores]
    | false => exact shown_reload h hignores
  cases h
  rintro r' ⟨⟩
  exact ⟨rfl, hshown.trans (List.append_nil _).symm⟩

/-- A page asked for is the next one exactly when the step meets its condition. -/
theorem loadMoreData_iff {s t : State α} (hs : Inv sc s) (hgap : GapFree sc s)
    (h : step sc s .loadMoreData = some t) :
    StepOk s .loadMoreData ↔ GapFree sc t := by
  obtain ⟨hdrawn, h⟩ := Option.ite_none_left_eq_some.1 h
  obtain ⟨r, hr, rfl⟩ := Option.map_eq_some_iff.1 h
  obtain ⟨hrequested, hlist⟩ := hgap r hr
  have hshown : ∀ u : State α, sc.hides u = sc.hides s → shown sc u = u.list := by
    intro u hu
    rw [shown, hu, if_neg hdrawn]
  have hlength : (s.requested ++ [s.page]).length = s.requested.length + 1 := by simp
  have hpage : s.requested ++ [s.page] = List.range' sc.start (s.requested.length + 1) ↔
      s.page = sc.start + s.requested.length := by
    rw [List.range'_1_concat, ← hrequested]
    simp
  have hconcat : s.list ++ r.page s.page =
      r.first ++ (s.requested ++ [s.page]).flatMap r.page := by
    rw [← hshown s rfl, hlist]
    simp
  rw [GapFree]
  simp only [hr, Option.mem_def, Option.some.injEq, forall_eq', hlength, hpage]
  rw [hshown _ (by cases sc <;> rfl), and_iff_left hconcat]
  show s.older = 0 ↔ _
  rw [Inv] at hs
  omega

/-- **When the cursor is right.**  In every run of reloads and pages loaded, each answered
before the next, the `k`-th page asked for after a reload is number `start + k - 1` and
what is drawn is the first answer and those pages, exactly when a page is loaded only
while none was loaded before the last reload. -/
theorem cursor_iff {es : List (Event α)} {s : State α} (h : (machine sc).run es = some s) :
    (machine sc).Meets StepOk es ↔
      ∀ fs, fs <+: es → ∀ t, (machine sc).run fs = some t → GapFree sc t := by
  refine (machine sc).meets_iff_of_invariant (I := fun _ => GapFree sc) (J := Inv sc)
    (fun _ hr => by cases hr) rfl (fun _ _ _ hs _ => inv_step hs) ?_ h
  intro _ s e t _ hs hgap hst
  cases e with
  | reload r => exact iff_of_true trivial (gapFree_reload hst)
  | loadMoreData => exact loadMoreData_iff hs hgap hst

/-- **Page by page.**  When the first answer is the pages before the first cursor, what is
shown in such a state is what has been read up to the cursor. -/
theorem readUpTo {s : State α} {r : Results α} (hs : Inv sc s) (hgap : GapFree sc s)
    (hr : s.results = some r) (holder : s.older = 0)
    (hfirst : Paging.ReadUpTo r.page r.first sc.start) :
    Paging.ReadUpTo r.page (shown sc s) s.page := by
  obtain ⟨hrequested, hlist⟩ := hgap r hr
  rw [Inv, holder] at hs
  rw [hlist, hs, hrequested, List.length_range', Nat.add_zero]
  induction s.requested.length with
  | zero => simpa using hfirst
  | succ n ih =>
    rw [List.range'_1_concat, List.flatMap_append, ← List.append_assoc, List.flatMap_singleton]
    exact ih.more

/-- Six tasks in pages of two. -/
def sampleResults : Results ℕ :=
  ⟨[1, 2], false, fun n => if n ≤ 3 then [2 * n - 1, 2 * n] else []⟩

/-- The screen is shown twice before its list is scrolled to the end. -/
theorem cursor_iff_sample :
    ∃ s, (machine .searchResultTask).run
        [.reload sampleResults, .reload sampleResults, .loadMoreData, .loadMoreData] = some s ∧
      s.requested = [2, 3] := by
  refine ⟨_, rfl, ?_⟩
  have hok : (machine .searchResultTask).Meets StepOk
      [.reload sampleResults, .reload sampleResults, .loadMoreData, .loadMoreData] := by
    simp [Async.Machine.Meets, Async.Machine.MeetsFrom, machine, step, StepOk, Screen.ignores,
      Screen.hides, sampleResults]
  exact ((cursor_iff rfl).1 hok _ List.prefix_rfl _ rfl sampleResults rfl).1

/-- **A page is left out.**  A page is loaded, the screen is shown again, and the next
page loaded is the one after that. -/
theorem page_left_out :
    ∃ s, (machine .searchResultTask).run
        [.reload sampleResults, .loadMoreData, .reload sampleResults, .loadMoreData] = some s ∧
      s.requested = [3] ∧ shown .searchResultTask s = [1, 2, 5, 6] :=
  ⟨_, rfl, rfl, rfl⟩

end PagingCursor
