import Mathlib
import Taskbot.Listing.FilteredListing

/-!
# The pages shown are those of the filter selected

* `StepOk` — no reply to another filter is the last one, more is loaded only once
  the first page of the filter selected is there, and an empty page finds the cursor
  where it belongs.
* `Inv` — the list is what was read of the filter of the last reply, and that is the
  filter selected, unless a reply to it is still to come.
* `shows_pages` — **in such a run the screen shows the first pages of the filter
  selected whenever no request is on its way.**
-/

namespace Listing

open Paging

variable {φ α : Type} (sc : Screen φ) (page : String → ℕ → List α)

/-! ## The condition and the invariant -/

/-- An empty page that leaves the cursor leaves it where the list ends. -/
def KeepsOk (s : State φ α) (r : Request α) : Prop :=
  match r.kind with
  | .first => sc.emptyFirstKeeps → page r.filter 1 = [] →
      ReadUpTo (page r.filter) [] s.pageNumber
  | .more pageNumber list => sc.emptyMoreKeeps → page r.filter pageNumber = [] →
      ReadUpTo (page r.filter) list s.pageNumber

/-- What a step must meet. -/
def StepOk (s : State φ α) : Event φ → Prop
  | .onEndReached => s.calledDuringMomentum = false →
      ∀ list ∈ s.list, sc.minLength ≤ list.length → s.shown = some (sc.text s.filter)
  | .reply i => ∀ r ∈ s.inFlight[i]?, KeepsOk sc page s r ∧
      (r.filter = sc.text s.filter ∨
        ∃ r' ∈ s.inFlight.eraseIdx i, r'.filter = sc.text s.filter)
  | _ => True

instance [DecidableEq α] (s : State φ α) (r : Request α) : Decidable (KeepsOk sc page s r) := by
  unfold KeepsOk
  cases r.kind <;> infer_instance

instance [DecidableEq α] (s : State φ α) (e : Event φ) : Decidable (StepOk sc page s e) := by
  cases e <;> unfold StepOk <;> infer_instance

/-- The list belongs to the filter of the last reply, so do the lists that travel with
the requests to theirs, and that filter is the selected one or will be. -/
structure Inv (s : State φ α) : Prop where
  read : ∀ f, s.shown = some f →
    ∃ list, s.list = some list ∧ ReadUpTo (page f) list s.pageNumber
  captured : ∀ r ∈ s.inFlight, ∀ pageNumber list, r.kind = .more pageNumber list →
    ReadUpTo (page r.filter) list pageNumber
  current : s.shown = some (sc.text s.filter) ∨ ∃ r ∈ s.inFlight, r.filter = sc.text s.filter

variable {sc page}

/-! ## Requests -/

/-- First pages asked for: the filter selected is among them, or was selected
before. -/
theorem inv_fetchFirst {s : State φ α} (hs : Inv sc page s) {f : φ} {fs : List φ}
    (hf : sc.text f = sc.text s.filter ∨ f ∈ fs) :
    Inv sc page (fetchFirst sc { s with filter := f } fs) where
  read := hs.read
  captured := by
    intro r hr pageNumber list hkind
    rcases List.mem_append.1 hr with hr | hr
    · exact hs.captured r hr pageNumber list hkind
    · obtain ⟨g, -, rfl⟩ := List.mem_map.1 hr
      cases hkind
  current := by
    rcases hf with hf | hf
    · have hcurrent := hs.current
      rw [← hf] at hcurrent
      refine hcurrent.imp id ?_
      rintro ⟨r, hr, hfilter⟩
      exact ⟨r, List.mem_append_left _ hr, hfilter⟩
    · exact Or.inr ⟨⟨sc.text f, .first⟩, List.mem_append_right _ (List.mem_map_of_mem hf), rfl⟩

theorem inv_loadMore {s : State φ α} (hs : Inv sc page s) {list : List α}
    (hlist : s.list = some list) (hshown : s.shown = some (sc.text s.filter)) :
    Inv sc page (loadMore sc s list) where
  read := hs.read
  captured := by
    intro r hr pageNumber l hkind
    rcases List.mem_append.1 hr with hr | hr
    · exact hs.captured r hr pageNumber l hkind
    · obtain rfl := List.mem_singleton.1 hr
      cases hkind
      obtain ⟨l, hl, hread⟩ := hs.read _ hshown
      cases hlist.symm.trans hl
      exact hread
  current := Or.inl hshown

/-! ## Replies -/

@[simp] theorem replied_filter (s : State φ α) (r : Request α) :
    (replied sc page s r).filter = s.filter := by
  unfold replied
  split
  · split <;> rfl
  · rfl

@[simp] theorem replied_inFlight (s : State φ α) (r : Request α) :
    (replied sc page s r).inFlight = s.inFlight := by
  unfold replied
  split
  · split <;> rfl
  · rfl

@[simp] theorem replied_shown (s : State φ α) (r : Request α) :
    (replied sc page s r).shown = some r.filter := by
  unfold replied
  split
  · split <;> rfl
  · rfl

/-- After a reply the list is what was read of its filter. -/
theorem replied_read {s : State φ α} {r : Request α} (hkeeps : KeepsOk sc page s r)
    (hcaptured : ∀ pageNumber list, r.kind = .more pageNumber list →
      ReadUpTo (page r.filter) list pageNumber) :
    ∃ list, (replied sc page s r).list = some list ∧
      ReadUpTo (page r.filter) list (replied sc page s r).pageNumber := by
  obtain ⟨filter, kind⟩ := r
  cases kind with
  | first =>
    by_cases hempty : (page filter 1).isEmpty ∧ sc.emptyFirstKeeps
    · refine ⟨[], ?_, ?_⟩
      · simp only [replied, if_pos hempty]
      · simp only [replied, if_pos hempty]
        exact hkeeps hempty.2 (List.isEmpty_iff.1 hempty.1)
    · refine ⟨page filter 1, ?_, ?_⟩
      · simp only [replied, if_neg hempty]
      · simp only [replied, if_neg hempty]
        exact ReadUpTo.first
  | more pageNumber list =>
    refine ⟨list ++ page filter pageNumber, rfl, ?_⟩
    by_cases hempty : (page filter pageNumber).isEmpty ∧ sc.emptyMoreKeeps
    · have hnil := List.isEmpty_iff.1 hempty.1
      simp only [replied, if_pos hempty]
      rw [hnil, List.append_nil]
      exact hkeeps hempty.2 hnil
    · simp only [replied, if_neg hempty]
      exact (hcaptured pageNumber list rfl).more

theorem inv_replied {s : State φ α} (hs : Inv sc page s) {i : ℕ} {r : Request α}
    (hr : s.inFlight[i]? = some r) (hkeeps : KeepsOk sc page s r)
    (hlast : r.filter = sc.text s.filter ∨
      ∃ r' ∈ s.inFlight.eraseIdx i, r'.filter = sc.text s.filter) :
    Inv sc page (replied sc page { s with inFlight := s.inFlight.eraseIdx i } r) where
  read := by
    intro f hf
    rw [replied_shown] at hf
    cases hf
    exact replied_read hkeeps (hs.captured r (List.mem_of_getElem? hr))
  captured := by
    intro r' hr' pageNumber list hkind
    rw [replied_inFlight] at hr'
    exact hs.captured r' (Async.mem_of_eraseIdx hr') pageNumber list hkind
  current := by
    rw [replied_shown, replied_filter, replied_inFlight]
    exact hlast.imp (congrArg some) id

/-! ## Steps and runs -/

/-- What the end of the list does: nothing but for the flag, or a load of the next
page. -/
theorem onEndReached_cases {s u : State φ α} (h : step sc page s .onEndReached = some u) :
    u = s ∨ u = { s with calledDuringMomentum := true } ∨
      ∃ list, s.list = some list ∧ s.calledDuringMomentum = false ∧
        sc.minLength ≤ list.length ∧
        u = { loadMore sc s list with calledDuringMomentum := true } := by
  unfold step at h
  by_cases hcalled : s.calledDuringMomentum = true
  · rw [if_pos hcalled] at h
    exact Or.inl (Option.some.inj h).symm
  · rw [if_neg hcalled] at h
    obtain ⟨list, hlist, rfl⟩ := Option.map_eq_some_iff.1 h
    by_cases hlength : sc.minLength ≤ list.length
    · rw [if_pos hlength]
      exact Or.inr (Or.inr ⟨list, hlist, Bool.eq_false_iff.2 hcalled, hlength, rfl⟩)
    · rw [if_neg hlength]
      exact Or.inr (Or.inl rfl)

/-- The flag of the scroll does not matter. -/
theorem inv_flag {s : State φ α} (hs : Inv sc page s) (called : Bool) :
    Inv sc page { s with calledDuringMomentum := called } :=
  ⟨hs.read, hs.captured, hs.current⟩

theorem inv_step {s u : State φ α} {e : Event φ} (hs : Inv sc page s)
    (hok : StepOk sc page s e) (h : step sc page s e = some u) : Inv sc page u := by
  cases e with
  | select f =>
    obtain rfl := Option.some.inj h
    refine inv_fetchFirst hs ?_
    by_cases htext : sc.text f = sc.text s.filter
    · exact Or.inl htext
    · exact Or.inr (sc.change_mem s.filter f htext)
  | focus orderType =>
    obtain ⟨-, hu⟩ := Option.ite_none_right_eq_some.1 h
    obtain rfl := Option.some.inj hu
    exact inv_fetchFirst hs (Or.inr (sc.effect_mem s.filter orderType))
  | onMomentumScrollBegin =>
    obtain rfl := Option.some.inj h
    exact inv_flag hs false
  | onEndReached =>
    rcases onEndReached_cases h with rfl | rfl | ⟨list, hlist, hcalled, hlength, rfl⟩
    · exact hs
    · exact inv_flag hs true
    · exact inv_flag (inv_loadMore hs hlist (hok hcalled list hlist hlength)) true
  | reply i =>
    obtain ⟨r, hr, rfl⟩ := Option.map_eq_some_iff.1 h
    obtain ⟨hkeeps, hlast⟩ := hok r hr
    exact inv_replied hs hr hkeeps hlast

theorem inv_start (orderType : φ) : Inv sc page (start sc orderType) where
  read := by
    intro f hf
    obtain ⟨⟨hlisted, hpage⟩, -⟩ := Option.ite_none_right_eq_some.1 hf
    refine ⟨[], if_pos hlisted, ?_⟩
    change ReadUpTo (page f) [] sc.pageNumber
    rw [hpage]
    exact ReadUpTo.nil
  captured := by
    intro r hr pageNumber list hkind
    obtain ⟨g, -, rfl⟩ := List.mem_map.1 hr
    cases hkind
  current :=
    Or.inr ⟨_, List.mem_map_of_mem (sc.effect_mem sc.initial orderType), rfl⟩

theorem inv_run {orderType : φ} {es : List (Event φ)} {s : State φ α}
    (hok : (machine sc page orderType).Meets (StepOk sc page) es)
    (h : (machine sc page orderType).run es = some s) : Inv sc page s :=
  (machine sc page orderType).invariant (inv_start orderType)
    (fun _ _ _ hs hok h => inv_step hs hok h) hok h

/-- **The pages of the filter selected.**  In a run as in `StepOk` the list is the
first pages of the filter selected whenever no request is on its way, and the page
after them is the next one asked for. -/
theorem shows_pages {orderType : φ} {es : List (Event φ)} {s : State φ α}
    (hok : (machine sc page orderType).Meets (StepOk sc page) es)
    (h : (machine sc page orderType).run es = some s) (hquiet : s.inFlight = []) :
    ShowsPages sc page s := by
  have hs := inv_run hok h
  have hshown : s.shown = some (sc.text s.filter) := by
    refine hs.current.resolve_right ?_
    rintro ⟨r, hr, -⟩
    rw [hquiet] at hr
    cases hr
  obtain ⟨list, hlist, hpos, rfl⟩ := hs.read _ hshown
  have hcursor : s.pageNumber - 1 + 1 = s.pageNumber := Nat.sub_add_cancel hpos
  refine ⟨s.pageNumber - 1, hlist, hcursor.symm, ?_⟩
  intro u hu r hr
  rcases onEndReached_cases hu with rfl | rfl | ⟨list, hlist', -, -, rfl⟩
  · exact Or.inl hr
  · exact Or.inl hr
  · cases hlist.symm.trans hlist'
    refine (List.mem_append.1 hr).imp id ?_
    intro hr
    rw [List.mem_singleton.1 hr, hcursor]

/-! ## Two runs -/

/-- Two pages of every filter, the first with ten items; an item tells where it is
from. -/
def samplePage (filter : String) : ℕ → List (String × ℕ)
  | 1 => List.replicate 10 (filter, 1)
  | 2 => [(filter, 2)]
  | _ => []

/-- The projects: two pages are read, then the drafts are selected and read. -/
def sampleRun : List (Event String) :=
  [.reply 0, .onMomentumScrollBegin, .onEndReached, .reply 0, .select "draft", .reply 0]

/-- Such a run. -/
theorem shows_pages_sample : ∃ s, (machine MyProjectListing samplePage "any").run sampleRun =
    some s ∧ ShowsPages MyProjectListing samplePage s := by
  have hok : (machine MyProjectListing samplePage "any").Meets
      (StepOk MyProjectListing samplePage) sampleRun := by decide
  exact ⟨_, rfl, shows_pages hok rfl rfl⟩

/-- Two pages read with the filter `any`, shown under another one. -/
def lateState {φ : Type} (filter : φ) : State φ (String × ℕ) where
  filter := filter
  list := some (samplePage "any" 1 ++ samplePage "any" 2)
  pageNumber := 3
  calledDuringMomentum := true
  inFlight := []
  shown := some "any"

theorem not_showsPages_lateState {sc : Screen φ} {filter : φ} (h : sc.text filter = "draft") :
    ¬ ShowsPages sc samplePage (lateState filter) := by
  rintro ⟨n, hlist, -⟩
  have hdraft : ∀ x ∈ Paging.pages (samplePage "draft") n, x.1 = "draft" := by
    refine of_mem_pages _ ?_
    intro k x hx
    unfold samplePage at hx
    split at hx
    · rw [List.eq_of_mem_replicate hx]
    · rw [List.mem_singleton.1 hx]
    · cases hx
  have hany : ("any", 1) ∈ samplePage "any" 1 ++ samplePage "any" 2 := by decide
  have heq : samplePage "any" 1 ++ samplePage "any" 2 = Paging.pages (samplePage "draft") n := by
    rw [← h]
    exact Option.some.inj hlist
  rw [heq] at hany
  exact absurd (hdraft _ hany) (by decide)

/-- The drafts are selected while the second page of everything is on its way, and its
reply comes after the drafts: on each of the four screens. -/
theorem late_page_shown :
    ((machine MyProjectListing samplePage "any").run
        [.reply 0, .onMomentumScrollBegin, .onEndReached, .select "draft", .reply 1, .reply 0] =
        some (lateState "draft") ∧
      ¬ ShowsPages MyProjectListing samplePage (lateState "draft")) ∧
    ((machine TemplateListing samplePage "").run
        [.select "any", .reply 0, .reply 0, .onMomentumScrollBegin, .onEndReached,
          .select "draft", .reply 1, .reply 0] = some (lateState "draft") ∧
      ¬ ShowsPages TemplateListing samplePage (lateState "draft")) ∧
    ((machine Task samplePage (.text "any")).run
        [.reply 0, .reply 0, .onMomentumScrollBegin, .onEndReached, .select (.picked ["draft"]),
          .reply 1, .reply 0] = some (lateState (.picked ["draft"])) ∧
      ¬ ShowsPages Task samplePage (lateState (.picked ["draft"]))) ∧
    (machine TaskListing samplePage ["any"]).run
        [.reply 0, .onMomentumScrollBegin, .onEndReached, .select ["draft"], .reply 1,
          .reply 0] = some (lateState ["draft"]) ∧
      ¬ ShowsPages TaskListing samplePage (lateState ["draft"]) := by
  refine ⟨⟨by decide, ?_⟩, ⟨by decide, ?_⟩, ⟨by decide, ?_⟩, by decide, ?_⟩
  · exact not_showsPages_lateState rfl
  · exact not_showsPages_lateState rfl
  · exact not_showsPages_lateState rfl
  · exact not_showsPages_lateState rfl

end Listing
