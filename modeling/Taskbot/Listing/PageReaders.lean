import Mathlib
import Taskbot.Async.Machine
import Taskbot.Async.Paging

/-!
# The lists that are scrolled to their end

The invoices, the recommended freelancers and the projects found are read page by page: the
next page is asked for when the list is scrolled to its end, and any number of requests can be
on their way.  The handler of a later page appends it to the list of the moment it was asked
for, and sets the cursor from the one of that moment.

* `Screen` — the three screens, and what they do not have in common.
* `State`, `step` — a screen with its requests; a server that may answer the same request with
  other items the next time.
* `read_run` — **the list and the cursor never disagree**: after every run the list is one
  answer for each page before the cursor, in order, and so it is for the list and the page of
  every request on its way.
* `StepOk` — what is stored begins with what was added to the list since it was asked for.
* `grows_iff` — **no row is ever lost from the list exactly when that is so.**
-/

namespace PageReaders

/-! ## Screens -/

/-- The screens. -/
inductive Screen where
  | invoice
  | postProjectStepFour
  | projectListing
  deriving DecidableEq

/-- `useState` of the cursor. -/
def Screen.pageNumber : Screen → ℕ
  | postProjectStepFour => 1
  | invoice | projectListing => 2

/-- Is the first page asked for each time the screen comes into focus?  If not, it is once. -/
def Screen.refocus : Screen → Bool
  | projectListing => true
  | invoice | postProjectStepFour => false

/-- Does the handler of the first page set the cursor? -/
def Screen.firstSets : Screen → Bool
  | invoice => false
  | postProjectStepFour | projectListing => true

variable {α : Type}

/-- Does a handler store an answer?  The one of the invoices leaves its list when there are
none. -/
def Screen.stores : Screen → List α → Bool
  | invoice, items => !items.isEmpty
  | postProjectStepFour, _ | projectListing, _ => true

/-! ## States and steps -/

/-- The requests; a later page is asked for together with the list it will be appended to. -/
inductive Request (α : Type) where
  | first
  | more (list : List α) (page : ℕ)
  deriving DecidableEq

/-- The page a request asks for. -/
def Request.page : Request α → ℕ
  | first => 1
  | more _ page => page

/-- What its answer is appended to. -/
def Request.seen : Request α → List α
  | first => []
  | more list _ => list

/-- A screen, and the requests on their way.  `answers` is a history: each answer with the
number of its page. -/
structure State (α : Type) where
  list : List α
  page : ℕ
  calledDuringMomentum : Bool
  inFlight : List (Request α)
  answers : List (ℕ × List α)
  deriving DecidableEq

/-- What can happen. -/
inductive Event (α : Type) where
  /-- The screen comes back into focus. -/
  | focus
  | onMomentumScrollBegin
  | onEndReached
  /-- The request at place `i` is answered, with its items or with an error. -/
  | reply (i : ℕ) (answer : Option (List α))

variable (sc : Screen)

/-- The first page is asked for: `getInvoices`, `getRecommendedFreelancer`, `getProjects`. -/
def getFirst (s : State α) : State α := { s with inFlight := s.inFlight ++ [.first] }

/-- The next one is: `loadMoreInvoices`, `loadMoreRecommendedFreelancer`, `loadMoreData`. -/
def loadMore (s : State α) : State α :=
  { s with inFlight := s.inFlight ++ [.more s.list s.page] }

/-- The end of the list is heeded once per scroll, and only from ten rows on. -/
def onEndReachedHandler (s : State α) : State α :=
  if s.calledDuringMomentum then s
  else { (if 10 ≤ s.list.length then loadMore s else s) with calledDuringMomentum := true }

/-- The handlers of the answers. -/
def answered (s : State α) (items : List α) : Request α → State α
  | .first => { s with list := items, page := if sc.firstSets then 2 else s.page }
  | .more list page => { s with list := list ++ items, page := page + 1 }

/-- The handler of a request: what it does not store leaves the list and the cursor. -/
def replied (s : State α) (q : Request α) : Option (List α) → State α
  | none => s
  | some items =>
    let s := { s with answers := s.answers ++ [(q.page, items)] }
    if sc.stores items then answered sc s items q else s

/-- One event. -/
def step (s : State α) : Event α → Option (State α)
  | .focus => if sc.refocus then some (getFirst s) else none
  | .onMomentumScrollBegin => some { s with calledDuringMomentum := false }
  | .onEndReached => some (onEndReachedHandler s)
  | .reply i answer => s.inFlight[i]?.map fun q =>
      replied sc { s with inFlight := s.inFlight.eraseIdx i } q answer

/-- A screen just opened. -/
def machine : Async.Machine (State α) (Event α) :=
  ⟨getFirst ⟨[], sc.pageNumber, true, [], []⟩, step sc⟩

/-! ## The list and the cursor -/

/-- Nothing has been stored yet. -/
def Fresh (s : State α) : Prop := s.list = [] ∧ s.page = sc.pageNumber

/-- The list and the cursor of now, and those of the requests on their way; a first page that
leaves the cursor is the only request, and nothing has been stored before it. -/
structure Inv (s : State α) : Prop where
  read : Fresh sc s ∨ Paging.ReadFrom s.answers s.list s.page
  inFlight : ∀ list page, .more list page ∈ s.inFlight →
    Paging.ReadFrom s.answers list page ∧ 10 ≤ list.length
  once : sc.firstSets = false → .first ∈ s.inFlight → s.inFlight = [.first] ∧ Fresh sc s

section Inv

variable {sc} {s t : State α}

theorem refocus_of_not_firstSets (h : sc.firstSets = false) : sc.refocus = false := by
  cases sc <;> simp_all [Screen.firstSets, Screen.refocus]

theorem pageNumber_of_not_firstSets (h : sc.firstSets = false) : sc.pageNumber = 2 := by
  cases sc <;> simp_all [Screen.firstSets, Screen.pageNumber]

/-- The next page is asked for with a list that has been read. -/
theorem inv_loadMore (hs : Inv sc s) (hlist : 10 ≤ s.list.length) : Inv sc (loadMore s) := by
  have hread : Paging.ReadFrom s.answers s.list s.page := by
    rcases hs.read with ⟨hnil, -⟩ | hread
    · rw [hnil] at hlist
      simp at hlist
    · exact hread
  refine ⟨hs.read, ?_, ?_⟩
  · intro list page hq
    rcases List.mem_append.1 hq with hq | hq
    · exact hs.inFlight list page hq
    · obtain ⟨rfl, rfl⟩ : list = s.list ∧ page = s.page := by simpa using hq
      exact ⟨hread, hlist⟩
  · intro hsets hq
    have hfirst : Request.first ∈ s.inFlight := by simpa [loadMore] using hq
    obtain ⟨-, hnil, -⟩ := hs.once hsets hfirst
    rw [hnil] at hlist
    simp at hlist

theorem inv_onEndReachedHandler (hs : Inv sc s) : Inv sc (onEndReachedHandler s) := by
  unfold onEndReachedHandler
  split
  · exact hs
  · split
    · rename_i hlist
      have hmore := inv_loadMore hs hlist
      exact ⟨hmore.read, hmore.inFlight, hmore.once⟩
    · exact ⟨hs.read, hs.inFlight, hs.once⟩

/-- After an answer, a first page that leaves the cursor is on its way no more. -/
theorem not_first_of_answered (hs : Inv sc s) {i : ℕ} {q : Request α}
    (hq : s.inFlight[i]? = some q) (hsets : sc.firstSets = false) :
    .first ∉ s.inFlight.eraseIdx i := by
  intro hfirst
  obtain ⟨honly, -⟩ := hs.once hsets (List.mem_of_mem_eraseIdx hfirst)
  have hnil : s.inFlight.eraseIdx i = [] := by
    rw [Async.eraseIdx_eq_nil_iff hq, honly, List.length_singleton]
  rw [hnil] at hfirst
  simp at hfirst

/-- The request at a place is taken out, and its answer is noted. -/
theorem inv_answers (hs : Inv sc s) {i : ℕ} {q : Request α} (hq : s.inFlight[i]? = some q)
    (answer : ℕ × List α) :
    Inv sc { s with
      inFlight := s.inFlight.eraseIdx i, answers := s.answers ++ [answer] } where
  read := hs.read.imp_right fun h => h.mono answer
  inFlight list page h := by
    obtain ⟨hread, hlist⟩ := hs.inFlight list page (List.mem_of_mem_eraseIdx h)
    exact ⟨hread.mono answer, hlist⟩
  once hsets hfirst := absurd hfirst (not_first_of_answered hs hq hsets)

/-- The request at a place fails. -/
theorem inv_failed (hs : Inv sc s) {i : ℕ} {q : Request α} (hq : s.inFlight[i]? = some q) :
    Inv sc { s with inFlight := s.inFlight.eraseIdx i } where
  read := hs.read
  inFlight list page h := hs.inFlight list page (List.mem_of_mem_eraseIdx h)
  once hsets hfirst := absurd hfirst (not_first_of_answered hs hq hsets)

theorem inv_replied (hs : Inv sc s) {i : ℕ} {q : Request α} (hq : s.inFlight[i]? = some q)
    (answer : Option (List α)) :
    Inv sc (replied sc { s with inFlight := s.inFlight.eraseIdx i } q answer) := by
  have hmem : q ∈ s.inFlight := List.mem_of_getElem? hq
  cases answer with
  | none => exact inv_failed hs hq
  | some items =>
    have hanswers := inv_answers hs hq (q.page, items)
    have hgiven : (q.page, items) ∈ s.answers ++ [(q.page, items)] := by simp
    unfold replied
    dsimp only
    split
    · refine ⟨Or.inr ?_, ?_, ?_⟩
      · cases q with
        | first =>
          have hpage : (if sc.firstSets then 2 else s.page) = 2 := by
            cases hsets : sc.firstSets with
            | true => rfl
            | false =>
              obtain ⟨-, -, hpage⟩ := hs.once hsets hmem
              simpa [pageNumber_of_not_firstSets hsets] using hpage
          simpa [answered, hpage] using Paging.ReadFrom.first hgiven
        | more list page =>
          obtain ⟨hread, -⟩ := hs.inFlight list page hmem
          exact (hread.mono (page, items)).more hgiven
      · cases q <;> exact hanswers.inFlight
      · intro hsets hfirst
        have hnot := not_first_of_answered hs hq hsets
        cases q <;> exact absurd hfirst hnot
    · exact hanswers

theorem inv_step {e : Event α} (hs : Inv sc s) (h : step sc s e = some t) : Inv sc t := by
  cases e with
  | focus =>
    obtain ⟨hrefocus, ⟨⟩⟩ := Option.ite_none_right_eq_some.1 h
    refine ⟨hs.read, fun list page hq => hs.inFlight list page ?_, fun hsets _ => ?_⟩
    · simpa [getFirst] using hq
    · rw [refocus_of_not_firstSets hsets] at hrefocus
      cases hrefocus
  | onMomentumScrollBegin =>
    cases h
    exact ⟨hs.read, hs.inFlight, hs.once⟩
  | onEndReached =>
    cases h
    exact inv_onEndReachedHandler hs
  | reply i answer =>
    obtain ⟨q, hq, rfl⟩ := Option.map_eq_some_iff.1 h
    exact inv_replied hs hq answer

theorem inv_init : Inv (α := α) sc (machine sc).init where
  read := Or.inl ⟨rfl, rfl⟩
  inFlight list page h := by simp [machine, getFirst] at h
  once _ _ := ⟨rfl, rfl, rfl⟩

end Inv

/-- **The list and the cursor never disagree.**  After every run, in whatever order the
answers come and whatever they are, the list is one answer for each page before the cursor, in
order, or nothing has been stored yet; and a page on its way is the one after the list it will
be appended to, which has at least ten rows. -/
theorem read_run {es : List (Event α)} {s : State α} (h : (machine sc).run es = some s) :
    (Fresh sc s ∨ Paging.ReadFrom s.answers s.list s.page) ∧
      ∀ list page, .more list page ∈ s.inFlight →
        Paging.ReadFrom s.answers list page ∧ 10 ≤ list.length := by
  have hinv : Inv sc s := (machine sc).invariant_run inv_init (fun _ _ _ => inv_step) h
  exact ⟨hinv.read, hinv.inFlight⟩

/-! ## The rows that stay -/

/-- What a step must meet: an answer that is stored begins with what was added to the list
since it was asked for; the first page, with the whole list. -/
def StepOk (s : State α) : Event α → Prop
  | .reply i (some items) => ∀ q ∈ s.inFlight[i]?, sc.stores items = true →
      s.list.drop q.seen.length <+: items
  | .reply _ none | .focus | .onMomentumScrollBegin | .onEndReached => True

instance [DecidableEq α] (s : State α) : ∀ e, Decidable (StepOk sc s e)
  | .reply _ (some _) => by unfold StepOk; infer_instance
  | .reply _ none | .focus | .onMomentumScrollBegin | .onEndReached => isTrue trivial

/-- What the requests on their way saw is still at the beginning of the list. -/
def Seen (s : State α) : Prop := ∀ q ∈ s.inFlight, q.seen <+: s.list

section StepOk

variable {sc} {s t : State α}

theorem list_onEndReachedHandler (s : State α) : (onEndReachedHandler s).list = s.list := by
  unfold onEndReachedHandler
  split
  · rfl
  · split <;> rfl

/-- The list after an answer that is stored. -/
theorem list_replied (s : State α) (q : Request α) (items : List α) :
    (replied sc s q (some items)).list =
      if sc.stores items then q.seen ++ items else s.list := by
  unfold replied
  dsimp only
  split
  · cases q <;> simp [answered, Request.seen]
  · rfl

/-- A step keeps the rows exactly when it meets its condition. -/
theorem prefix_iff_stepOk {e : Event α} (hs : Seen s) (h : step sc s e = some t) :
    s.list <+: t.list ↔ StepOk sc s e := by
  cases e with
  | focus =>
    obtain ⟨-, ⟨⟩⟩ := Option.ite_none_right_eq_some.1 h
    simp [StepOk, getFirst]
  | onMomentumScrollBegin =>
    cases h
    simp [StepOk]
  | onEndReached =>
    cases h
    simp [StepOk, list_onEndReachedHandler]
  | reply i answer =>
    obtain ⟨q, hq, rfl⟩ := Option.map_eq_some_iff.1 h
    cases answer with
    | none => simp [StepOk, replied]
    | some items =>
      obtain ⟨added, hadded⟩ := hs q (List.mem_of_getElem? hq)
      rw [list_replied]
      by_cases hstores : sc.stores items = true
      · -- both lists begin with what the request saw
        have hdrop : s.list.drop q.seen.length = added := by rw [← hadded, List.drop_left]
        have hiff : s.list <+: q.seen ++ items ↔ added <+: items := by
          rw [← hadded, List.prefix_append_right_inj]
        simp [StepOk, hq, hstores, hdrop, hiff]
      · simp [StepOk, hq, hstores]

/-- The requests of after a step saw what the list was before it, or before that. -/
theorem seen_of_mem_step {e : Event α} (h : step sc s e = some t) {q : Request α}
    (hq : q ∈ t.inFlight) : q ∈ s.inFlight ∨ q.seen <+: s.list := by
  cases e with
  | focus =>
    obtain ⟨-, ⟨⟩⟩ := Option.ite_none_right_eq_some.1 h
    rcases List.mem_append.1 hq with hq | hq
    · exact Or.inl hq
    · obtain rfl := List.mem_singleton.1 hq
      exact Or.inr (List.nil_prefix)
  | onMomentumScrollBegin =>
    cases h
    exact Or.inl hq
  | onEndReached =>
    cases h
    unfold onEndReachedHandler at hq
    split at hq
    · exact Or.inl hq
    · split at hq
      · rcases List.mem_append.1 hq with hq | hq
        · exact Or.inl hq
        · obtain rfl := List.mem_singleton.1 hq
          exact Or.inr List.prefix_rfl
      · exact Or.inl hq
  | reply i answer =>
    obtain ⟨r, hr, rfl⟩ := Option.map_eq_some_iff.1 h
    have hmem : q ∈ s.inFlight.eraseIdx i := by
      unfold replied at hq
      split at hq
      · exact hq
      · dsimp only at hq
        split at hq
        · cases r <;> exact hq
        · exact hq
    exact Or.inl (List.mem_of_mem_eraseIdx hmem)

theorem seen_step {e : Event α} (hs : Seen s) (hok : StepOk sc s e)
    (h : step sc s e = some t) : Seen t := by
  have hgrows := (prefix_iff_stepOk hs h).2 hok
  intro q hq
  rcases seen_of_mem_step h hq with hmem | hseen
  · exact (hs q hmem).trans hgrows
  · exact hseen.trans hgrows

end StepOk

/-- **When no row is lost.**  In a run every later list begins with every earlier one exactly
when each answer that is stored begins with what was added to the list since its request was
made. -/
theorem grows_iff {es : List (Event α)} {s : State α} (h : (machine sc).run es = some s) :
    (machine sc).Meets (StepOk sc) es ↔
      ∀ gs, gs <+: es → ∀ u, (machine sc).run gs = some u →
        ∀ fs, fs <+: gs → ∀ t, (machine sc).run fs = some t → t.list <+: u.list := by
  refine (machine sc).meets_iff_of_invariant (J := Seen)
    (I := fun gs u => ∀ fs, fs <+: gs → ∀ t, (machine sc).run fs = some t → t.list <+: u.list)
    ?_ ?_ (fun _ _ _ => seen_step) ?_ h
  · intro fs hfs t ht
    obtain rfl := List.prefix_nil.1 hfs
    cases ht
    exact List.prefix_rfl
  · intro q hq
    obtain rfl : q = .first := by simpa [machine, getFirst] using hq
    exact List.nil_prefix
  · intro gs u e v hu hseen hgrows hstep
    rw [← prefix_iff_stepOk hseen hstep]
    constructor
    · intro huv fs hfs t ht
      rcases List.prefix_concat_iff.1 hfs with rfl | hfs
      · have hv := (machine sc).run_concat_eq_some.2 ⟨u, hu, hstep⟩
        cases ht.symm.trans hv
        exact List.prefix_rfl
      · exact (hgrows fs hfs t ht).trans huv
    · intro hall
      exact hall gs (List.prefix_append gs [e]) u hu

/-! ## Two scrolls -/

/-- The rows of a page. -/
def rows (n : ℕ) : List ℕ := List.range' (10 * n) 10

/-- The end is reached twice, and the second page is answered twice. -/
def twice : List (Event ℕ) :=
  [.reply 0 (some (rows 1)), .onMomentumScrollBegin, .onEndReached, .onMomentumScrollBegin,
    .onEndReached, .reply 0 (some (rows 2)), .reply 0 (some (rows 2))]

/-- The screen after them. -/
def afterTwice : State ℕ :=
  ⟨rows 1 ++ rows 2, 3, true, [], [(1, rows 1), (2, rows 2), (2, rows 2)]⟩

theorem read_run_sample : Paging.ReadFrom afterTwice.answers (rows 1 ++ rows 2) 3 := by
  have h : (machine .invoice).run twice = some afterTwice := by decide
  rcases (read_run .invoice h).1 with ⟨hnil, -⟩ | hread
  · exact absurd hnil (by decide)
  · exact hread

theorem grows_iff_sample : rows 1 <+: afterTwice.list := by
  have h : (machine .invoice).run twice = some afterTwice := by decide
  have hok : (machine .invoice).Meets (StepOk .invoice) twice := by decide
  exact (grows_iff .invoice h).1 hok twice List.prefix_rfl _ h
    [.reply 0 (some (rows 1))] ⟨_, rfl⟩ _ rfl

/-- A page that is asked for before the first one is answered anew is appended to the older
list, and the rows that were stored meanwhile are gone. -/
example : ∃ s, (machine .projectListing).run
      [.reply 0 (some (rows 1)), .onMomentumScrollBegin, .onEndReached, .focus,
        .reply 1 (some (rows 5)), .reply 0 (some (rows 2))] = some s ∧
    s.list = rows 1 ++ rows 2 ∧ s.page = 3 :=
  ⟨_, rfl, rfl, rfl⟩

end PageReaders
