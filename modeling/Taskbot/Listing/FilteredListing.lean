import Mathlib
import Taskbot.Async.Machine
import Taskbot.Async.Paging

/-!
# The filtered listings

Four screens show a list that is filtered by the server and read page by page:
the user's projects, the project templates, the orders and the user's tasks.  They
are written one by one in the source, and differ in what is collected in `Screen`;
the handlers are the same.

* `Screen` — what differs; `MyProjectListing`, `TemplateListing`, `Task`,
  `TaskListing` — the four.
* `State`, `step` — the filter, the list, the cursor, and the requests on their way.
  Neither of the two kinds of replies looks at the filter selected by then.
* `ShowsPages` — what the screen should show.

The server answers every request, with the page it has; its text `page` is a
parameter.  The overlays drawn while something is loading are left out.
-/

namespace Listing

/-! ## Requests -/

/-- The two requests: for the first page, and for a later one together with the list
its reply is going to be appended to. -/
inductive Kind (α : Type) where
  | first
  | more (pageNumber : ℕ) (list : List α)
  deriving DecidableEq

/-- A request on its way, with the filter in its address. -/
structure Request (α : Type) where
  filter : String
  kind : Kind α
  deriving DecidableEq

/-! ## Screens -/

/-- What the four screens do differently.  A filter is the value in the state; its
text is what goes into the addresses. -/
structure Screen (φ : Type) where
  /-- The filter of `useState`. -/
  initial : φ
  text : φ → String
  /-- The cursor of `useState`. -/
  pageNumber : ℕ
  /-- Is the list of `useState` the empty one?  If not, it is `undefined`. -/
  listed : Bool
  /-- The length from which more is loaded. -/
  minLength : ℕ
  /-- The effect, run when the screen is opened: from the filter selected and the one
  in the parameters of the route, the filter selected after it and the filters for
  which a first page is asked. -/
  effect : φ → φ → φ × List φ
  /-- Is the effect run when the screen comes back into view as well? -/
  refocus : Bool
  /-- The filters for which a first page is asked when one filter is changed to
  another. -/
  change : φ → φ → List φ
  /-- Does an empty first page leave the cursor? -/
  emptyFirstKeeps : Bool
  /-- Does an empty later page? -/
  emptyMoreKeeps : Bool
  effect_mem : ∀ f orderType, (effect f orderType).1 ∈ (effect f orderType).2
  change_mem : ∀ f g, text g ≠ text f → g ∈ change f g

/-- The projects of the user, for a buyer or for a seller. -/
def MyProjectListing : Screen String where
  initial := "any"
  text := id
  pageNumber := 1
  listed := false
  minLength := 10
  effect sortedValue _ := (sortedValue, [sortedValue])
  refocus := true
  change sortedValue value := if value = sortedValue then [] else [value]
  emptyFirstKeeps := false
  emptyMoreKeeps := false
  effect_mem _ _ := List.mem_singleton_self _
  change_mem f g (h : g ≠ f) := by rw [if_neg h]; exact List.mem_singleton_self g

/-- The templates of projects, filtered by the text typed. -/
def TemplateListing : Screen String where
  initial := ""
  text := id
  pageNumber := 1
  listed := true
  minLength := 0
  effect search _ := (search, [search])
  refocus := false
  change search text := if text = search then [] else [text]
  emptyFirstKeeps := false
  emptyMoreKeeps := false
  effect_mem _ _ := List.mem_singleton_self _
  change_mem f g (h : g ≠ f) := by rw [if_neg h]; exact List.mem_singleton_self g

/-- The type of orders selected: the text in the route, or the list of keys that the
drop-down gives. -/
inductive OrderType where
  | text (orderType : String)
  | picked (value : List String)
  deriving DecidableEq

/-- `toString()` of the two. -/
def OrderType.toString : OrderType → String
  | .text orderType => orderType
  | .picked value => ",".intercalate value

/-- The orders.  The effect selects the type in the route and asks for the one that
was selected before it; when that is another one, it runs again.  Every list picked
is a new value, even with the keys of the one before. -/
def Task : Screen OrderType where
  initial := .text ""
  text := OrderType.toString
  pageNumber := 2
  listed := true
  minLength := 10
  effect selectedOrderType orderType :=
    (orderType, if orderType = selectedOrderType then [selectedOrderType]
      else [selectedOrderType, orderType])
  refocus := true
  change _ value := [value]
  emptyFirstKeeps := true
  emptyMoreKeeps := true
  effect_mem f orderType := by
    dsimp only
    split
    · rename_i h
      exact List.mem_singleton.2 h
    · exact List.mem_cons_of_mem f (List.mem_singleton_self orderType)
  change_mem _ g _ := List.mem_singleton_self g

/-- The tasks of the user. -/
def TaskListing : Screen (List String) where
  initial := ["any"]
  text := ",".intercalate
  pageNumber := 2
  listed := true
  minLength := 10
  effect selectedOrderType _ := (selectedOrderType, [selectedOrderType])
  refocus := true
  change _ value := [value]
  emptyFirstKeeps := true
  emptyMoreKeeps := false
  effect_mem _ _ := List.mem_singleton_self _
  change_mem _ g _ := List.mem_singleton_self g

/-! ## States and steps -/

/-- The state of a screen and the requests on their way.  `shown` is a history: the
filter of the reply handled last. -/
structure State (φ α : Type) where
  filter : φ
  list : Option (List α)
  pageNumber : ℕ
  calledDuringMomentum : Bool
  inFlight : List (Request α)
  shown : Option String
  deriving DecidableEq

/-- What can happen. -/
inductive Event (φ : Type) where
  /-- Another filter is picked or typed. -/
  | select (filter : φ)
  /-- The screen comes back into view, with the type of orders in its route. -/
  | focus (orderType : φ)
  | onMomentumScrollBegin
  | onEndReached
  /-- The reply to the request at place `i` arrives. -/
  | reply (i : ℕ)
  deriving DecidableEq

variable {φ α : Type} (sc : Screen φ) (page : String → ℕ → List α)

/-- The first pages are asked for. -/
def fetchFirst (s : State φ α) (filters : List φ) : State φ α :=
  { s with inFlight := s.inFlight ++ filters.map fun f => ⟨sc.text f, .first⟩ }

/-- The next page is asked for, with the cursor and the list of now. -/
def loadMore (s : State φ α) (list : List α) : State φ α :=
  { s with inFlight := s.inFlight ++ [⟨sc.text s.filter, .more s.pageNumber list⟩] }

/-- The screen opened with a type of orders in its route. -/
def start (orderType : φ) : State φ α :=
  fetchFirst sc
    { filter := (sc.effect sc.initial orderType).1
      list := if sc.listed then some [] else none
      pageNumber := sc.pageNumber
      calledDuringMomentum := true
      inFlight := []
      -- an empty list with the cursor at page one is a beginning of every listing
      shown := if sc.listed ∧ sc.pageNumber = 1 then some (sc.text sc.initial) else none }
    (sc.effect sc.initial orderType).2

/-- The handlers of the two kinds of replies. -/
def replied (s : State φ α) (r : Request α) : State φ α :=
  match r.kind with
  | .first =>
    if (page r.filter 1).isEmpty ∧ sc.emptyFirstKeeps then
      { s with list := some [], shown := some r.filter }
    else { s with list := some (page r.filter 1), pageNumber := 2, shown := some r.filter }
  | .more pageNumber list =>
    { s with
      list := some (list ++ page r.filter pageNumber)
      pageNumber :=
        if (page r.filter pageNumber).isEmpty ∧ sc.emptyMoreKeeps then s.pageNumber
        else pageNumber + 1
      shown := some r.filter }

/-- One event.  The end of the list is heeded once per scroll; the length of an
`undefined` list throws. -/
def step (s : State φ α) : Event φ → Option (State φ α)
  | .select filter => some (fetchFirst sc { s with filter := filter } (sc.change s.filter filter))
  | .focus orderType =>
    if sc.refocus then
      some (fetchFirst sc { s with filter := (sc.effect s.filter orderType).1 }
        (sc.effect s.filter orderType).2)
    else none
  | .onMomentumScrollBegin => some { s with calledDuringMomentum := false }
  | .onEndReached =>
    if s.calledDuringMomentum then some s
    else s.list.map fun list =>
      { (if sc.minLength ≤ list.length then loadMore sc s list else s) with
        calledDuringMomentum := true }
  | .reply i =>
    s.inFlight[i]?.map fun r => replied sc page { s with inFlight := s.inFlight.eraseIdx i } r

/-- A listing opened with a type of orders in its route. -/
def machine (orderType : φ) : Async.Machine (State φ α) (Event φ) :=
  ⟨start sc orderType, step sc page⟩

/-- What the screen should show when no request is on its way: the first pages of the
selected filter, with the page after them the next one to be asked for. -/
def ShowsPages (s : State φ α) : Prop :=
  ∃ n, s.list = some (Paging.pages (page (sc.text s.filter)) n) ∧ s.pageNumber = n + 1 ∧
    ∀ u, step sc page s .onEndReached = some u → ∀ r ∈ u.inFlight, r ∈ s.inFlight ∨
      r = ⟨sc.text s.filter, .more (n + 1) (Paging.pages (page (sc.text s.filter)) n)⟩

end Listing
