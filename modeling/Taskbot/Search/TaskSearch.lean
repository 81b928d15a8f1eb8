import Mathlib
import Taskbot.Async.Machine
import Taskbot.Js.Toggle
import Taskbot.Search.Filters
import Taskbot.Store.Taxonomy

/-!
# The search for tasks

The form `NarrowSearch` in the mode for tasks: a category, a sub-category and services are
picked one below the other, and each is kept twice, as the name that is drawn and as the
slug that is sent.

* `State`, `Event`, `step` — the form, the requests for the children of what was picked,
  and the handlers.  The sheets with the lists, which only open over the form, and the
  search box in them, which only narrows the list, are left out.
* `searchTask` — the parameters of the route to the results.
* `Faithful`, `Cleared` — the search is for what the form shows, and for nothing of the
  tree.
* `faithful_iff` — **the search is for what the form shows if and only if no service is
  ever ticked, and neither "clear filters" nor another category leaves a slug behind.**
-/

namespace TaskSearch

open Async Taxonomy Search

/-! ## The form -/

/-- An item of a list of services: the object that one reply brought. -/
structure Item where
  /-- The number of the reply. -/
  reply : ℕ
  term : Taxonomy.Term
  deriving DecidableEq

/-- The requests of the form. -/
inductive Request where
  | getCategories
  | getSubCategories (id : ℕ)
  | getSubCategoriesServices (id : ℕ)
  | getSettings
  deriving DecidableEq

/-- What comes back for a request. -/
inductive Reply where
  /-- The terms asked for. -/
  | terms
  /-- The bounds of the prices. -/
  | settings (min_search_price max_search_price : String)
  /-- The `catch` branch. -/
  | failure
  deriving DecidableEq

/-- The state of the form. -/
structure State where
  text : String
  lowRange : String
  highRange : String
  minPrice : String
  maxPrice : String
  /-- The keys picked; before any, a text that is empty as this list is. -/
  selectedCountry : List String
  searchCategories : List Taxonomy.Term
  searchSubCategories : List Taxonomy.Term
  subCategoriesServices : List Item
  /-- The name of the category, as it is drawn. -/
  selectedCategories : String
  selectedSubCategories : String
  selectedCategoriesSlug : String
  selectedSubCategoriesSlug : String
  selectedServices : List Item
  spinner : Bool
  /-- The number of replies so far that brought services. -/
  replies : ℕ
  /-- The requests sent and not yet answered. -/
  inFlight : List Request
  deriving DecidableEq

/-- What can happen to the form. -/
inductive Event where
  | setText (text : String)
  | onValueChanged (low high : String)
  | setSelectedCountry (value : List String)
  | handelSelectedCategory (value : Taxonomy.Term)
  | handelSelectedSubCategory (value : Taxonomy.Term)
  | manageSelectedServices (item : Item)
  | clearAllData
  /-- The request at place `i` of those in flight is answered. -/
  | reply (i : ℕ) (r : Reply)
  deriving DecidableEq

variable (T : CategoryTree) (decode : String → String)

/-- `handelSelectedCategory(value)`.  The sub-category stays as it is. -/
def handelSelectedCategory (s : State) (value : Taxonomy.Term) : State :=
  { s with
    selectedCategories := decode value.name
    selectedCategoriesSlug := value.slug
    spinner := true
    inFlight := s.inFlight ++ [.getSubCategories value.term_id] }

/-- `handelSelectedSubCategory(value)`. -/
def handelSelectedSubCategory (s : State) (value : Taxonomy.Term) : State :=
  { s with
    selectedSubCategories := decode value.name
    selectedSubCategoriesSlug := value.slug
    spinner := true
    inFlight := s.inFlight ++ [.getSubCategoriesServices value.term_id] }

/-- `clearAllData()`.  It empties the names, and leaves the slugs as they are. -/
def clearAllData (s : State) : State :=
  { s with
    text := ""
    selectedCategories := ""
    selectedSubCategories := ""
    subCategoriesServices := []
    selectedCountry := []
    lowRange := s.minPrice
    highRange := s.maxPrice
    selectedServices := [] }

/-- The handlers of the replies. -/
def replied (s : State) : Request → Reply → Option State
  | .getCategories, .terms => some { s with searchCategories := T.terms }
  | .getSubCategories id, .terms =>
    some { s with spinner := false, searchSubCategories := T.children id }
  | .getSubCategoriesServices id, .terms =>
    some { s with
      spinner := false
      subCategoriesServices := (T.children id).map fun t => ⟨s.replies, t⟩
      replies := s.replies + 1 }
  | .getSettings, .settings min_search_price max_search_price =>
    some { s with minPrice := min_search_price, maxPrice := max_search_price }
  | .getSubCategories _, .failure | .getSubCategoriesServices _, .failure =>
    some { s with spinner := false }
  | .getCategories, .failure | .getSettings, .failure => some s
  | .getCategories, .settings _ _ | .getSubCategories _, .settings _ _
  | .getSubCategoriesServices _, .settings _ _ | .getSettings, .terms => none

/-- One event.  Categories are the terms of the first level among those listed; the
sub-categories can be opened while a category is drawn. -/
def step (s : State) : Event → Option State
  | .setText text => some { s with text := text }
  | .onValueChanged low high => some { s with lowRange := low, highRange := high }
  | .setSelectedCountry value => some { s with selectedCountry := value }
  | .handelSelectedCategory value =>
    if value ∈ s.searchCategories ∧ value.parent = 0 then
      some (handelSelectedCategory decode s value)
    else none
  | .handelSelectedSubCategory value =>
    if s.selectedCategories ≠ "" ∧ value ∈ s.searchSubCategories then
      some (handelSelectedSubCategory decode s value)
    else none
  | .manageSelectedServices item =>
    if item ∈ s.subCategoriesServices then
      some { s with selectedServices := Js.toggle s.selectedServices item }
    else none
  | .clearAllData => some (clearAllData s)
  | .reply i r =>
    s.inFlight[i]?.bind fun q => replied T { s with inFlight := s.inFlight.eraseIdx i } q r

/-- The form just opened. -/
def initial : State where
  text := ""
  lowRange := ""
  highRange := ""
  minPrice := "0"
  maxPrice := "0"
  selectedCountry := []
  searchCategories := []
  searchSubCategories := []
  subCategoriesServices := []
  selectedCategories := ""
  selectedSubCategories := ""
  selectedCategoriesSlug := ""
  selectedSubCategoriesSlug := ""
  selectedServices := []
  spinner := false
  replies := 0
  inFlight := [.getCategories, .getSettings]

/-- The form, over a tree of categories. -/
def machine : Machine State Event := ⟨initial, step T decode⟩

/-- The route to the tasks found, which `searchTask` opens.  The list of the services
ticked is made and not used. -/
def searchTask (s : State) : Params :=
  [("text", .text s.text), ("min", .text s.lowRange), ("max", .text s.highRange),
    ("location", .text (",".intercalate s.selectedCountry)),
    ("category", .text s.selectedCategoriesSlug),
    ("sub_category", .text s.selectedSubCategoriesSlug), ("services", .list [])]

/-! ## What the form shows -/

/-- The name of the sub-category, drawn below that of a category. -/
def State.shownSubCategory (s : State) : String :=
  if s.selectedCategories ≠ "" then s.selectedSubCategories else ""

/-- The slugs of the services drawn as ticked. -/
def State.shownServices (s : State) : List String :=
  (s.subCategoriesServices.filter (· ∈ s.selectedServices)).map fun item => item.term.slug

/-- A value is what a drawn name stands for: nothing, or the slug of a term of that
name. -/
def StandsFor (name : String) (v : Value) : Prop :=
  (name = "" ∧ v = .text "") ∨ ∃ t ∈ T.terms, decode t.name = name ∧ v = .text t.slug

/-- The search is for what the form shows, and goes down the tree. -/
structure Faithful (s : State) : Prop where
  category : StandsFor T decode s.selectedCategories ((searchTask s).get "category")
  sub_category : StandsFor T decode s.shownSubCategory ((searchTask s).get "sub_category")
  services : (searchTask s).get "services" = .list s.shownServices
  sub_category_child : (searchTask s).get "sub_category" = .text "" ∨
    ∃ c u, (searchTask s).get "category" = .text c ∧
      (searchTask s).get "sub_category" = .text u ∧ T.Child c u
  services_child : ∀ l, (searchTask s).get "services" = .list l → ∀ v ∈ l,
    ∃ u, (searchTask s).get "sub_category" = .text u ∧ T.Child u v

/-- The search has nothing of the tree, as on a fresh form. -/
def Cleared (s : State) : Prop :=
  ∀ name ∈ ["category", "sub_category", "services"],
    (searchTask s).get name = (searchTask initial).get name

/-- What a step must meet. -/
def StepOk (s : State) : Event → Prop
  | .handelSelectedCategory value =>
    s.selectedSubCategoriesSlug = "" ∨ T.Child value.slug s.selectedSubCategoriesSlug
  | .handelSelectedSubCategory value => T.Child s.selectedCategoriesSlug value.slug
  | .manageSelectedServices _ => False
  | .clearAllData => s.selectedCategoriesSlug = ""
  | _ => True

instance (s : State) (e : Event) : Decidable (StepOk T s e) := by
  unfold StepOk
  split <;> infer_instance

variable {T decode}

/-! ## The search, field by field -/

@[simp] theorem searchTask_category (s : State) :
    (searchTask s).get "category" = .text s.selectedCategoriesSlug := rfl

@[simp] theorem searchTask_sub_category (s : State) :
    (searchTask s).get "sub_category" = .text s.selectedSubCategoriesSlug := rfl

@[simp] theorem searchTask_services (s : State) :
    (searchTask s).get "services" = .list [] := rfl

/-- The search is cleared when both slugs are empty. -/
theorem cleared_iff (s : State) :
    Cleared s ↔ s.selectedCategoriesSlug = "" ∧ s.selectedSubCategoriesSlug = "" := by
  simp [Cleared, initial]

/-- A slug is what a name stands for. -/
theorem standsFor_text_iff {name slug : String} : StandsFor T decode name (.text slug) ↔
    (name = "" ∧ slug = "") ∨ ∃ t ∈ T.terms, decode t.name = name ∧ slug = t.slug := by
  simp [StandsFor]

/-- The name and the slug of a term. -/
theorem standsFor_term {t : Taxonomy.Term} (ht : t ∈ T.terms) :
    StandsFor T decode (decode t.name) (.text t.slug) :=
  Or.inr ⟨t, ht, rfl, rfl⟩

/-- No name stands for no slug, when every term has a name. -/
theorem standsFor_empty_iff (hdecode : ∀ t ∈ T.terms, decode t.name ≠ "") {slug : String} :
    StandsFor T decode "" (.text slug) ↔ slug = "" := by
  rw [standsFor_text_iff]
  constructor
  · rintro (⟨-, hslug⟩ | ⟨t, ht, hname, -⟩)
    · exact hslug
    · exact absurd hname (hdecode t ht)
  · rintro rfl
    exact Or.inl ⟨rfl, rfl⟩

/-- While no service is ticked, the search is about the two slugs. -/
theorem faithful_iff_slugs {s : State} (hservices : s.selectedServices = []) :
    Faithful T decode s ↔
      StandsFor T decode s.selectedCategories (.text s.selectedCategoriesSlug) ∧
      StandsFor T decode s.shownSubCategory (.text s.selectedSubCategoriesSlug) ∧
      (s.selectedSubCategoriesSlug = "" ∨
        T.Child s.selectedCategoriesSlug s.selectedSubCategoriesSlug) := by
  constructor
  · intro hs
    have hchild := hs.sub_category_child
    simp only [searchTask_sub_category, searchTask_category, Value.text.injEq] at hchild
    refine ⟨hs.category, hs.sub_category, hchild.imp_right ?_⟩
    rintro ⟨c, u, rfl, rfl, hcu⟩
    exact hcu
  · rintro ⟨hcategory, hsub, hchild⟩
    refine ⟨hcategory, hsub, ?_, ?_, ?_⟩
    · simp [State.shownServices, hservices]
    · rw [searchTask_sub_category, Value.text.injEq]
      exact hchild.imp_right fun hcu => ⟨_, _, rfl, rfl, hcu⟩
    · intro l hl v hv
      obtain rfl : [] = l := by simpa using hl
      cases hv

/-- The search stays for what the form shows while the names and the slugs do. -/
theorem faithful_of_eq {s t : State} (hs : Faithful T decode s)
    (hservices : s.selectedServices = []) (hservices' : t.selectedServices = [])
    (hcategory : t.selectedCategories = s.selectedCategories)
    (hsub : t.shownSubCategory = s.shownSubCategory)
    (hslug : t.selectedCategoriesSlug = s.selectedCategoriesSlug)
    (hsubslug : t.selectedSubCategoriesSlug = s.selectedSubCategoriesSlug) :
    Faithful T decode t := by
  rw [faithful_iff_slugs hservices', hcategory, hsub, hslug, hsubslug]
  exact (faithful_iff_slugs hservices).1 hs

/-! ## Invariants -/

/-- What the handlers keep as long as no service is ticked. -/
structure Unticked (T : CategoryTree) (s : State) : Prop where
  services : s.selectedServices = []
  sub_category : s.selectedCategories = "" → s.selectedSubCategories = ""
  categories_mem : ∀ t ∈ s.searchCategories, t ∈ T.terms
  subCategories_mem : ∀ t ∈ s.searchSubCategories, t ∈ T.terms

theorem unticked_initial : Unticked T initial :=
  ⟨rfl, fun _ => rfl, by simp [initial], by simp [initial]⟩

/-- A reply changes the lists that are offered, and the bounds of the prices. -/
theorem unticked_replied {s t : State} {q : Request} {r : Reply} (hs : Unticked T s)
    (h : replied T s q r = some t) : Unticked T t := by
  obtain ⟨hservices, hsub, hcategories, hsubs⟩ := hs
  cases q <;> cases r <;> simp only [replied, Option.some.injEq, reduceCtorEq] at h <;> subst h
  case getCategories.terms => exact ⟨hservices, hsub, fun _ ht => ht, hsubs⟩
  case getSubCategories.terms id =>
    exact ⟨hservices, hsub, hcategories, fun t ht => (T.mem_children.1 ht).1⟩
  all_goals exact ⟨hservices, hsub, hcategories, hsubs⟩

/-- The names and the slugs stay as they are when a reply is handled. -/
theorem replied_slugs {s t : State} {q : Request} {r : Reply} (h : replied T s q r = some t) :
    t.selectedCategories = s.selectedCategories ∧
      t.shownSubCategory = s.shownSubCategory ∧
      t.selectedCategoriesSlug = s.selectedCategoriesSlug ∧
      t.selectedSubCategoriesSlug = s.selectedSubCategoriesSlug := by
  cases q <;> cases r <;> simp only [replied, Option.some.injEq, reduceCtorEq] at h <;> subst h <;>
    exact ⟨rfl, rfl, rfl, rfl⟩

theorem unticked_step (hdecode : ∀ t ∈ T.terms, decode t.name ≠ "") {s t : State} {e : Event}
    (hs : Unticked T s) (hok : StepOk T s e) (h : step T decode s e = some t) : Unticked T t := by
  cases e with
  | setText text | onValueChanged low high | setSelectedCountry value =>
    cases h
    exact ⟨hs.services, hs.sub_category, hs.categories_mem, hs.subCategories_mem⟩
  | handelSelectedCategory value =>
    obtain ⟨⟨hvalue, -⟩, ⟨⟩⟩ := Option.ite_none_right_eq_some.1 h
    have hname : decode value.name ≠ "" := hdecode value (hs.categories_mem value hvalue)
    exact ⟨hs.services, fun hempty => absurd hempty hname, hs.categories_mem,
      hs.subCategories_mem⟩
  | handelSelectedSubCategory value =>
    obtain ⟨⟨hshown, -⟩, ⟨⟩⟩ := Option.ite_none_right_eq_some.1 h
    exact ⟨hs.services, fun hempty => absurd hempty hshown, hs.categories_mem,
      hs.subCategories_mem⟩
  | manageSelectedServices item => exact hok.elim
  | clearAllData =>
    cases h
    exact ⟨rfl, fun _ => rfl, hs.categories_mem, hs.subCategories_mem⟩
  | reply i r =>
    obtain ⟨q, -, hu⟩ := Option.bind_eq_some_iff.1 h
    have hs' : Unticked T { s with inFlight := s.inFlight.eraseIdx i } :=
      ⟨hs.services, hs.sub_category, hs.categories_mem, hs.subCategories_mem⟩
    exact unticked_replied hs' hu

/-! ## One step -/

/-- The name and the slug of the sub-category go together, drawn or not. -/
theorem standsFor_subCategory {s : State} (hunticked : Unticked T s) (hs : Faithful T decode s) :
    StandsFor T decode s.selectedSubCategories (.text s.selectedSubCategoriesSlug) := by
  have hsub := ((faithful_iff_slugs hunticked.services).1 hs).2.1
  by_cases hname : s.selectedCategories = ""
  · rwa [State.shownSubCategory, if_neg (not_not.2 hname), ← hunticked.sub_category hname] at hsub
  · rwa [State.shownSubCategory, if_pos hname] at hsub

/-- Another category leaves the sub-category as it is. -/
theorem faithful_category_iff (hdecode : ∀ t ∈ T.terms, decode t.name ≠ "") {s : State}
    (hunticked : Unticked T s) (hs : Faithful T decode s) {value : Taxonomy.Term}
    (hvalue : value ∈ T.terms) :
    Faithful T decode (handelSelectedCategory decode s value) ↔
      s.selectedSubCategoriesSlug = "" ∨ T.Child value.slug s.selectedSubCategoriesSlug := by
  have hsub := standsFor_subCategory hunticked hs
  have hshown : (handelSelectedCategory decode s value).shownSubCategory =
      s.selectedSubCategories := if_pos (hdecode value hvalue)
  have hservices : (handelSelectedCategory decode s value).selectedServices = [] :=
    hunticked.services
  rw [faithful_iff_slugs hservices, hshown]
  constructor
  · rintro ⟨-, -, hchild⟩
    exact hchild
  · intro hchild
    exact ⟨standsFor_term hvalue, hsub, hchild⟩

/-- Another sub-category has to be a child of the category. -/
theorem faithful_subCategory_iff {s : State} (hunticked : Unticked T s)
    (hs : Faithful T decode s) (hname : s.selectedCategories ≠ "") {value : Taxonomy.Term}
    (hvalue : value ∈ T.terms) :
    Faithful T decode (handelSelectedSubCategory decode s value) ↔
      T.Child s.selectedCategoriesSlug value.slug := by
  have hcategory := ((faithful_iff_slugs hunticked.services).1 hs).1
  have hshown : (handelSelectedSubCategory decode s value).shownSubCategory =
      decode value.name := if_pos hname
  have hservices : (handelSelectedSubCategory decode s value).selectedServices = [] :=
    hunticked.services
  have hslug : (handelSelectedSubCategory decode s value).selectedSubCategoriesSlug ≠ "" :=
    T.slug_ne_empty value hvalue
  rw [faithful_iff_slugs hservices, hshown, or_iff_right hslug]
  constructor
  · rintro ⟨-, -, hchild⟩
    exact hchild
  · intro hchild
    exact ⟨hcategory, standsFor_term hvalue, hchild⟩

/-- Clearing the form clears the search only when there was no slug to begin with. -/
theorem faithful_clearAllData_iff (hdecode : ∀ t ∈ T.terms, decode t.name ≠ "") {s : State}
    (hunticked : Unticked T s) (hs : Faithful T decode s) :
    s.selectedCategoriesSlug = "" ↔
      Faithful T decode (clearAllData s) ∧ Cleared (clearAllData s) := by
  have hslugs : (clearAllData s).selectedCategoriesSlug = s.selectedCategoriesSlug ∧
      (clearAllData s).selectedSubCategoriesSlug = s.selectedSubCategoriesSlug := ⟨rfl, rfl⟩
  rw [cleared_iff, hslugs.1, hslugs.2]
  constructor
  · intro hslug
    have hchild := ((faithful_iff_slugs hunticked.services).1 hs).2.2
    rw [hslug] at hchild
    have hsub : s.selectedSubCategoriesSlug = "" := hchild.resolve_right (T.not_child_empty _)
    refine ⟨(faithful_iff_slugs rfl).2 ⟨?_, ?_, Or.inl hsub⟩, hslug, hsub⟩
    · exact (standsFor_empty_iff hdecode).2 hslug
    · exact (standsFor_empty_iff hdecode).2 hsub
  · rintro ⟨-, hslug, -⟩
    exact hslug

/-- A service drawn as ticked is not searched for. -/
theorem not_faithful_manageSelectedServices {s : State} (hunticked : Unticked T s) {item : Item}
    (hitem : item ∈ s.subCategoriesServices) :
    ¬ Faithful T decode
      { s with selectedServices := Js.toggle s.selectedServices item } := by
  intro hs
  have hnone := hs.services
  rw [searchTask_services, Value.list.injEq, hunticked.services,
    Js.toggle_of_not_mem (List.not_mem_nil), List.nil_append, State.shownServices] at hnone
  have hmem : item ∈ s.subCategoriesServices.filter (· ∈ [item]) := by
    simp [hitem]
  have hempty := List.map_eq_nil_iff.1 hnone.symm
  rw [hempty] at hmem
  cases hmem

/-- **One step.** -/
theorem faithful_step_iff (hdecode : ∀ t ∈ T.terms, decode t.name ≠ "") {s t : State} {e : Event}
    (hunticked : Unticked T s) (hs : Faithful T decode s) (h : step T decode s e = some t) :
    StepOk T s e ↔ Faithful T decode t ∧ (e = .clearAllData → Cleared t) := by
  cases e with
  | setText text | onValueChanged low high | setSelectedCountry value =>
    cases h
    refine iff_of_true trivial ⟨?_, fun hclear => nomatch hclear⟩
    exact faithful_of_eq hs hunticked.services hunticked.services rfl rfl rfl rfl
  | handelSelectedCategory value =>
    obtain ⟨⟨hvalue, -⟩, ⟨⟩⟩ := Option.ite_none_right_eq_some.1 h
    have hmem := hunticked.categories_mem value hvalue
    rw [faithful_category_iff hdecode hunticked hs hmem]
    simp [StepOk]
  | handelSelectedSubCategory value =>
    obtain ⟨⟨hname, hvalue⟩, ⟨⟩⟩ := Option.ite_none_right_eq_some.1 h
    have hmem := hunticked.subCategories_mem value hvalue
    rw [faithful_subCategory_iff hunticked hs hname hmem]
    simp [StepOk]
  | manageSelectedServices item =>
    obtain ⟨hitem, ⟨⟩⟩ := Option.ite_none_right_eq_some.1 h
    exact iff_of_false id fun ht => not_faithful_manageSelectedServices hunticked hitem ht.1
  | clearAllData =>
    cases h
    rw [forall_prop_of_true rfl]
    exact faithful_clearAllData_iff hdecode hunticked hs
  | reply i r =>
    obtain ⟨q, -, hu⟩ := Option.bind_eq_some_iff.1 h
    have hs' : Unticked T { s with inFlight := s.inFlight.eraseIdx i } :=
      ⟨hunticked.services, hunticked.sub_category, hunticked.categories_mem,
        hunticked.subCategories_mem⟩
    obtain ⟨hcategory, hsub, hslug, hsubslug⟩ := replied_slugs hu
    refine iff_of_true trivial ⟨?_, fun hclear => nomatch hclear⟩
    exact faithful_of_eq hs hunticked.services (unticked_replied hs' hu).services hcategory hsub
      hslug hsubslug

/-! ## Runs -/

/-- **The search for tasks.**  All along a run the search is for what the form shows, and
for nothing of the tree right after "clear filters", if and only if no service is ticked,
filters are cleared only before a category was picked, a sub-category is picked only below
the category, and another category only above the sub-category. -/
theorem faithful_iff (hdecode : ∀ t ∈ T.terms, decode t.name ≠ "") {es : List Event} {s : State}
    (h : (machine T decode).run es = some s) :
    (machine T decode).Meets (StepOk T) es ↔
      ∀ fs, fs <+: es → ∀ t, (machine T decode).run fs = some t →
        Faithful T decode t ∧ (fs.getLast? = some .clearAllData → Cleared t) := by
  have hfaithful : Faithful T decode initial :=
    (faithful_iff_slugs rfl).2 ⟨Or.inl ⟨rfl, rfl⟩, Or.inl ⟨rfl, rfl⟩, Or.inl rfl⟩
  refine (machine T decode).meets_iff_of_invariant (J := Unticked T)
    (I := fun fs t => Faithful T decode t ∧ (fs.getLast? = some .clearAllData → Cleared t))
    ⟨hfaithful, fun hclear => nomatch hclear⟩ unticked_initial ?_ ?_ h
  · intro s e t hs hok hstep
    exact unticked_step hdecode hs hok hstep
  · intro es s e t _ hs hI hstep
    rw [List.getLast?_concat, Option.some.injEq]
    exact faithful_step_iff hdecode hs hI.1 hstep

/-! ## Examples -/

/-- A category and one of its sub-categories. -/
theorem faithful_sample :
    ∃ s, (machine sampleTree id).run
        [.reply 0 .terms, .handelSelectedCategory ⟨1, 0, "Design", "design"⟩,
          .reply 1 .terms, .handelSelectedSubCategory ⟨3, 1, "Logos", "logos"⟩] = some s ∧
      Faithful sampleTree id s := by
  have hok : (machine sampleTree id).Meets (StepOk sampleTree)
      [.reply 0 .terms, .handelSelectedCategory ⟨1, 0, "Design", "design"⟩,
        .reply 1 .terms, .handelSelectedSubCategory ⟨3, 1, "Logos", "logos"⟩] := by decide
  exact ⟨_, rfl, ((faithful_iff (by decide) rfl).1 hok _ List.prefix_rfl _ rfl).1⟩

/-- **What is sent is not what is shown.**  A service is ticked and the search has none;
another category is picked and the sub-category of the first is sent with it; the form is
cleared, shows nothing, and the search still has both. -/
theorem not_faithful_sample :
    ∃ s, (machine sampleTree id).run [.reply 0 .terms,
        .handelSelectedCategory ⟨1, 0, "Design", "design"⟩, .reply 1 .terms,
        .handelSelectedSubCategory ⟨3, 1, "Logos", "logos"⟩, .reply 1 .terms,
        .manageSelectedServices ⟨0, ⟨6, 3, "Vectors", "vectors"⟩⟩] = some s ∧
      s.shownServices = ["vectors"] ∧ ¬ Faithful sampleTree id s ∧
    ∃ t, (step sampleTree id s (.handelSelectedCategory ⟨2, 0, "Music", "music"⟩)) = some t ∧
      (searchTask t).get "category" = .text "music" ∧
      (searchTask t).get "sub_category" = .text "logos" ∧
      ¬ sampleTree.Child "music" "logos" ∧
    ∃ u, (step sampleTree id t .clearAllData) = some u ∧ u.selectedCategories = "" ∧
      (searchTask u).get "category" = .text "music" ∧ ¬ Cleared u := by
  refine ⟨_, rfl, by decide, fun hs => ?_, _, rfl, rfl, rfl, by decide, _, rfl, rfl, rfl, ?_⟩
  · exact absurd hs.services (by decide)
  · intro hu
    have hslug := ((cleared_iff _).1 hu).1
    exact absurd hslug (by decide)

end TaskSearch
