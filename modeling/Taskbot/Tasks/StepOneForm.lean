import Mathlib
import Taskbot.Async.Machine
import Taskbot.Js.Toggle
import Taskbot.Store.Taxonomy

/-!
# The form of the first step

The first step of the task wizard, `PostTaskStepOne`: a category, a sub-category and task
types, picked one below the other from lists that the server is asked for.

* `Screen`, `Event`, `step` — the three selections, the two lists, the requests for the
  lists and the handlers; the other fields of the form, which have no part in these, are
  left out.
* `Task`, `prefill` — a task whose categories are a path of the tree, and the loops that
  fill the form from it.
* `saveUpdateStepOne` — the categories in the request that saves the step.
* `Orderly` — what is saved goes down the tree, and with nothing in flight the lists are
  those below the selection.
* `orderly_iff` — **a run is orderly if and only if** what is picked is below the
  selection, no type is left over from another sub-category, and the reply that comes
  last is about the selection.
-/

namespace PostTaskStepOne

open Async Taxonomy

/-! ## The screen -/

/-- `selectedSubCategory`. -/
inductive SubCategory where
  /-- As the effect leaves it for a new task. -/
  | undefined
  /-- The empty text. -/
  | empty
  | chosen (id : ℕ)
  deriving DecidableEq

/-- The `type` of a request for a list. -/
inductive Kind where
  | sub
  | task
  deriving DecidableEq

/-- A request `get_options` for the children of a term. -/
structure Request where
  id : ℕ
  type : Kind
  deriving DecidableEq

/-- The state of the screen. -/
structure Screen where
  /-- `none` is the empty text. -/
  selectedCategory : Option ℕ
  selectedSubCategory : SubCategory
  selectedTaskType : List ℕ
  /-- The sub-categories offered, by their ids. -/
  subCategory : List ℕ
  /-- The task types offered, by their ids. -/
  taskType : List ℕ
  spinner : Bool
  subSpinner : Bool
  /-- The requests sent and not yet answered. -/
  inFlight : List Request
  deriving DecidableEq

/-- What can happen to the screen. -/
inductive Event where
  | chooseCategory (value : ℕ)
  | chooseSubCategory (value : ℕ)
  /-- A tap on a task type in its list. -/
  | chooseTaskType (id : ℕ)
  /-- The screen gets the focus again. -/
  | focus
  /-- The request at place `i` of those in flight is answered, or fails. -/
  | reply (i : ℕ) (success : Bool)
  deriving DecidableEq

/-- `getSubCatAndTaskType(id, type)`. -/
def getSubCatAndTaskType (s : Screen) (id : ℕ) (type : Kind) : Screen :=
  { s with inFlight := s.inFlight ++ [⟨id, type⟩] }

/-- `chooseCategory(value)`. -/
def chooseCategory (s : Screen) (value : ℕ) : Screen :=
  { getSubCatAndTaskType s value .sub with
    selectedCategory := some value
    spinner := true
    selectedTaskType := []
    selectedSubCategory := .empty }

/-- `chooseSubCategory(value)`.  The task types stay as they are. -/
def chooseSubCategory (s : Screen) (value : ℕ) : Screen :=
  { getSubCatAndTaskType s value .task with
    selectedSubCategory := .chosen value
    subSpinner := true }

/-! ## The task edited -/

variable (T : CategoryTree)

/-- A task whose categories are a path of the tree, in whatever order they are stored: a
category, a sub-category of it, and task types below that one. -/
structure Task where
  category_arr : List Term
  category : Option Term
  subCategory : Option Term
  taskTypes : List Term
  perm : category_arr.Perm (category.toList ++ (subCategory.toList ++ taskTypes))
  mem_terms : ∀ t ∈ category_arr, t ∈ T.terms
  category_parent : ∀ c ∈ category, c.parent = 0
  subCategory_parent : ∀ u ∈ subCategory, ∃ c ∈ category, u.parent = c.term_id
  taskTypes_parent : ∀ t ∈ taskTypes, ∃ u ∈ subCategory, t.parent = u.term_id

/-- The first loop over the stored categories, which does what picking one does; with the
id it leaves in `parentId`. -/
def prefillCategory (arr : List Term) (s : Screen) : Screen × Option ℕ :=
  arr.foldl
    (fun p t => if t.parent = 0 then (chooseCategory p.1 t.term_id, some t.term_id) else p)
    (s, none)

/-- The second loop, with the id it leaves in `childId`. -/
def prefillSubCategory (arr : List Term) (parentId : Option ℕ) (s : Screen) :
    Screen × Option ℕ :=
  arr.foldl
    (fun p t => if some t.parent = parentId then
      (chooseSubCategory p.1 t.term_id, some t.term_id) else p)
    (s, none)

/-- The third loop, and the task types it has collected. -/
def prefillTaskType (arr : List Term) (childId : Option ℕ) (s : Screen) : Screen :=
  let typeArray := (arr.filter fun t => some t.parent = childId).map Term.term_id
  { s with
    selectedTaskType := typeArray
    subSpinner := s.subSpinner || !typeArray.isEmpty }

/-- The effect for an edited task. -/
def prefill (arr : List Term) (s : Screen) : Screen :=
  let p := prefillCategory arr s
  let q := prefillSubCategory arr p.2 p.1
  prefillTaskType arr q.2 q.1

/-- The effect for a new task. -/
def reset (s : Screen) : Screen :=
  { s with
    selectedCategory := none
    selectedTaskType := []
    selectedSubCategory := .undefined }

variable {T}

/-- The effect that runs when the screen gets the focus. -/
def focused (item : Option (Task T)) (s : Screen) : Screen :=
  match item with
  | some task => prefill task.category_arr s
  | none => reset s

variable (T)

/-- The handlers of the reply about the children of a term. -/
def replied (s : Screen) (q : Request) (success : Bool) : Screen :=
  match success, q.type with
  | true, .sub => { s with subCategory := T.childIds q.id, spinner := false, subSpinner := false }
  | true, .task => { s with taskType := T.childIds q.id, spinner := false, subSpinner := false }
  | false, _ => { s with spinner := false, subSpinner := false }

variable {T}

/-- One event.  The sub-categories are drawn below a category while it is not loading, the
task types below a text that is not empty. -/
def step (item : Option (Task T)) (s : Screen) : Event → Option Screen
  | .chooseCategory value => if value ∈ T.childIds 0 then some (chooseCategory s value) else none
  | .chooseSubCategory value =>
    if s.selectedCategory ≠ none ∧ s.spinner = false ∧ value ∈ s.subCategory then
      some (chooseSubCategory s value)
    else none
  | .chooseTaskType id =>
    if s.selectedSubCategory ≠ .empty ∧ id ∈ s.taskType then
      some { s with selectedTaskType := Js.toggle s.selectedTaskType id }
    else none
  | .focus => some (focused item s)
  | .reply i success =>
    s.inFlight[i]?.map fun q => replied T { s with inFlight := s.inFlight.eraseIdx i } q success

/-- The form before the effect has run. -/
def blank : Screen := ⟨none, .empty, [], [], [], false, false, []⟩

/-- The screen opened for a task, or for a new one. -/
def machine (item : Option (Task T)) : Machine Screen Event := ⟨focused item blank, step item⟩

/-! ## What is saved, and what is offered -/

/-- The categories in the request of the first step, by their ids; `none` is the empty
text. -/
structure Payload where
  category : Option ℕ
  category_level2 : Option ℕ
  category_level3 : List ℕ
  deriving DecidableEq

/-- The request that `saveUpdateStepOne` builds; for `undefined` it throws before. -/
def saveUpdateStepOne (s : Screen) : Option Payload :=
  match s.selectedSubCategory with
  | .undefined => none
  | .empty => some ⟨s.selectedCategory, none, s.selectedTaskType⟩
  | .chosen u => some ⟨s.selectedCategory, some u, s.selectedTaskType⟩

variable (T)

/-- The categories go down the tree. -/
structure Hierarchical (p : Payload) : Prop where
  level2 : ∀ u ∈ p.category_level2, ∃ c ∈ p.category, u ∈ T.childIds c
  level3 : ∀ t ∈ p.category_level3, ∃ u ∈ p.category_level2, t ∈ T.childIds u

/-- The list of sub-categories is right for the category, if there is one. -/
def OffersSub (s : Screen) (subCategory : List ℕ) : Prop :=
  ∀ c ∈ s.selectedCategory, subCategory = T.childIds c

/-- The list of task types is right for the sub-category; it is drawn for `undefined`
too, which has no children. -/
def OffersTask (s : Screen) (taskType : List ℕ) : Prop :=
  match s.selectedSubCategory with
  | .undefined => taskType = []
  | .empty => True
  | .chosen u => taskType = T.childIds u

/-- What is saved goes down the tree, and with nothing in flight the lists are those below
the selection. -/
structure Orderly (s : Screen) : Prop where
  saved : ∀ p ∈ saveUpdateStepOne s, Hierarchical T p
  offered : s.inFlight = [] → OffersSub T s s.subCategory ∧ OffersTask T s s.taskType

/-- What the last reply must leave behind: the lists below the selection. -/
def ListsFit (s : Screen) (q : Request) (success : Bool) : Prop :=
  match success, q.type with
  | true, .sub => OffersSub T s (T.childIds q.id) ∧ OffersTask T s s.taskType
  | true, .task => OffersSub T s s.subCategory ∧ OffersTask T s (T.childIds q.id)
  | false, _ => OffersSub T s s.subCategory ∧ OffersTask T s s.taskType

variable {T}

/-- What a step must meet. -/
def StepOk (item : Option (Task T)) (s : Screen) : Event → Prop
  | .chooseCategory _ => True
  | .chooseSubCategory value =>
    (∃ c ∈ s.selectedCategory, value ∈ T.childIds c) ∧
      ∀ t ∈ s.selectedTaskType, t ∈ T.childIds value
  | .chooseTaskType id =>
    id ∈ s.selectedTaskType ∨ ∀ u, s.selectedSubCategory = .chosen u → id ∈ T.childIds u
  | .focus => item = none → s.inFlight = [] → s.taskType = []
  | .reply i success => ∀ q ∈ s.inFlight[i]?, s.inFlight.length = 1 → ListsFit T s q success

instance (s : Screen) (l : List ℕ) : Decidable (OffersSub T s l) := by
  unfold OffersSub
  infer_instance

instance (s : Screen) (l : List ℕ) : Decidable (OffersTask T s l) := by
  unfold OffersTask
  split <;> infer_instance

instance (s : Screen) (q : Request) (success : Bool) : Decidable (ListsFit T s q success) := by
  unfold ListsFit
  split <;> infer_instance

/-- Is the id below the sub-category, if one is chosen? -/
instance (u : SubCategory) (id : ℕ) : Decidable (∀ n, u = .chosen n → id ∈ T.childIds n) :=
  match u with
  | .undefined | .empty => isTrue (by simp)
  | .chosen n => decidable_of_iff (id ∈ T.childIds n) (by simp)

instance (item : Option (Task T)) (s : Screen) (e : Event) : Decidable (StepOk item s e) := by
  unfold StepOk
  split <;> infer_instance

/-! ## The loops over a path of the tree -/

theorem perm_toList {α : Type*} {l : List α} {o : Option α} (h : l.Perm o.toList) :
    l = o.toList := by
  cases o with
  | none => exact List.perm_nil.1 h
  | some a => exact List.perm_singleton.1 h

namespace Task

variable (task : Task T)

theorem mem_of_category {c : Term} (hc : c ∈ task.category) : c ∈ T.terms := by
  refine task.mem_terms c (task.perm.mem_iff.2 ?_)
  simp [Option.mem_def.1 hc]

theorem mem_of_subCategory {u : Term} (hu : u ∈ task.subCategory) : u ∈ T.terms := by
  refine task.mem_terms u (task.perm.mem_iff.2 ?_)
  simp [Option.mem_def.1 hu]

theorem mem_of_taskTypes {t : Term} (ht : t ∈ task.taskTypes) : t ∈ T.terms := by
  refine task.mem_terms t (task.perm.mem_iff.2 ?_)
  simp [ht]

/-- A category and a sub-category of it are two terms. -/
theorem subCategory_ne_category {c u : Term} (hc : c ∈ task.category)
    (hu : u ∈ task.subCategory) : u.term_id ≠ c.term_id := by
  intro hid
  obtain ⟨c', hc', hparent⟩ := task.subCategory_parent u hu
  obtain rfl : c = c' := Option.mem_unique hc hc'
  have hsame : u = c :=
    CategoryTree.eq_of_term_id_eq (task.mem_of_subCategory hu) (task.mem_of_category hc) hid
  have hzero : c.term_id = 0 := by
    rw [← hparent, hsame]
    exact task.category_parent c hc
  exact T.id_ne_zero c (task.mem_of_category hc) hzero

/-- The terms that pass a test, when they are the stored category or sub-category. -/
theorem filter_category :
    task.category_arr.filter (fun t => t.parent = 0) = task.category.toList := by
  refine perm_toList ((task.perm.filter _).trans ?_)
  have hcategory : task.category.toList.filter (fun t => t.parent = 0) =
      task.category.toList := by
    refine List.filter_eq_self.2 fun c hc => ?_
    simp [task.category_parent c (Option.mem_toList.1 hc)]
  have hsub : task.subCategory.toList.filter (fun t => t.parent = 0) = [] := by
    refine List.filter_eq_nil_iff.2 fun u hu => ?_
    obtain ⟨c, hc, hparent⟩ := task.subCategory_parent u (Option.mem_toList.1 hu)
    simp [hparent, T.id_ne_zero c (task.mem_of_category hc)]
  have htypes : task.taskTypes.filter (fun t => t.parent = 0) = [] := by
    refine List.filter_eq_nil_iff.2 fun t ht => ?_
    obtain ⟨u, hu, hparent⟩ := task.taskTypes_parent t ht
    simp [hparent, T.id_ne_zero u (task.mem_of_subCategory hu)]
  rw [List.filter_append, List.filter_append, hcategory, hsub, htypes, List.append_nil,
    List.append_nil]

theorem filter_subCategory :
    task.category_arr.filter (fun t => some t.parent = task.category.map Term.term_id) =
      task.subCategory.toList := by
  refine perm_toList ((task.perm.filter _).trans ?_)
  have hcategory : task.category.toList.filter
      (fun t => some t.parent = task.category.map Term.term_id) = [] := by
    refine List.filter_eq_nil_iff.2 fun c hc => ?_
    have hc' := Option.mem_toList.1 hc
    simp [Option.mem_def.1 hc', task.category_parent c hc',
      (T.id_ne_zero c (task.mem_of_category hc')).symm]
  have hsub : task.subCategory.toList.filter
      (fun t => some t.parent = task.category.map Term.term_id) = task.subCategory.toList := by
    refine List.filter_eq_self.2 fun u hu => ?_
    obtain ⟨c, hc, hparent⟩ := task.subCategory_parent u (Option.mem_toList.1 hu)
    simp [Option.mem_def.1 hc, hparent]
  have htypes : task.taskTypes.filter
      (fun t => some t.parent = task.category.map Term.term_id) = [] := by
    refine List.filter_eq_nil_iff.2 fun t ht => ?_
    obtain ⟨u, hu, hparent⟩ := task.taskTypes_parent t ht
    obtain ⟨c, hc, -⟩ := task.subCategory_parent u hu
    simp [Option.mem_def.1 hc, hparent, task.subCategory_ne_category hc hu]
  rw [List.filter_append, List.filter_append, hcategory, hsub, htypes, List.append_nil,
    List.nil_append]

theorem filter_taskTypes :
    (task.category_arr.filter fun t => some t.parent = task.subCategory.map Term.term_id).Perm
      task.taskTypes := by
  refine (task.perm.filter _).trans (List.Perm.of_eq ?_)
  have hcategory : task.category.toList.filter
      (fun t => some t.parent = task.subCategory.map Term.term_id) = [] := by
    refine List.filter_eq_nil_iff.2 fun c hc => ?_
    have hzero := task.category_parent c (Option.mem_toList.1 hc)
    cases hsub : task.subCategory with
    | none => simp
    | some u => simp [hzero, (T.id_ne_zero u (task.mem_of_subCategory hsub)).symm]
  have hsub : task.subCategory.toList.filter
      (fun t => some t.parent = task.subCategory.map Term.term_id) = [] := by
    refine List.filter_eq_nil_iff.2 fun u hu => ?_
    have hu' := Option.mem_toList.1 hu
    obtain ⟨c, hc, hparent⟩ := task.subCategory_parent u hu'
    simp [Option.mem_def.1 hu', hparent, (task.subCategory_ne_category hc hu').symm]
  have htypes : task.taskTypes.filter
      (fun t => some t.parent = task.subCategory.map Term.term_id) = task.taskTypes := by
    refine List.filter_eq_self.2 fun t ht => ?_
    obtain ⟨u, hu, hparent⟩ := task.taskTypes_parent t ht
    simp [Option.mem_def.1 hu, hparent]
  rw [List.filter_append, List.filter_append, hcategory, hsub, htypes, List.nil_append,
    List.nil_append]

/-- The first loop picks the stored category. -/
theorem prefillCategory_eq (s : Screen) : prefillCategory task.category_arr s =
    ((task.category.map fun c => chooseCategory s c.term_id).getD s,
      task.category.map Term.term_id) := by
  rw [prefillCategory, List.foldl_ite_left, filter_category]
  cases task.category <;> rfl

/-- The second loop picks the stored sub-category. -/
theorem prefillSubCategory_eq (s : Screen) :
    prefillSubCategory task.category_arr (task.category.map Term.term_id) s =
      ((task.subCategory.map fun u => chooseSubCategory s u.term_id).getD s,
        task.subCategory.map Term.term_id) := by
  rw [prefillSubCategory, List.foldl_ite_left, filter_subCategory]
  cases task.subCategory <;> rfl

/-- The effect: the stored category and sub-category are picked, and the task types are
the stored ones. -/
theorem prefill_eq (s : Screen) : prefill task.category_arr s =
    prefillTaskType task.category_arr (task.subCategory.map Term.term_id)
      ((task.subCategory.map fun u => chooseSubCategory
        ((task.category.map fun c => chooseCategory s c.term_id).getD s) u.term_id).getD
          ((task.category.map fun c => chooseCategory s c.term_id).getD s)) := by
  simp only [prefill, prefillCategory_eq, prefillSubCategory_eq]

end Task

/-! ## What is saved goes down the tree -/

/-- What is saved goes down the tree, said of the selections. -/
def Below (s : Screen) : Prop :=
  match s.selectedSubCategory with
  | .undefined => True
  | .empty => s.selectedTaskType = []
  | .chosen u => (∃ c ∈ s.selectedCategory, u ∈ T.childIds c) ∧
      ∀ t ∈ s.selectedTaskType, t ∈ T.childIds u

theorem saved_iff (s : Screen) :
    (∀ p ∈ saveUpdateStepOne s, Hierarchical T p) ↔ Below (T := T) s := by
  unfold saveUpdateStepOne Below
  cases s.selectedSubCategory with
  | undefined => simp
  | empty =>
    simp only [Option.mem_def, Option.some.injEq, forall_eq']
    constructor
    · intro hp
      refine List.eq_nil_iff_forall_not_mem.2 fun t ht => ?_
      obtain ⟨u, hu, -⟩ := hp.level3 t ht
      cases hu
    · intro htypes
      refine ⟨fun u hu => (nomatch hu), fun t ht => ?_⟩
      simp [htypes] at ht
  | chosen u =>
    simp only [Option.mem_def, Option.some.injEq, forall_eq']
    constructor
    · intro hp
      refine ⟨hp.level2 u rfl, fun t ht => ?_⟩
      obtain ⟨u', hu', htu⟩ := hp.level3 t ht
      cases hu'
      exact htu
    · rintro ⟨hu, htypes⟩
      refine ⟨?_, fun t ht => ⟨u, rfl, htypes t ht⟩⟩
      rintro u' ⟨⟩
      exact hu

theorem orderly_iff_below {s : Screen} : Orderly T s ↔ Below (T := T) s ∧
    (s.inFlight = [] → OffersSub T s s.subCategory ∧ OffersTask T s s.taskType) := by
  rw [← saved_iff]
  exact ⟨fun hs => ⟨hs.saved, hs.offered⟩, fun hs => ⟨hs.1, hs.2⟩⟩

/-- With a request in flight only what is saved matters. -/
theorem orderly_iff_of_inFlight {s : Screen} (h : s.inFlight ≠ []) :
    Orderly T s ↔ Below (T := T) s := by
  rw [orderly_iff_below]
  exact and_iff_left fun hnil => absurd hnil h

/-! ## One step -/

theorem orderly_chooseCategory (s : Screen) (value : ℕ) :
    Orderly T (chooseCategory s value) := by
  rw [orderly_iff_of_inFlight (by simp [chooseCategory, getSubCatAndTaskType])]
  rfl

/-- A sub-category has to be one of the category, and to have the types picked before. -/
theorem orderly_chooseSubCategory_iff (s : Screen) (value : ℕ) :
    Orderly T (chooseSubCategory s value) ↔ (∃ c ∈ s.selectedCategory, value ∈ T.childIds c) ∧
      ∀ t ∈ s.selectedTaskType, t ∈ T.childIds value := by
  rw [orderly_iff_of_inFlight (by simp [chooseSubCategory, getSubCatAndTaskType])]
  rfl

/-- Other task types change what is saved, and nothing that is offered. -/
theorem orderly_taskTypes_iff {s : Screen} (hs : Orderly T s) (types : List ℕ)
    (subSpinner : Bool) :
    Orderly T { s with selectedTaskType := types, subSpinner := subSpinner } ↔
      Below (T := T) { s with selectedTaskType := types, subSpinner := subSpinner } := by
  rw [orderly_iff_below]
  exact and_iff_left hs.offered

/-- A tap on a task type has to be on one below the sub-category, unless it takes it
away. -/
theorem below_toggle_iff {s : Screen} (hs : Below (T := T) s)
    (hempty : s.selectedSubCategory ≠ .empty) (id : ℕ) :
    Below (T := T) { s with selectedTaskType := Js.toggle s.selectedTaskType id } ↔
      id ∈ s.selectedTaskType ∨
        ∀ u, s.selectedSubCategory = .chosen u → id ∈ T.childIds u := by
  unfold Below at hs ⊢
  cases hsub : s.selectedSubCategory with
  | undefined => simp
  | empty => exact absurd hsub hempty
  | chosen u =>
    simp only [hsub] at hs
    simp only [SubCategory.chosen.injEq, forall_eq']
    rw [and_iff_right hs.1]
    by_cases hmem : id ∈ s.selectedTaskType
    · rw [Js.toggle_of_mem hmem]
      exact iff_of_true (fun t ht => hs.2 t (List.mem_of_mem_erase ht)) (Or.inl hmem)
    · rw [Js.toggle_of_not_mem hmem, or_iff_right hmem]
      constructor
      · intro hall
        exact hall id (List.mem_append_right _ (List.mem_singleton_self id))
      · intro hid t ht
        rcases List.mem_append.1 ht with ht | ht
        · exact hs.2 t ht
        · rwa [List.mem_singleton.1 ht]

/-- The task types of an edited task. -/
theorem below_prefillTaskType {s : Screen} (hs : Below (T := T) s) (task : Task T)
    (hsub : ∀ u ∈ task.subCategory, s.selectedSubCategory = .chosen u.term_id) :
    Below (T := T)
      (prefillTaskType task.category_arr (task.subCategory.map Term.term_id) s) := by
  have htypes : ∀ n ∈ (prefillTaskType task.category_arr
      (task.subCategory.map Term.term_id) s).selectedTaskType, ∃ u ∈ task.subCategory,
        n ∈ T.childIds u.term_id := by
    intro n hn
    obtain ⟨t, ht, rfl⟩ := List.mem_map.1 hn
    have ht' := (task.filter_taskTypes).mem_iff.1 ht
    obtain ⟨u, hu, hparent⟩ := task.taskTypes_parent t ht'
    refine ⟨u, hu, ?_⟩
    rw [← hparent]
    exact T.term_id_mem_childIds (task.mem_of_taskTypes ht')
  unfold Below at hs ⊢
  rw [show (prefillTaskType task.category_arr (task.subCategory.map Term.term_id)
    s).selectedSubCategory = s.selectedSubCategory from rfl]
  cases hselected : s.selectedSubCategory with
  | undefined => trivial
  | empty =>
    refine List.eq_nil_iff_forall_not_mem.2 fun n hn => ?_
    obtain ⟨u, hu, -⟩ := htypes n hn
    have := hsub u hu
    simp [hselected] at this
  | chosen u =>
    simp only [hselected] at hs
    refine ⟨hs.1, fun n hn => ?_⟩
    obtain ⟨u', hu', hchild⟩ := htypes n hn
    have hsame := hsub u' hu'
    rw [hselected, SubCategory.chosen.injEq] at hsame
    rwa [hsame]

/-- The task types of an edited task keep the screen orderly. -/
theorem orderly_prefillTaskType {s : Screen} (hs : Orderly T s) (task : Task T)
    (hsub : ∀ u ∈ task.subCategory, s.selectedSubCategory = .chosen u.term_id) :
    Orderly T
      (prefillTaskType task.category_arr (task.subCategory.map Term.term_id) s) :=
  (orderly_taskTypes_iff hs _ _).2
    (below_prefillTaskType (orderly_iff_below.1 hs).1 task hsub)

/-- The effect for an edited task keeps the screen orderly. -/
theorem orderly_prefill {s : Screen} (hs : Orderly T s) (task : Task T) :
    Orderly T (prefill task.category_arr s) := by
  rw [task.prefill_eq]
  cases hsub : task.subCategory with
  | none =>
    rw [← hsub]
    refine orderly_prefillTaskType ?_ task (by simp [hsub])
    rw [hsub]
    cases task.category with
    | none => exact hs
    | some c => exact orderly_chooseCategory s c.term_id
  | some u =>
    obtain ⟨c, hc, hparent⟩ := task.subCategory_parent u hsub
    have hchild : u.term_id ∈ T.childIds c.term_id := by
      rw [← hparent]
      exact T.term_id_mem_childIds (task.mem_of_subCategory hsub)
    rw [← hsub, Option.mem_def.1 hc]
    refine orderly_prefillTaskType ?_ task (by simp [hsub, chooseSubCategory])
    rw [hsub]
    exact (orderly_chooseSubCategory_iff _ _).2 ⟨⟨_, rfl, hchild⟩, fun t ht => (nomatch ht)⟩

/-- The effect for a new task leaves no selection, and the task types that are offered. -/
theorem orderly_reset_iff (s : Screen) :
    Orderly T (reset s) ↔ (s.inFlight = [] → s.taskType = []) := by
  rw [orderly_iff_below, and_iff_right (by trivial)]
  refine imp_congr_right fun _ => ?_
  simp [OffersSub, OffersTask, reset]

/-- The reply that comes last has to leave the lists below the selection. -/
theorem orderly_replied_iff {s : Screen} (hs : Orderly T s) {i : ℕ} {q : Request}
    (hq : s.inFlight[i]? = some q) (success : Bool) :
    Orderly T (replied T { s with inFlight := s.inFlight.eraseIdx i } q success) ↔
      (s.inFlight.length = 1 → ListsFit T s q success) := by
  have hbelow := (orderly_iff_below.1 hs).1
  have hin : (replied T { s with inFlight := s.inFlight.eraseIdx i } q success).inFlight = [] ↔
      s.inFlight.length = 1 := by
    have hsame : (replied T { s with inFlight := s.inFlight.eraseIdx i } q success).inFlight =
        s.inFlight.eraseIdx i := by
      unfold replied
      split <;> rfl
    rw [hsame, eraseIdx_eq_nil_iff hq]
  rw [orderly_iff_below, hin]
  obtain ⟨id, type⟩ := q
  cases success with
  | false => exact and_iff_right hbelow
  | true =>
    cases type with
    | sub => exact and_iff_right hbelow
    | task => exact and_iff_right hbelow

/-- **One step.** -/
theorem orderly_step_iff {item : Option (Task T)} {s t : Screen} {e : Event} (hs : Orderly T s)
    (h : step item s e = some t) : StepOk item s e ↔ Orderly T t := by
  cases e with
  | chooseCategory value =>
    obtain ⟨-, ⟨⟩⟩ := Option.ite_none_right_eq_some.1 h
    exact iff_of_true trivial (orderly_chooseCategory s value)
  | chooseSubCategory value =>
    obtain ⟨-, ⟨⟩⟩ := Option.ite_none_right_eq_some.1 h
    exact (orderly_chooseSubCategory_iff s value).symm
  | chooseTaskType id =>
    obtain ⟨⟨hempty, -⟩, ⟨⟩⟩ := Option.ite_none_right_eq_some.1 h
    have hiff := orderly_taskTypes_iff hs (Js.toggle s.selectedTaskType id) s.subSpinner
    exact (below_toggle_iff (orderly_iff_below.1 hs).1 hempty id).symm.trans hiff.symm
  | focus =>
    cases h
    cases item with
    | some task => exact iff_of_true (fun hnone => (nomatch hnone)) (orderly_prefill hs task)
    | none =>
      rw [focused, orderly_reset_iff]
      exact ⟨fun hok => hok rfl, fun hreset _ => hreset⟩
  | reply i success =>
    obtain ⟨q, hq, ⟨⟩⟩ := Option.map_eq_some_iff.1 h
    rw [orderly_replied_iff hs hq]
    simp [StepOk, hq]

/-! ## Runs -/

theorem orderly_blank : Orderly T blank := by
  rw [orderly_iff_below]
  refine ⟨rfl, fun _ => ⟨fun c hc => (nomatch hc), trivial⟩⟩

/-- **The categories of a task.**  All along a run what is saved goes down the tree, and
with nothing in flight the lists are those below the selection, if and only if a
sub-category is picked below the category and has the types picked before, a type is
picked below the sub-category, and the reply that comes last leaves the lists of the
selection. -/
theorem orderly_iff {item : Option (Task T)} {es : List Event} {s : Screen}
    (h : (machine item).run es = some s) :
    (machine item).Meets (StepOk item) es ↔
      ∀ fs, fs <+: es → ∀ t, (machine item).run fs = some t → Orderly T t := by
  have hinit : Orderly T (machine item).init := by
    cases item with
    | some task => exact orderly_prefill orderly_blank task
    | none => exact (orderly_reset_iff blank).2 fun _ => rfl
  refine (machine item).meets_iff (I := fun _ => Orderly T) hinit ?_ h
  intro _ s e t _ hs hstep
  exact orderly_step_iff hs hstep

/-- The item of a new task. -/
def newTask : Option (Task sampleTree) := none

/-- A new task whose categories are picked one after the other. -/
theorem orderly_sample :
    ∃ s, (machine newTask).run [.chooseCategory 1, .reply 0 true, .chooseSubCategory 3,
        .reply 0 true, .chooseTaskType 6] = some s ∧ Orderly sampleTree s := by
  have hok : (machine newTask).Meets (StepOk newTask) [.chooseCategory 1, .reply 0 true,
      .chooseSubCategory 3, .reply 0 true, .chooseTaskType 6] := by decide
  exact ⟨_, rfl, (orderly_iff rfl).1 hok _ List.prefix_rfl _ rfl⟩

/-- **Types of another sub-category, and a list of another category.**  A task type picked
below the sub-category 3 is still saved when the sub-category is 4; and two categories
picked in a row, with the replies the other way round, leave the sub-categories of the
first one below the second. -/
theorem not_orderly_sample :
    (∃ s, (machine newTask).run
        [.chooseCategory 1, .reply 0 true, .chooseSubCategory 3, .reply 0 true,
          .chooseTaskType 6, .chooseSubCategory 4] = some s ∧
      saveUpdateStepOne s = some ⟨some 1, some 4, [6]⟩ ∧ 6 ∉ sampleTree.childIds 4 ∧
      ¬ Orderly sampleTree s) ∧
    ∃ s, (machine newTask).run
        [.chooseCategory 1, .chooseCategory 2, .reply 1 true, .reply 0 true] = some s ∧
      s.inFlight = [] ∧ s.selectedCategory = some 2 ∧ s.subCategory = [3, 4] ∧
      sampleTree.childIds 2 = [5] ∧ ¬ Orderly sampleTree s := by
  refine ⟨⟨_, rfl, rfl, by decide, fun hs => ?_⟩, _, rfl, rfl, rfl, by decide, by decide,
    fun hs => ?_⟩
  · obtain ⟨u, hu, h6⟩ := (hs.saved _ rfl).level3 6 (by decide)
    cases hu
    exact absurd h6 (by decide)
  · have hsub := (hs.offered rfl).1 2 rfl
    exact absurd hsub (by decide)

end PostTaskStepOne
