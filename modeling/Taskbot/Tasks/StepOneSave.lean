import Mathlib
import Taskbot.Async.Machine
import Taskbot.Js.Value
import Taskbot.Tasks.StepOneForm
import Taskbot.Tasks.StepOneTags

/-!
# Saving the first step

`saveUpdateStepOne` sets the loader, calls `toString` on three selections, and sends what
it has made of the form.  The shapes of the selections depend on the effect that filled
the form and on what was picked since.

* `Form`, `step` — the whole form: the categories and the tags as before, and the fields
  beside them.
* `payload`, `saveUpdateStepOne` — what is sent, if nothing throws.
* `Inv`, `inv_step` — **one selection has nothing to call a method on, and only for a new
  task of which no category has been picked since the form was shown.**
* `saves_iff` — every save sends its request, and the loader is set only while an answer
  is still to come, exactly when no such task is saved.
-/

namespace PostTaskSave

open Taxonomy
open PostTaskStepOne (SubCategory)
open PostTaskTags (Arrays Tag TagsTaxonomy)

/-! ## The form -/

/-- What the form reads of the task that is edited. -/
structure Item where
  task_name : String
  category_arr : List Term
  country : Js.Atom
  zipcode : Js.Atom
  task_content : String
  tags_arr : List Tag
  deriving DecidableEq

/-- `taskbot_service`. -/
structure TaskbotService where
  post_title : String
  category : String
  category_level2 : String
  category_level3 : List ℕ
  locations : String
  zipcode : Js.Number
  post_content : String
  /-- The tags, before they are written as one text. -/
  product_tag : List String
  deriving DecidableEq

/-- A request `create-task`. -/
structure CreateTask where
  post_id : ℕ
  user_id : ℕ
  action : String
  task_id : Option ℕ
  taskbot_service : TaskbotService
  deriving DecidableEq

/-- `userDetail`, as far as the request goes. -/
structure UserDetail where
  profile_id : ℕ
  user_id : ℕ
  deriving DecidableEq

/-- The form.  The last two fields are a history for the statements only. -/
structure Form where
  categories : PostTaskStepOne.Screen
  arrays : Arrays
  title : String
  selectedCountry : Js.Value
  zipcode : Js.Atom
  comment : String
  /-- In the store. -/
  taskId : Option ℕ
  loader : Bool
  /-- The requests `create-task` that are not answered. -/
  inFlight : ℕ
  /-- The requests `create-task` sent. -/
  sent : List CreateTask
  /-- Has a category or a sub-category been picked since the form was shown? -/
  picked : Bool
  deriving DecidableEq

/-- The answer to a save. -/
inductive Reply where
  | success (task_id : ℕ)
  | error
  | failure
  deriving DecidableEq

/-- What can happen. -/
inductive Event where
  | setTitle (text : String)
  | setZipcode (text : String)
  | setComment (body : String)
  /-- The country picked, as the list of its slug. -/
  | setSelectedCountry (value : List String)
  /-- The selections of categories, and the answers about their lists. -/
  | categories (e : PostTaskStepOne.Event)
  | addTagText (tagText : String)
  | selectAndAddTags (value : List PostTaskTags.Entry)
  | deleteTags (index : ℕ)
  /-- The form is shown again. -/
  | focus
  | saveUpdateStepOne
  /-- One of the saves is answered. -/
  | reply (r : Reply)
  deriving DecidableEq

/-- The effect on `isFocused`. -/
def effect (item : Option Item) (f : Form) : Form :=
  match item with
  | some item =>
    { f with
      categories := PostTaskStepOne.prefill item.category_arr f.categories
      arrays := PostTaskTags.prefill (some item.tags_arr)
      title := item.task_name
      selectedCountry := .array [item.country]
      zipcode := item.zipcode
      comment := item.task_content
      picked := false }
  | none =>
    { f with
      categories := PostTaskStepOne.reset f.categories
      arrays := PostTaskTags.prefill none
      title := ""
      selectedCountry := .atom (.text "")
      zipcode := .text ""
      comment := ""
      picked := false }

/-! ## The save -/

/-- `selectedCategory`: the empty text, or a list of one id. -/
def categoryValue : Option ℕ → Js.Value
  | none => .atom (.text "")
  | some id => .array [.number id]

/-- `selectedSubCategory`. -/
def subCategoryValue : SubCategory → Js.Value
  | .undefined => .atom .undefined
  | .empty => .atom (.text "")
  | .chosen id => .array [.number id]

/-- The object that is sent; `none` when a call throws. -/
def payload (f : Form) : Option TaskbotService := do
  let tagFinalArray := PostTaskTags.tagFinalArray f.arrays
  let category ← (categoryValue f.categories.selectedCategory).callToString
  let category_level2 ← (subCategoryValue f.categories.selectedSubCategory).callToString
  let locations ← f.selectedCountry.callToString
  return {
    post_title := f.title
    category := category
    category_level2 := category_level2
    category_level3 := f.categories.selectedTaskType
    locations := locations
    zipcode := f.zipcode.parseInt
    post_content := f.comment
    product_tag := tagFinalArray }

/-- The request with that object. -/
def request (user : UserDetail) (f : Form) (p : TaskbotService) : CreateTask where
  post_id := user.profile_id
  user_id := user.user_id
  action := "taskbot_add_service_inroduction_save"
  task_id := f.taskId
  taskbot_service := p

/-- The handler: the loader is set first, and nothing is sent when a call throws. -/
def saveUpdateStepOne (user : UserDetail) (f : Form) : Form :=
  let f := { f with loader := true }
  match payload f with
  | none => f
  | some p => { f with inFlight := f.inFlight + 1, sent := f.sent ++ [request user f p] }

/-- Does the event pick a category or a sub-category? -/
def picks : PostTaskStepOne.Event → Bool
  | .chooseCategory _ | .chooseSubCategory _ => true
  | .chooseTaskType _ | .focus | .reply _ _ => false

variable (user : UserDetail) (toNumber : String → Option ℕ) (tags : TagsTaxonomy)
  (T : CategoryTree) (item : Option Item)

/-- One event. -/
def step (f : Form) : Event → Option Form
  | .setTitle text => some { f with title := text }
  | .setZipcode text => some { f with zipcode := .text text }
  | .setComment body => some { f with comment := body }
  | .setSelectedCountry value => some { f with selectedCountry := .array (value.map .text) }
  | .categories .focus => none
  | .categories e =>
    (PostTaskStepOne.step (T := T) none f.categories e).map fun categories =>
      { f with categories, picked := f.picked || picks e }
  | .addTagText tagText => some { f with arrays := PostTaskTags.addTagText f.arrays tagText }
  | .selectAndAddTags value =>
    some { f with arrays := PostTaskTags.selectAndAddTags toNumber tags value }
  | .deleteTags index => some { f with arrays := PostTaskTags.deleteTags f.arrays index }
  | .focus => some (effect item f)
  | .saveUpdateStepOne => some (saveUpdateStepOne user f)
  | .reply r =>
    if f.inFlight = 0 then none
    else
      match r with
      | .success task_id =>
        some { f with loader := false, inFlight := f.inFlight - 1, taskId := some task_id }
      | .error | .failure => some { f with loader := false, inFlight := f.inFlight - 1 }

/-- The state variables before the first effect. -/
def blank (taskId : Option ℕ) : Form where
  categories := PostTaskStepOne.blank
  arrays := ⟨[], []⟩
  title := ""
  selectedCountry := .atom (.text "")
  zipcode := .text ""
  comment := ""
  taskId := taskId
  loader := false
  inFlight := 0
  sent := []
  picked := false

/-- The form shown for a task, or for a new one. -/
def machine (taskId : Option ℕ) : Async.Machine Form Event :=
  ⟨effect item (blank taskId), step user toNumber tags T item⟩

/-! ## What can throw -/

variable {user toNumber tags T item}

/-- The selection of a country is a text or a list. -/
def CountryOk (f : Form) : Prop := f.selectedCountry.callToString ≠ none

/-- The shapes of the form: the country always has a text; and there is no sub-category to
call a method on exactly for a new task of which none has been picked. -/
structure Inv (item : Option Item) (f : Form) : Prop where
  country : CountryOk f
  subCategory : f.categories.selectedSubCategory = .undefined ↔ item = none ∧ f.picked = false

/-! ## The categories -/

/-- A loop that picks some of the stored terms leaves a sub-category that is there. -/
theorem foldl_choose_ne_undefined {p : Term → Prop} [DecidablePred p]
    {choose : PostTaskStepOne.Screen → ℕ → PostTaskStepOne.Screen}
    (hchoose : ∀ s id, (choose s id).selectedSubCategory ≠ .undefined) (arr : List Term)
    {q : PostTaskStepOne.Screen × Option ℕ} (hq : q.1.selectedSubCategory ≠ .undefined) :
    (arr.foldl (fun q t => if p t then (choose q.1 t.term_id, some t.term_id) else q)
      q).1.selectedSubCategory ≠ .undefined := by
  induction arr generalizing q with
  | nil => exact hq
  | cons t arr ih =>
    rw [List.foldl_cons]
    by_cases ht : p t
    · rw [if_pos ht]
      exact ih (hchoose q.1 t.term_id)
    · rw [if_neg ht]
      exact ih hq

/-- So filling the form from a task leaves a sub-category that is there. -/
theorem prefill_ne_undefined (arr : List Term) {s : PostTaskStepOne.Screen}
    (hs : s.selectedSubCategory ≠ .undefined) :
    (PostTaskStepOne.prefill arr s).selectedSubCategory ≠ .undefined := by
  have hchooseCategory : ∀ s id,
      (PostTaskStepOne.chooseCategory s id).selectedSubCategory ≠ .undefined :=
    fun _ _ => nofun
  have hchooseSubCategory : ∀ s id,
      (PostTaskStepOne.chooseSubCategory s id).selectedSubCategory ≠ .undefined :=
    fun _ _ => nofun
  have hcategory : (PostTaskStepOne.prefillCategory arr s).1.selectedSubCategory ≠ .undefined :=
    foldl_choose_ne_undefined hchooseCategory arr hs
  exact foldl_choose_ne_undefined hchooseSubCategory arr hcategory

/-- An event about the categories: a sub-category is there after one is picked, and stays
as it is otherwise. -/
theorem categories_cases {s t : PostTaskStepOne.Screen} {e : PostTaskStepOne.Event}
    (he : e ≠ .focus) (h : PostTaskStepOne.step (T := T) none s e = some t) :
    (picks e = true ∧ t.selectedSubCategory ≠ .undefined) ∨
      (picks e = false ∧ t.selectedSubCategory = s.selectedSubCategory) := by
  cases e with
  | chooseCategory value =>
    obtain ⟨-, ⟨⟩⟩ := Option.ite_none_right_eq_some.1 h
    exact Or.inl ⟨rfl, nofun⟩
  | chooseSubCategory value =>
    obtain ⟨-, ⟨⟩⟩ := Option.ite_none_right_eq_some.1 h
    exact Or.inl ⟨rfl, nofun⟩
  | chooseTaskType id =>
    obtain ⟨-, ⟨⟩⟩ := Option.ite_none_right_eq_some.1 h
    exact Or.inr ⟨rfl, rfl⟩
  | focus => exact absurd rfl he
  | reply i success =>
    obtain ⟨q, -, rfl⟩ := Option.map_eq_some_iff.1 h
    refine Or.inr ⟨rfl, ?_⟩
    unfold PostTaskStepOne.replied
    split <;> rfl

/-! ## The shapes in every run -/

theorem inv_effect {f : Form} (hf : item ≠ none → f.categories.selectedSubCategory ≠ .undefined) :
    Inv item (effect item f) := by
  cases item with
  | none => exact ⟨nofun, iff_of_true rfl ⟨rfl, rfl⟩⟩
  | some item =>
    refine ⟨nofun, iff_of_false ?_ fun h => Option.some_ne_none item h.1⟩
    exact prefill_ne_undefined item.category_arr (hf (Option.some_ne_none item))

theorem inv_init (taskId : Option ℕ) : Inv item (machine user toNumber tags T item taskId).init :=
  inv_effect fun _ => nofun

/-- The save leaves the selections alone. -/
theorem inv_saveUpdateStepOne {f : Form} (hf : Inv item f) :
    Inv item (saveUpdateStepOne user f) := by
  unfold saveUpdateStepOne
  simp only
  split <;> exact ⟨hf.country, hf.subCategory⟩

theorem inv_step {f g : Form} {e : Event} (hf : Inv item f)
    (h : step user toNumber tags T item f e = some g) : Inv item g := by
  cases e with
  | setTitle _ | setZipcode _ | setComment _ | addTagText _ | selectAndAddTags _
  | deleteTags _ =>
    cases h
    exact ⟨hf.country, hf.subCategory⟩
  | setSelectedCountry value =>
    cases h
    exact ⟨nofun, hf.subCategory⟩
  | categories e =>
    have he : e ≠ .focus := by
      rintro rfl
      cases h
    obtain ⟨categories, hcategories, rfl⟩ : ∃ categories,
        PostTaskStepOne.step (T := T) none f.categories e = some categories ∧
          { f with categories := categories, picked := f.picked || picks e } = g := by
      cases e <;> first | exact absurd rfl he | exact Option.map_eq_some_iff.1 h
    refine ⟨hf.country, ?_⟩
    rcases categories_cases he hcategories with ⟨hpicks, hsub⟩ | ⟨hpicks, hsub⟩
    · exact iff_of_false hsub fun h => by simp [hpicks] at h
    · simp only [hpicks, Bool.or_false]
      rw [hsub]
      exact hf.subCategory
  | focus =>
    cases h
    refine inv_effect fun hitem hundefined => ?_
    exact hitem (hf.subCategory.1 hundefined).1
  | saveUpdateStepOne =>
    cases h
    exact inv_saveUpdateStepOne hf
  | reply r =>
    obtain ⟨-, h⟩ := Option.ite_none_left_eq_some.1 h
    cases r <;> cases h <;> exact ⟨hf.country, hf.subCategory⟩

/-! ## The property -/

/-- What a step must meet: a new task is saved only once a category or a sub-category has
been picked since the form was shown. -/
def StepOk (item : Option Item) (f : Form) : Event → Prop
  | .saveUpdateStepOne => item = none → f.picked = true
  | _ => True

instance (f : Form) (e : Event) : Decidable (StepOk item f e) := by
  unfold StepOk
  split <;> infer_instance

end PostTaskSave
