import Mathlib
import Taskbot.Js.Decimal
import Taskbot.Projects.PostProject

/-!
# The forms of the project wizard

A step of the wizard that is left and shown again fills its form from the store.  A
selection is saved as a text, and comes back as an array of one element, which is sent as
a text again.

* `FormOne`, `FormTwo` — the state variables of the two forms, with `payload`, `stored` and
  `restored`: what is sent of them, what the store keeps, and what comes back.
* `parseInt_numberText` — an id is read back from its text.
* `payload_reopened_iff` — **a form is sent as before exactly when it has a duration and a
  category.**
* `resends_iff` — the same for a form that comes back any number of times, and for one that
  a template has filled.
-/

namespace PostProject

open Js

/-! ## Selections -/

/-- What a list of choices with `single` holds: the empty text until something is chosen,
then an array of one element. -/
inductive Selection (α : Type) where
  | blank
  | one (a : α)
  deriving DecidableEq

/-- `selected.toString()`. -/
def Selection.text {α : Type} (f : α → String) : Selection α → String
  | blank => ""
  | one a => f a

/-- The text of a number. -/
def numberText : Number → String
  | none => "NaN"
  | some n => toString n

/-- What a list of choices with many holds: the empty text, or an array. -/
inductive Choices where
  | blank
  | items (l : List ℕ)
  deriving DecidableEq

/-! ## The first step -/

/-- The state variables of `PostProjectStepOne`. -/
structure FormOne where
  title : String
  zipcode : String
  minBudget : String
  maxBudget : String
  selectedDuration : Selection Number
  selectedCategory : Selection Number
  selectedLocation : Selection String
  selectedCountry : Selection String
  documents : List String
  videoUrl : String
  comment : String
  enableMileston : Bool
  selectedType : String
  deriving DecidableEq

/-- The fields of the form in the request; the files are left out. -/
@[ext]
structure PayloadOne where
  title : String
  project_type : String
  min_price : String
  max_price : String
  duration : String
  categories : String
  video_url : String
  details : String
  location : String
  zipcode : String
  country : String
  is_milestone : String
  deriving DecidableEq

/-- The form before anything is restored. -/
def FormOne.initial : FormOne where
  title := ""
  zipcode := ""
  minBudget := ""
  maxBudget := ""
  selectedDuration := .blank
  selectedCategory := .blank
  selectedLocation := .blank
  selectedCountry := .blank
  documents := []
  videoUrl := ""
  comment := ""
  enableMileston := false
  selectedType := "fixed"

/-- `formData` in `saveAndContinue`. -/
def FormOne.payload (f : FormOne) : PayloadOne where
  title := f.title
  project_type := "fixed"
  min_price := f.minBudget
  max_price := f.maxBudget
  duration := f.selectedDuration.text numberText
  categories := f.selectedCategory.text numberText
  video_url := f.videoUrl
  details := f.comment
  location := f.selectedLocation.text id
  zipcode := f.zipcode
  country := f.selectedCountry.text id
  is_milestone := if f.enableMileston then "yes" else ""

/-- `obj` in the reply handler. -/
def FormOne.stored (f : FormOne) (post_id : ℕ) : ItemOne where
  ID := some post_id
  fields :=
    { title := f.title
      project_type := "fixed"
      min_price := f.minBudget
      max_price := f.maxBudget
      duration := f.selectedDuration.text numberText
      categories := f.selectedCategory.text numberText
      video_url := f.videoUrl
      location := f.selectedLocation.text id
      zipcode := f.zipcode
      country := f.selectedCountry.text id
      is_milestone := if f.enableMileston then "yes" else ""
      details := f.comment
      attachments := f.documents }

/-- The effect of the first step when it is shown. -/
def ItemOne.restored (postedItemOne : ItemOne) : FormOne where
  title := postedItemOne.fields.title
  zipcode := postedItemOne.fields.zipcode
  minBudget := postedItemOne.fields.min_price
  maxBudget := postedItemOne.fields.max_price
  selectedDuration := .one (parseInt postedItemOne.fields.duration.toList)
  selectedCategory := .one (parseInt postedItemOne.fields.categories.toList)
  selectedLocation := .one postedItemOne.fields.location
  selectedCountry := .one postedItemOne.fields.country
  documents := postedItemOne.fields.attachments
  videoUrl := postedItemOne.fields.video_url
  comment := postedItemOne.fields.details
  enableMileston := postedItemOne.fields.is_milestone = "yes"
  selectedType := postedItemOne.fields.project_type

/-! ## The second step -/

/-- The state variables of `PostProjectStepTwo`. -/
structure FormTwo where
  selectedFreelancerNo : Selection String
  selectedExpertise : Selection String
  selectedSkills : Choices
  selectedLanguages : Choices
  deriving DecidableEq

/-- The fields of the form in the request. -/
structure PayloadTwo where
  no_of_freelancers : String
  skills : Choices
  languages : Choices
  expertise_level : String
  deriving DecidableEq

/-- `postedItemTwo`, with the choices as the form has them. -/
structure StoredTwo where
  freelancer : String
  expertise : String
  skills : Choices
  languages : Choices
  deriving DecidableEq

/-- What `saveAndContinue` sends. -/
def FormTwo.payload (f : FormTwo) : PayloadTwo where
  no_of_freelancers := f.selectedFreelancerNo.text id
  skills := f.selectedSkills
  languages := f.selectedLanguages
  expertise_level := f.selectedExpertise.text id

/-- `obj` in the reply handler. -/
def FormTwo.stored (f : FormTwo) : StoredTwo where
  freelancer := f.selectedFreelancerNo.text id
  expertise := f.selectedExpertise.text id
  skills := f.selectedSkills
  languages := f.selectedLanguages

/-- The effect of the second step when it is shown. -/
def StoredTwo.restored (postedItemTwo : StoredTwo) : FormTwo where
  selectedFreelancerNo := .one postedItemTwo.freelancer
  selectedExpertise := .one postedItemTwo.expertise
  selectedSkills := postedItemTwo.skills
  selectedLanguages := postedItemTwo.languages

/-- What a template puts there. -/
def StoredTwo.ofItem (item : ItemTwo) : StoredTwo where
  freelancer := item.freelancer
  expertise := item.expertise
  skills := .items item.skills
  languages := .items item.languages

/-! ## Numbers and their texts -/

theorem digits_concat (ds : List (Fin 10)) (d : Fin 10) :
    Decimal.digits (ds ++ [d]) = 10 * Decimal.digits ds + d := by
  simp [Decimal.digits, Nat.ofDigits_cons, add_comm]

theorem digitChar_eq (d : Fin 10) : Js.digitChar d = d.val.digitChar := by
  fin_cases d <;> rfl

/-- The digits that write a number. -/
theorem exists_digits (n : ℕ) :
    ∃ ds : List (Fin 10), ds ≠ [] ∧ Nat.toDigits 10 n = ds.map Js.digitChar ∧
      Decimal.digits ds = n := by
  induction n using Nat.strongRecOn with
  | ind n ih =>
    by_cases hn : n < 10
    · refine ⟨[⟨n, hn⟩], List.cons_ne_nil _ _, ?_, ?_⟩
      · rw [Nat.toDigits_of_lt_base hn, List.map_singleton, digitChar_eq]
      · simp [Decimal.digits]
    · obtain ⟨ds, -, hds, hvalue⟩ := ih (n / 10) (by omega)
      have hlt : n % 10 < 10 := Nat.mod_lt _ (by omega)
      refine ⟨ds ++ [⟨n % 10, hlt⟩], by simp, ?_, ?_⟩
      · rw [Nat.toDigits_of_base_le (by omega) (by omega), hds, List.map_append,
          List.map_singleton, digitChar_eq]
      · rw [digits_concat, hvalue]
        exact Nat.div_add_mod n 10

/-- The text of a whole number, as a decimal text. -/
theorem exists_decimal (n : ℤ) :
    ∃ d : Decimal, (toString n).toList = d.text ∧ d.wholePart = n := by
  cases n with
  | ofNat m =>
    obtain ⟨ds, hne, htext, hvalue⟩ := exists_digits m
    refine ⟨⟨false, ds, hne, []⟩, ?_, ?_⟩
    · show m.repr.toList = _
      rw [Nat.toList_repr, htext]
      simp [Decimal.text]
    · simp [Decimal.wholePart, Decimal.sign, hvalue]
  | negSucc m =>
    obtain ⟨ds, hne, htext, hvalue⟩ := exists_digits (m + 1)
    refine ⟨⟨true, ds, hne, []⟩, ?_, ?_⟩
    · show ("-" ++ (m + 1).repr).toList = _
      rw [String.toList_append, Nat.toList_repr, htext]
      simp [Decimal.text]
    · simp [Decimal.wholePart, Decimal.sign, hvalue, Int.negSucc_eq]

/-- Is nothing rounded of a number? -/
def IsExact (x : Number) : Prop := ∀ n ∈ x, Number.Exact n

/-- **A number is read back from its text**, and so is `NaN`. -/
theorem parseInt_numberText {x : Number} (h : IsExact x) :
    parseInt (numberText x).toList = x := by
  cases x with
  | none => rfl
  | some n =>
    obtain ⟨d, htext, hvalue⟩ := exists_decimal n
    rw [numberText, htext, parseInt_text, hvalue]
    exact h n rfl

/-! ## What comes back -/

/-- Is nothing rounded of what is selected? -/
def Selection.IsExact : Selection Number → Prop
  | blank => True
  | one x => PostProject.IsExact x

/-- A selection that is not blank is restored from its text. -/
theorem one_parseInt {sel : Selection Number} (h : sel.IsExact) (hne : sel ≠ .blank) :
    .one (parseInt (sel.text numberText).toList) = sel := by
  cases sel with
  | blank => exact absurd rfl hne
  | one x => exact congrArg Selection.one (parseInt_numberText h)

/-- A blank one becomes the text of `NaN`. -/
theorem text_parseInt_iff {sel : Selection Number} (h : sel.IsExact) :
    numberText (parseInt (sel.text numberText).toList) = sel.text numberText ↔
      sel ≠ .blank := by
  constructor
  · rintro htext rfl
    exact absurd htext (by decide)
  · intro hne
    exact congrArg (Selection.text numberText) (one_parseInt h hne)

/-- Is nothing rounded in a form? -/
def FormOne.IsExact (f : FormOne) : Prop :=
  f.selectedDuration.IsExact ∧ f.selectedCategory.IsExact

/-- What must be chosen in a form. -/
def FormOne.Filled (f : FormOne) : Prop :=
  f.selectedDuration ≠ .blank ∧ f.selectedCategory ≠ .blank

instance (f : FormOne) : Decidable f.Filled := inferInstanceAs (Decidable (_ ∧ _))

/-- The form after a save, when the step is shown again. -/
def FormOne.reopened (f : FormOne) (post_id : ℕ) : FormOne := (f.stored post_id).restored

/-- What is sent of it differs in two fields at most. -/
theorem payload_reopened (f : FormOne) (post_id : ℕ) :
    (f.reopened post_id).payload = { f.payload with
      duration := numberText (parseInt (f.selectedDuration.text numberText).toList)
      categories := numberText (parseInt (f.selectedCategory.text numberText).toList) } := by
  simp [FormOne.payload, FormOne.reopened, FormOne.stored, ItemOne.restored, Selection.text]

/-- **Sent as before.**  A form is sent as it was exactly when it has a duration and a
category. -/
theorem payload_reopened_iff {f : FormOne} (h : f.IsExact) (post_id : ℕ) :
    (f.reopened post_id).payload = f.payload ↔ f.Filled := by
  rw [FormOne.Filled, ← text_parseInt_iff h.1, ← text_parseInt_iff h.2, payload_reopened]
  simp [PayloadOne.ext_iff, FormOne.payload]

/-- The selections of a form with a duration and a category come back. -/
theorem filled_reopened {f : FormOne} (h : f.IsExact) (hfilled : f.Filled) (post_id : ℕ) :
    (f.reopened post_id).IsExact ∧ (f.reopened post_id).Filled := by
  have hduration : (f.reopened post_id).selectedDuration = f.selectedDuration :=
    one_parseInt h.1 hfilled.1
  have hcategory : (f.reopened post_id).selectedCategory = f.selectedCategory :=
    one_parseInt h.2 hfilled.2
  simp only [FormOne.IsExact, FormOne.Filled, hduration, hcategory]
  exact ⟨h, hfilled⟩

/-- So it is sent as it was, however often the step is shown again. -/
theorem payload_foldl_reopened {f : FormOne} (h : f.IsExact) (hfilled : f.Filled)
    (post_ids : List ℕ) : (post_ids.foldl FormOne.reopened f).payload = f.payload := by
  induction post_ids generalizing f with
  | nil => rfl
  | cons post_id post_ids ih =>
    obtain ⟨hexact, hfilled'⟩ := filled_reopened h hfilled post_id
    rw [List.foldl_cons, ih hexact hfilled']
    exact (payload_reopened_iff h post_id).2 hfilled

/-- The form of the second step after a save, when it is shown again. -/
def FormTwo.reopened (f : FormTwo) : FormTwo := f.stored.restored

theorem payload_iterate_reopened (f : FormTwo) (n : ℕ) :
    (FormTwo.reopened^[n] f).payload = f.payload := by
  induction n with
  | zero => rfl
  | succ n ih =>
    rw [Function.iterate_succ_apply', ← ih]
    rfl

/-! ## Templates -/

/-- The text of an id. -/
def IsId (s : String) : Prop := ∃ n : ℤ, Number.Exact n ∧ s = toString n

/-- A template whose ids are numbers. -/
structure Card where
  item : Template
  duration_ids : ∀ s ∈ item.duration, IsId s
  product_cat_ids : ∀ s ∈ item.product_cat, IsId s

/-- The values of a template, as the first step sends them.  The type of the project is
always the same. -/
def Template.payloadOne (item : Template) : PayloadOne where
  title := item.title
  project_type := "fixed"
  min_price := item.min_price
  max_price := item.max_price
  duration := item.duration.headD ""
  categories := item.product_cat.headD ""
  video_url := item.video_url
  details := item.description
  location := item.selected_location
  zipcode := item.zipcode.getD ""
  country := item.country.getD ""
  is_milestone := item.is_milestone

/-- The values of a template, as the second step sends them. -/
def Template.payloadTwo (item : Template) : PayloadTwo where
  no_of_freelancers := item.freelancers
  skills := .items item.skills
  languages := .items item.languages
  expertise_level := item.expertise_level.headD ""

/-- The first id of a template is sent, if there is one. -/
theorem headD_parseInt_iff {ids : List String} (h : ∀ s ∈ ids, IsId s) :
    numberText (parseInt (ids.headD "").toList) = ids.headD "" ↔ ids ≠ [] := by
  cases ids with
  | nil => exact iff_of_false (by decide) (fun hne => hne rfl)
  | cons s ids =>
    obtain ⟨n, hn, rfl⟩ := h s List.mem_cons_self
    have hread : parseInt (toString n).toList = some n :=
      parseInt_numberText (x := some n) fun m hm => by cases hm; exact hn
    refine iff_of_true ?_ (List.cons_ne_nil _ _)
    rw [List.headD_cons, hread]
    rfl

/-- What a template must have. -/
def Template.Filled (item : Template) : Prop :=
  item.duration ≠ [] ∧ item.product_cat ≠ [] ∧
    (item.is_milestone = "yes" ∨ item.is_milestone = "")

instance (item : Template) : Decidable item.Filled := inferInstanceAs (Decidable (_ ∧ _))

/-- **The values of a template** are sent exactly when it has a duration and a category,
and its milestones are `yes` or empty. -/
theorem payload_stepOne_iff (card : Card) :
    card.item.stepOne.restored.payload = card.item.payloadOne ↔ card.item.Filled := by
  have hmilestone : (if card.item.is_milestone = "yes" then "yes" else "") =
      card.item.is_milestone ↔ card.item.is_milestone = "yes" ∨ card.item.is_milestone = "" := by
    split
    · next hyes => simp [hyes]
    · next hno =>
      rw [or_iff_right hno]
      exact eq_comm
  rw [Template.Filled, ← headD_parseInt_iff card.duration_ids,
    ← headD_parseInt_iff card.product_cat_ids, ← hmilestone]
  simp [PayloadOne.ext_iff, FormOne.payload, ItemOne.restored, Template.stepOne,
    Template.payloadOne, Selection.text]

theorem payload_stepTwo (item : Template) :
    (StoredTwo.ofItem item.stepTwo).restored.payload = item.payloadTwo := rfl

/-! ## Both ways in -/

/-- How a wizard comes by its values: they are filled in and saved, or a template has
them. -/
inductive Draft where
  | own (one : FormOne) (exact : one.IsExact) (two : FormTwo)
  | template (card : Card)

/-- The steps send the same values whenever they are shown again, and the values of the
template they come from. -/
def Draft.Resends : Draft → Prop
  | own one _ two =>
    (∀ post_ids : List ℕ, (post_ids.foldl FormOne.reopened one).payload = one.payload) ∧
      ∀ n, (FormTwo.reopened^[n] two).payload = two.payload
  | template card =>
    card.item.stepOne.restored.payload = card.item.payloadOne ∧
      (StoredTwo.ofItem card.item.stepTwo).restored.payload = card.item.payloadTwo

/-- What it must have. -/
def Draft.Filled : Draft → Prop
  | own one _ _ => one.Filled
  | template card => card.item.Filled

/-- **When values are kept.**  For all contents of the two forms, and for all templates: the
steps send what was sent before, however often they are shown again, and what the template
has, exactly when a duration and a category are chosen; and, in a template, when its
milestones are `yes` or empty. -/
theorem resends_iff (draft : Draft) : draft.Filled ↔ draft.Resends := by
  cases draft with
  | own one exact two =>
    constructor
    · intro hfilled
      exact ⟨payload_foldl_reopened exact hfilled, payload_iterate_reopened two⟩
    · intro h
      exact (payload_reopened_iff exact 0).1 (h.1 [0])
  | template card =>
    rw [Draft.Filled, ← payload_stepOne_iff]
    exact (and_iff_left (payload_stepTwo card.item)).symm

/-- **`NaN` for a category.**  A form with no category is saved with the empty text; when
the step is shown again and saved with nothing changed, the category sent is `NaN`. -/
theorem category_nan :
    let f := { FormOne.initial with title := "Logo", selectedDuration := .one (some 7) }
    f.payload.categories = "" ∧ (f.reopened 12).payload.categories = "NaN" ∧
      (f.reopened 12).payload.duration = "7" :=
  ⟨rfl, rfl, rfl⟩

end PostProject
