import Mathlib
import Taskbot.Js.Pushes
import Taskbot.Store.Taxonomy

/-!
# The categories of the home screen

The home screen asks for the categories and leaves out those the settings hide, by two
nested loops: for every category and every hidden id that is not its own, the category
is pushed.

* `HideProductCat` — the setting.
* `pushDiffering`, `categoriesArray`, `getCategories` — the loops and the reply handler.
* `pushDiffering_eq` — **a category is pushed once for every hidden id that differs.**
* `categoriesArray_eq_iff` — when that leaves out exactly the hidden categories.
-/

namespace Home

open Taxonomy (Term)

/-- `settings.hide_product_cat`: absent while the settings are `{}`, the empty text, or a
list of ids. -/
inductive HideProductCat where
  | undefined
  | empty
  | ids (hide : List ℕ)
  deriving DecidableEq

/-- The ids that are hidden. -/
def HideProductCat.hidden : HideProductCat → List ℕ
  | undefined | empty => []
  | ids hide => hide

/-- The inner loop, over the hidden ids: `if (term_id != hide[j]) array.push(item)`. -/
def pushDiffering (item : Term) (hide : List ℕ) (array : List Term) : List Term :=
  hide.foldl (fun array id => if item.term_id ≠ id then array ++ [item] else array) array

/-- The loops; `none` when `settings.hide_product_cat.length` throws. -/
def categoriesArray (responseJson : List Term) : HideProductCat → Option (List Term)
  | .undefined => none
  | .empty => some responseJson
  -- `[] != ''` is false, as is `'' != ''`
  | .ids [] => some responseJson
  | .ids (id :: hide) =>
    some (responseJson.foldl (fun array item => pushDiffering item (id :: hide) array) [])

/-- What the screen and the store keep of the categories. -/
structure State where
  categories : List Term
  searchCategories : List Term
  /-- In the store. -/
  categoriesTaxonomy : List Term
  hideCategory : Bool
  categoriesSpinner : Bool
  deriving DecidableEq

/-- The reply handler of `getCategories`; an exception is caught and changes nothing. -/
def getCategories (hide_product_cat : HideProductCat) (responseJson : List Term)
    (s : State) : State :=
  match responseJson with
  | [] => { s with hideCategory := true }
  | _ :: _ =>
    match categoriesArray responseJson hide_product_cat with
    | none => s
    | some array =>
      { s with
        categories := array
        searchCategories := array
        categoriesTaxonomy := array
        categoriesSpinner := false }

/-- What the settings ask for: the categories that are not hidden. -/
def visible (hide_product_cat : HideProductCat) (responseJson : List Term) : List Term :=
  responseJson.filter fun item => item.term_id ∉ hide_product_cat.hidden

/-! ## What the loops push -/

/-- **Once for every id that differs.** -/
theorem pushDiffering_eq (item : Term) (hide : List ℕ) (array : List Term) :
    pushDiffering item hide array =
      array ++ List.replicate (hide.countP fun id => item.term_id ≠ id) item :=
  Js.foldl_push_const (fun id => item.term_id ≠ id) item hide array

theorem categoriesArray_ids {hide : List ℕ} (hhide : hide ≠ []) (responseJson : List Term) :
    categoriesArray responseJson (.ids hide) = some (responseJson.flatMap fun item =>
      List.replicate (hide.countP fun id => item.term_id ≠ id) item) := by
  obtain ⟨id, hide, rfl⟩ := List.exists_cons_of_ne_nil hhide
  rw [categoriesArray]
  simp only [pushDiffering_eq]
  rw [Js.foldl_append_flatMap, List.nil_append]

/-- When one category is pushed as often as it should be: when one id is hidden at most,
or all of them are its own. -/
theorem countP_eq_iff {hide : List ℕ} (hhide : hide ≠ []) (term_id : ℕ) :
    (hide.countP fun id => term_id ≠ id) = (if term_id ∉ hide then 1 else 0) ↔
      hide.length ≤ 1 ∨ ∀ id ∈ hide, id = term_id := by
  have hpos := List.length_pos_iff.2 hhide
  by_cases hmem : term_id ∈ hide
  · -- none may be pushed, so all ids are the one of the category
    rw [if_neg (not_not.2 hmem), List.countP_eq_zero]
    constructor
    · intro hall
      refine Or.inr fun id hid => Eq.symm ?_
      simpa using hall id hid
    · rintro (hone | hall) id hid
      · obtain ⟨a, rfl⟩ := List.length_eq_one_iff.1 (le_antisymm hone hpos)
        simp_all
      · simp [hall id hid]
  · -- every id differs, so there must be one of them
    have hcount : (hide.countP fun id => term_id ≠ id) = hide.length := by
      rw [List.countP_eq_length]
      intro id hid
      simp only [ne_eq, decide_not, Bool.not_eq_eq_eq_not, Bool.not_true, decide_eq_false_iff_not]
      rintro rfl
      exact hmem hid
    have hnever : ¬ ∀ id ∈ hide, id = term_id := by
      intro hall
      obtain ⟨id, hid⟩ := List.exists_mem_of_ne_nil hide hhide
      exact hmem (hall id hid ▸ hid)
    rw [hcount, if_pos hmem, or_iff_left hnever]
    omega

/-- What the loops need: at most one hidden id, or hidden ids that are all the id of
every category there is. -/
def HideOk (hide : List ℕ) (responseJson : List Term) : Prop :=
  hide.length ≤ 1 ∨ ∀ item ∈ responseJson, ∀ id ∈ hide, id = item.term_id

instance (hide : List ℕ) (responseJson : List Term) : Decidable (HideOk hide responseJson) := by
  unfold HideOk
  infer_instance

/-- **When the hidden categories are left out.** -/
theorem categoriesArray_eq_iff {hide_product_cat : HideProductCat}
    (hset : hide_product_cat ≠ .undefined) {responseJson : List Term}
    (hnodup : (responseJson.map Term.term_id).Nodup) :
    categoriesArray responseJson hide_product_cat = some (visible hide_product_cat responseJson) ↔
      HideOk hide_product_cat.hidden responseJson := by
  cases hide_product_cat with
  | undefined => exact absurd rfl hset
  | empty => simp [categoriesArray, visible, HideOk, HideProductCat.hidden]
  | ids hide =>
    by_cases hhide : hide = []
    · subst hhide
      simp [categoriesArray, visible, HideOk, HideProductCat.hidden]
    · rw [categoriesArray_ids hhide, Option.some_inj, visible, HideProductCat.hidden,
        Js.filter_eq_flatMap_replicate,
        Js.flatMap_replicate_eq_iff (List.Nodup.of_map _ hnodup), HideOk]
      simp only [countP_eq_iff hhide]
      by_cases hone : hide.length ≤ 1 <;> simp [hone]

/-- **When the home screen shows the visible categories.**  For categories with ids of
their own, the three lists that are written are the categories that are not hidden, in the
order of the server and each once, exactly when at most one id is hidden or all the hidden
ids are the id of the only category. -/
theorem getCategories_iff {responseJson : List Term} (hne : responseJson ≠ [])
    (hnodup : (responseJson.map Term.term_id).Nodup) {hide_product_cat : HideProductCat}
    (hset : hide_product_cat ≠ .undefined) (s : State) :
    ((getCategories hide_product_cat responseJson s).categories =
          visible hide_product_cat responseJson ∧
        (getCategories hide_product_cat responseJson s).categoriesTaxonomy =
          visible hide_product_cat responseJson) ↔
      HideOk hide_product_cat.hidden responseJson := by
  rw [← categoriesArray_eq_iff hset hnodup]
  obtain ⟨item, rest, rfl⟩ := List.exists_cons_of_ne_nil hne
  obtain ⟨array, harray⟩ :
      ∃ array, categoriesArray (item :: rest) hide_product_cat = some array := by
    cases hide_product_cat with
    | undefined => exact absurd rfl hset
    | empty => exact ⟨_, rfl⟩
    | ids hide => cases hide <;> exact ⟨_, rfl⟩
  simp [getCategories, harray]

/-- Two categories, one of them hidden. -/
theorem getCategories_iff_sample :
    (getCategories (.ids [2]) [⟨1, 0, "Design", "design"⟩, ⟨2, 0, "Music", "music"⟩]
      ⟨[], [], [], false, true⟩).categories = [⟨1, 0, "Design", "design"⟩] :=
  ((getCategories_iff (by decide) (by decide) (by decide) _).2 (by decide)).1

/-- **A category comes twice.**  Two of three categories are hidden: the third is shown
twice, and the hidden ones once. -/
theorem hidden_shown :
    (getCategories (.ids [2, 3])
        [⟨1, 0, "Design", "design"⟩, ⟨2, 0, "Music", "music"⟩, ⟨3, 0, "Video", "video"⟩]
        ⟨[], [], [], false, true⟩).categories.map Term.term_id = [1, 1, 2, 3] ∧
      (visible (.ids [2, 3])
        [⟨1, 0, "Design", "design"⟩, ⟨2, 0, "Music", "music"⟩,
          ⟨3, 0, "Video", "video"⟩]).map Term.term_id = [1] := by
  decide

end Home
