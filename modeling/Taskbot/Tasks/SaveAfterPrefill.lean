import Mathlib
import Taskbot.Tasks.Packages

/-!
# A save right after the second step is filled

The effect writes an attribute by places and keys, a save makes an object by names.

* `foldl_fill` — the loops leave each package with the attribute that has its name.
* `getElem?_fillFields`, `fillSubFields_eq_map` — what an attribute does to a package.
* `PlanOf` — the plan that should be saved: what the attribute has, and the rest as in the
  schema.
* `save_after_load` — **a save right after loading posts that for every package, and the
  custom fields and sub-tasks as the task has them.**
-/

namespace TaskPackages

open Js (Atom Value Obj)

/-! ## The loops -/

@[simp] theorem fill_name (a : Attribute) (p : Package) : (p.fill a).name = p.name := by
  unfold Package.fill
  split <;> rfl

/-- The loops go through the attributes for each package alone. -/
theorem fillAll_eq_map (attributes : List Attribute) (packages : List Package) :
    fillAll attributes packages =
      packages.map fun p => attributes.foldl (fun p a => p.fill a) p := by
  induction attributes generalizing packages with
  | nil => exact (List.map_id packages).symm
  | cons a attributes ih =>
    have hcons : fillAll (a :: attributes) packages =
        fillAll attributes (packages.map (·.fill a)) := rfl
    rw [hcons, ih, List.map_map]
    rfl

/-- Attributes of other packages do nothing. -/
theorem foldl_fill_of_forall_ne {attributes : List Attribute} {p : Package}
    (h : ∀ a ∈ attributes, a.key ≠ p.name) : attributes.foldl (fun p a => p.fill a) p = p := by
  induction attributes with
  | nil => rfl
  | cons a attributes ih =>
    have hfill : p.fill a = p := if_neg (h a List.mem_cons_self)
    rw [List.foldl_cons, hfill]
    exact ih fun b hb => h b (List.mem_cons_of_mem a hb)

/-- A package with the attribute that has its name, if there is one. -/
def Package.filled (attributes : List Attribute) (p : Package) : Package :=
  (attributes.find? fun a => a.key = p.name).elim p fun a => p.fill a

@[simp] theorem filled_name (attributes : List Attribute) (p : Package) :
    (p.filled attributes).name = p.name := by
  unfold Package.filled
  cases attributes.find? fun a => a.key = p.name with
  | none => rfl
  | some a => exact fill_name a p

/-- **A package** is filled from that attribute alone. -/
theorem foldl_fill {attributes : List Attribute} (h : (attributes.map Attribute.key).Nodup)
    (p : Package) : attributes.foldl (fun p a => p.fill a) p = p.filled attributes := by
  unfold Package.filled
  induction attributes with
  | nil => rfl
  | cons a attributes ih =>
    rw [List.map_cons, List.nodup_cons] at h
    rw [List.foldl_cons]
    by_cases ha : a.key = p.name
    · rw [List.find?_cons_of_pos (by simpa using ha), Option.elim_some]
      refine foldl_fill_of_forall_ne fun b hb hkey => h.1 ?_
      rw [fill_name] at hkey
      rw [ha, ← hkey]
      exact List.mem_map_of_mem hb
    · have hfill : p.fill a = p := if_neg ha
      rw [hfill, List.find?_cons_of_neg (by simpa using ha)]
      exact ih h.2

/-- The fields of a package: the first five have the values of the attribute. -/
theorem getElem?_fillFields (a : Attribute) (fields : List Field) (i : ℕ) :
    (fillFields a fields)[i]? =
      fields[i]?.map fun f => f.withValue ((a.leading[i]?).getD f.field.value) := by
  unfold fillFields
  match i with
  | 0 | 1 | 2 | 3 | 4 => simp [Attribute.leading]
  | i + 5 =>
    have hleading : a.leading[i + 5]? = none := rfl
    have hself : ∀ f : Field, f.withValue f.field.value = f := fun f => rfl
    simp [hleading, hself]

/-- The value an attribute has for a key: the last of its fields counts. -/
def planValue (fields : List PlanField) (key : String) : Option Value :=
  (fields.reverse.find? fun f => f.key = key).map PlanField.plan_value

/-- The sub-fields of a package. -/
theorem fillSubFields_eq_map (fields : List PlanField) (subFields : List SubField) :
    fillSubFields fields subFields =
      subFields.map fun s => { s with value := (planValue fields s.key).getD s.value } := by
  induction fields using List.reverseRecOn with
  | nil => exact (List.map_id subFields).symm
  | append_singleton fields f ih =>
    rw [fillSubFields, List.foldl_append, List.foldl_cons, List.foldl_nil, ← fillSubFields, ih,
      List.map_map]
    refine List.map_congr_left fun s _ => ?_
    simp only [Function.comp_apply, SubField.fill, planValue, List.reverse_append,
      List.reverse_singleton, List.singleton_append, List.find?_cons]
    by_cases hkey : f.key = s.key <;> simp [hkey]

/-! ## The plans -/

/-- **The plan that should be saved** for a package of the schema and an attribute of the
task, if there is one for the package. -/
structure PlanOf (a : Option Attribute) (p : Package) (plan : Obj Value) : Prop where
  /-- There are no other names in it. -/
  names : plan.props.map Prod.fst = p.items.map Prod.fst
  /-- The first five fields are from the attribute. -/
  fields : ∀ i : ℕ, ∀ f ∈ p.fields[i]?,
    plan.get f.name = some ((a.bind (·.leading[i]?)).getD f.field.value)
  /-- So are the sub-fields it has a value for. -/
  subFields : ∀ f ∈ p.subFields,
    plan.get f.key = some ((a.bind (planValue ·.fields f.key)).getD f.value)

/-- The object of a package whose names differ. -/
theorem plan_props {p : Package} (h : (p.items.map Prod.fst).Nodup) : p.plan.props = p.items :=
  Js.fill_nil h

/-- What is saved for a field. -/
theorem plan_get_field {p : Package} (h : (p.items.map Prod.fst).Nodup) {i : ℕ} {f : Field}
    (hf : p.fields[i]? = some f) : p.plan.get f.name = some f.field.value := by
  rw [Obj.get, plan_props h]
  refine Js.lookup_of_mem h (List.mem_append_left _ ?_)
  exact List.mem_map_of_mem (f := fun f : Field => (f.name, f.field.value))
    (List.mem_of_getElem? hf)

/-- And for a sub-field. -/
theorem plan_get_subField {p : Package} (h : (p.items.map Prod.fst).Nodup) {f : SubField}
    (hf : f ∈ p.subFields) : p.plan.get f.key = some f.value := by
  rw [Obj.get, plan_props h]
  exact Js.lookup_of_mem h
    (List.mem_append_right _ (List.mem_map_of_mem (f := fun f : SubField => (f.key, f.value)) hf))

/-- The effect changes no names. -/
theorem map_fst_items_fill (a : Attribute) (p : Package) :
    (p.fill a).items.map Prod.fst = p.items.map Prod.fst := by
  unfold Package.fill
  split
  · have hfields : (fillFields a p.fields).map Field.name = p.fields.map Field.name := by
      refine List.ext_getElem? fun i => ?_
      rw [List.getElem?_map, List.getElem?_map, getElem?_fillFields, Option.map_map]
      rfl
    simp only [Package.items, List.map_append, List.map_map, fillSubFields_eq_map]
    congr 1
  · rfl

/-- A package that is filled is saved as it should be. -/
theorem planOf_fill {a : Attribute} {p : Package} (h : (p.items.map Prod.fst).Nodup)
    (ha : a.key = p.name) : PlanOf (some a) p (p.fill a).plan := by
  have hitems := map_fst_items_fill a p
  have hnodup : ((p.fill a).items.map Prod.fst).Nodup := hitems ▸ h
  have hfill : p.fill a =
      { p with fields := fillFields a p.fields, subFields := fillSubFields a.fields p.subFields } :=
    if_pos ha
  refine ⟨by rw [plan_props hnodup, hitems], fun i f hf => ?_, fun f hf => ?_⟩
  · have hfield : (p.fill a).fields[i]? =
        some (f.withValue ((a.leading[i]?).getD f.field.value)) := by
      rw [hfill]
      show (fillFields a p.fields)[i]? = _
      rw [getElem?_fillFields, Option.mem_def.1 hf, Option.map_some]
    exact plan_get_field hnodup hfield
  · have hmem : ({ f with value := (planValue a.fields f.key).getD f.value } : SubField) ∈
        (p.fill a).subFields := by
      rw [hfill]
      show _ ∈ fillSubFields a.fields p.subFields
      rw [fillSubFields_eq_map]
      exact List.mem_map_of_mem (f := fun s : SubField =>
        { s with value := (planValue a.fields s.key).getD s.value }) hf
    exact plan_get_subField hnodup hmem

/-- So is one the task has no attribute for. -/
theorem planOf_none {p : Package} (h : (p.items.map Prod.fst).Nodup) :
    PlanOf none p p.plan where
  names := by rw [plan_props h]
  fields := fun _ _ hf => plan_get_field h hf
  subFields := fun _ hf => plan_get_subField h hf

/-- The plan of a package is found under its name. -/
theorem plans_get {packages : List Package} (h : (packages.map Package.name).Nodup) {p : Package}
    (hp : p ∈ packages) : (plans packages).get p.name = some p.plan := by
  have hnames : ((packages.map fun p => (p.name, p.plan)).map Prod.fst).Nodup := by
    rw [List.map_map]
    exact h
  rw [Obj.get, plans, Js.fill_nil hnames]
  exact Js.lookup_of_mem hnames (List.mem_map_of_mem (f := fun p => (p.name, p.plan)) hp)

/-! ## The save -/

/-- The packages have the names of the plans, which differ. -/
theorem nodup_names {schema : Schema} {packages : List Package}
    (h : getpackagesData schema = some packages) : (packages.map Package.name).Nodup := by
  obtain ⟨subs, -, rfl⟩ := Option.map_eq_some_iff.1 h
  rw [List.map_map]
  exact schema.service_plans.nodup

/-- The names in a package differ when no field has the key of a sub-field. -/
theorem nodup_items {schema : Schema} {subs : List SubField} {packages : List Package}
    {p : Package} (hsubs : subFields schema = some subs) (hkeys : (subs.map SubField.key).Nodup)
    (hplans : ∀ plan ∈ schema.service_plans.props, ∀ f ∈ plan.2.props,
      f.1 ∉ subs.map SubField.key)
    (hpackages : getpackagesData schema = some packages) (hp : p ∈ packages) :
    (p.items.map Prod.fst).Nodup := by
  rw [getpackagesData, hsubs, Option.map_some] at hpackages
  cases hpackages
  obtain ⟨plan, hplan, rfl⟩ := List.mem_map.1 hp
  simp only [Package.items, List.map_append, List.map_map]
  refine List.nodup_append.2 ⟨plan.2.nodup, hkeys, ?_⟩
  rintro name hname key hkey rfl
  obtain ⟨f, hf, rfl⟩ := List.mem_map.1 hname
  exact hplans plan hplan f hf hkey

/-- Every package is filled from the attribute that has its name. -/
theorem fillAll_planOf {attributes : List Attribute} {packages : List Package}
    (hattributes : (attributes.map Attribute.key).Nodup)
    (hnames : (packages.map Package.name).Nodup) {p : Package} (hp : p ∈ packages)
    (hitems : (p.items.map Prod.fst).Nodup) :
    ∃ plan, (plans (fillAll attributes packages)).get p.name = some plan ∧
      PlanOf (attributes.find? fun a => a.key = p.name) p plan := by
  have hfilled : fillAll attributes packages = packages.map (·.filled attributes) := by
    rw [fillAll_eq_map]
    exact List.map_congr_left fun p _ => foldl_fill hattributes p
  have hsame : packages.map (Package.name ∘ (·.filled attributes)) = packages.map Package.name :=
    List.map_congr_left fun p _ => filled_name attributes p
  have hnames' : ((packages.map (·.filled attributes)).map Package.name).Nodup := by
    rwa [List.map_map, hsame]
  have hget := plans_get hnames' (List.mem_map_of_mem hp)
  rw [filled_name, ← hfilled] at hget
  refine ⟨_, hget, ?_⟩
  unfold Package.filled
  cases ha : attributes.find? fun a => a.key = p.name with
  | none => exact planOf_none hitems
  | some a => exact planOf_fill hitems (by simpa using List.find?_some ha)

/-- **Saving right after loading.**  Take a schema whose plans have at least five fields,
none of which has the key of a sub-field, with sub-fields of different keys, and a task
whose attributes have different keys.  Then the screen is filled; it is saved unless the
title or the price of the plan `basic` is empty; and what is saved has for every package
the plan with the values of its attribute and otherwise those of the schema, and the custom
fields and the sub-tasks of the task. -/
theorem save_after_load {schema : Schema} {subs : List SubField} (task : EditedTask)
    (hsubs : subFields schema = some subs) (hkeys : (subs.map SubField.key).Nodup)
    (hplans : ∀ plan ∈ schema.service_plans.props,
      5 ≤ plan.2.props.length ∧ ∀ f ∈ plan.2.props, f.1 ∉ subs.map SubField.key)
    (hattributes : (task.attributes.map Attribute.key).Nodup) :
    ∃ packages s, getpackagesData schema = some packages ∧ loaded schema (some task) = some s ∧
      ((∃ basic ∈ (plans s.packages).get "basic",
        FilledIn basic "title" ∧ FilledIn basic "price") → save s = .posted (post s)) ∧
      (∀ p ∈ packages, ∃ plan, (post s).plans.get p.name = some plan ∧
        PlanOf (task.attributes.find? fun a => a.key = p.name) p plan) ∧
      (post s).custom_fields = task.custom_fields ∧
      (post s).subtasks_selected_ids = some (",".intercalate (task.sub_tasks.map Nat.repr)) := by
  obtain ⟨packages, hpackages⟩ : ∃ packages, getpackagesData schema = some packages := by
    rw [getpackagesData, hsubs]
    exact ⟨_, rfl⟩
  have hlength : ∀ p ∈ packages, 5 ≤ p.fields.length := by
    intro p hp
    rw [getpackagesData, hsubs, Option.map_some] at hpackages
    cases hpackages
    obtain ⟨plan, hplan, rfl⟩ := List.mem_map.1 hp
    simpa using (hplans plan hplan).1
  have hfits : Fits task.attributes packages := fun _ _ p hp _ => hlength p hp
  refine ⟨packages, _, hpackages, by rw [loaded, hpackages]; exact if_pos hfits, ?_, ?_, ?_, ?_⟩
  · rintro ⟨basic, hbasic, hfilled⟩
    rw [save, Option.mem_def.1 hbasic]
    exact if_pos hfilled
  · intro p hp
    exact fillAll_planOf hattributes (nodup_names hpackages) hp
      (nodup_items hsubs hkeys (fun plan hplan => (hplans plan hplan).2) hpackages hp)
  · show (task.custom_fields.map _).map _ = task.custom_fields
    rw [List.map_map]
    exact List.map_id _
  · show (Value.array (task.sub_tasks.map .number)).callToString = _
    rw [Value.callToString, List.map_map]
    rfl

/-- The five fields of a plan. -/
def fiveFields : Entries FieldDef where
  props := [("title", ⟨.text, .atom (.text "")⟩), ("description", ⟨.textarea, .atom (.text "")⟩),
    ("price", ⟨.number, .atom (.text "")⟩), ("delivery_time", ⟨.terms_dropdwon, .array []⟩),
    ("featured_package", ⟨.featured_package, .atom (.text "no")⟩)]
  nodup := by decide

/-- A schema of two plans and one sub-field. -/
def sampleSchema : Schema where
  field_array := [[⟨[⟨"pages", .number, false, .atom (.text "1"), none⟩]⟩]]
  service_plans := ⟨[("basic", fiveFields), ("premium", fiveFields)], by decide⟩

/-- The attribute of a task for the plan `basic`. -/
def sampleAttribute (fields : List PlanField) : Attribute where
  key := "basic"
  title := .atom (.text "Small")
  description := .atom (.text "A small site")
  reg_price := .atom (.text "100")
  delivery_time_id := .number 7
  featured_package := .atom (.text "yes")
  fields := fields

/-- A task with this attribute. -/
def sampleTask (fields : List PlanField) : EditedTask where
  custom_fields := [⟨"Colours", "1", "2", "3"⟩]
  sub_tasks := [4, 9]
  attributes := [sampleAttribute fields]

/-- A task is loaded and saved. -/
theorem save_after_load_sample :
    ∃ s, loaded sampleSchema (some (sampleTask [⟨"pages", .atom (.text "5")⟩])) = some s ∧
      save s = .posted (post s) ∧ (post s).featured_package = "basic" ∧
      (post s).custom_fields = [⟨"Colours", "1", "2", "3"⟩] ∧
      (post s).subtasks_selected_ids = some "4,9" := by
  have hsubs : subFields sampleSchema =
      some [⟨"pages", .number, false, .atom (.text "1"), []⟩] := rfl
  obtain ⟨packages, s, -, hs, hsave, -, hcustom, hids⟩ :=
    save_after_load (sampleTask [⟨"pages", .atom (.text "5")⟩]) hsubs (by decide) (by decide)
      (by decide)
  have hloaded : loaded sampleSchema (some (sampleTask [⟨"pages", .atom (.text "5")⟩])) =
      some _ := rfl
  obtain rfl := Option.some.inj (hs.symm.trans hloaded)
  exact ⟨_, rfl, hsave (by decide), by decide, hcustom, hids⟩

/-- **Two values for a key.**  The attribute has the sub-field twice: the first value is not
saved, the last one is. -/
theorem first_value_not_saved :
    ∃ s plan, loaded sampleSchema (some (sampleTask
        [⟨"pages", .atom (.text "5")⟩, ⟨"pages", .atom (.text "8")⟩])) = some s ∧
      save s = .posted (post s) ∧ (post s).plans.get "basic" = some plan ∧
      ¬ ∀ f ∈ (sampleAttribute
        [⟨"pages", .atom (.text "5")⟩, ⟨"pages", .atom (.text "8")⟩]).fields,
        plan.get f.key = some f.plan_value := by
  refine ⟨_, _, rfl, by decide, rfl, ?_⟩
  decide

end TaskPackages
