import Mathlib
import Taskbot.Js.PropertyOrder
import Taskbot.Js.Value
import Taskbot.Tasks.StepTwoForm

/-!
# The packages of the second step

`PostTaskStepTwo` asks for a schema with `get-task-data` and makes a package of each of its
plans: the fields of the plan by their places, and sub-fields by their keys, the same for
all packages.  For a task that is edited an effect writes its attributes to them.  A save
makes an object by names of every package.

* `Schema`, `getpackagesData` — the schema, and the packages made of it.
* `Attribute`, `fillAll`, `featuredOf` — the effect.
* `Screen`, `loaded` — the screen, once all that is done.
* `Package.plan`, `save` — what is saved.
-/

namespace TaskPackages

open Js (Atom Value Obj)
open PostTaskStepTwo (StoredField Task Form)

/-! ## The schema -/

/-- The type of a field or sub-field. -/
inductive FieldType where
  | text
  | url
  | number
  | textarea
  | switch
  | checkbox
  | terms_dropdwon
  | select
  | featured_package
  | other
  deriving DecidableEq

/-- The entries of an object: no name comes twice. -/
structure Entries (α : Type) where
  props : List (String × α)
  nodup : (props.map Prod.fst).Nodup

/-- A field of a plan. -/
structure FieldDef where
  type : FieldType
  value : Value
  deriving DecidableEq

/-- A sub-field, as it is answered. -/
structure SubFieldDef where
  key : String
  type : FieldType
  /-- `multiple == 0`. -/
  single : Bool
  value : Value
  /-- The entries of `choices`, when there are any. -/
  choices : Option (List (String × String))
  deriving DecidableEq

/-- An item of `field_array[h]`. -/
structure Group where
  sub_fields : List SubFieldDef
  deriving DecidableEq

/-- The answer to `get-task-data`. -/
structure Schema where
  field_array : List (List Group)
  service_plans : Entries (Entries FieldDef)

/-! ## The packages -/

/-- A field of a package. -/
structure Field where
  name : String
  field : FieldDef
  deriving DecidableEq

/-- A choice of a select. -/
structure Choice where
  name : String
  slug : String
  deriving DecidableEq

/-- A sub-field of a package. -/
structure SubField where
  key : String
  type : FieldType
  /-- `multiple == 0`. -/
  single : Bool
  value : Value
  choices : List Choice
  deriving DecidableEq

/-- An item of `packages`. -/
structure Package where
  name : String
  fields : List Field
  subFields : List SubField
  deriving DecidableEq

/-- A sub-field of the list; a select without `choices` throws. -/
def SubFieldDef.load (f : SubFieldDef) : Option SubField :=
  if f.type = .select then
    f.choices.map fun choices =>
      ⟨f.key, f.type, f.single, f.value, choices.map fun c => ⟨c.2, c.1⟩⟩
  else some ⟨f.key, f.type, f.single, f.value, []⟩

/-- The list `subFields`, of the first items of `field_array`. -/
def subFields (schema : Schema) : Option (List SubField) :=
  (schema.field_array.mapM fun (groups : List Group) =>
    groups.head?.bind fun group => group.sub_fields.mapM SubFieldDef.load).map List.flatten

/-- `getpackagesData` with its answer; nothing is set when something throws.  The copy by
`JSON` gives each package sub-fields of its own. -/
def getpackagesData (schema : Schema) : Option (List Package) :=
  (subFields schema).map fun subFields => schema.service_plans.props.map fun plan =>
    { name := plan.1
      fields := plan.2.props.map fun f => ⟨f.1, f.2⟩
      subFields := subFields }

/-! ## The task that is edited -/

/-- A field of an attribute. -/
structure PlanField where
  key : String
  plan_value : Value
  deriving DecidableEq

/-- An attribute of a task: what it has for a package. -/
structure Attribute where
  key : String
  title : Value
  description : Value
  reg_price : Value
  delivery_time_id : Atom
  featured_package : Value
  fields : List PlanField
  deriving DecidableEq

/-- What the effect reads of the task. -/
structure EditedTask extends Task where
  attributes : List Attribute
  deriving DecidableEq

/-- A field with another value. -/
def Field.withValue (v : Value) (f : Field) : Field :=
  { f with field := { f.field with value := v } }

@[simp] theorem withValue_name (v : Value) (f : Field) : (f.withValue v).name = f.name := rfl

@[simp] theorem withValue_type (v : Value) (f : Field) :
    (f.withValue v).field.type = f.field.type := rfl

@[simp] theorem withValue_value (v : Value) (f : Field) : (f.withValue v).field.value = v := rfl

/-- The values for the first five fields. -/
def Attribute.leading (a : Attribute) : List Value :=
  [a.title, a.description, a.reg_price, .array [a.delivery_time_id], a.featured_package]

/-- The first five fields are written. -/
def fillFields (a : Attribute) (fields : List Field) : List Field :=
  ((((fields.modify 0 (·.withValue a.title)).modify 1 (·.withValue a.description)).modify 2
    (·.withValue a.reg_price)).modify 3 (·.withValue (.array [a.delivery_time_id]))).modify 4
      (·.withValue a.featured_package)

/-- A sub-field is written when it has the key. -/
def SubField.fill (f : PlanField) (s : SubField) : SubField :=
  if f.key = s.key then { s with value := f.plan_value } else s

/-- The two inner loops. -/
def fillSubFields (fields : List PlanField) (subFields : List SubField) : List SubField :=
  fields.foldl (fun subFields f => subFields.map (·.fill f)) subFields

/-- A package is written when the attribute has its name. -/
def Package.fill (a : Attribute) (p : Package) : Package :=
  if a.key = p.name then
    { p with fields := fillFields a p.fields, subFields := fillSubFields a.fields p.subFields }
  else p

/-- The two outer loops. -/
def fillAll (attributes : List Attribute) (packages : List Package) : List Package :=
  attributes.foldl (fun packages a => packages.map (·.fill a)) packages

/-- `featured` after the loops. -/
def featuredOf (attributes : List Attribute) (packages : List Package) (featured : String) :
    String :=
  attributes.foldl (fun featured a => packages.foldl (fun featured p =>
    if a.key = p.name ∧ a.featured_package.eqWord "yes" then p.name else featured) featured)
    featured

/-- There are five fields to write; `fields[4].field` throws when there is no such field. -/
def Fits (attributes : List Attribute) (packages : List Package) : Prop :=
  ∀ a ∈ attributes, ∀ p ∈ packages, a.key = p.name → 5 ≤ p.fields.length

instance (attributes : List Attribute) (packages : List Package) :
    Decidable (Fits attributes packages) := by
  unfold Fits
  infer_instance

/-! ## The screen -/

/-- The screen: its packages, the name of the featured one, and the rest of the form. -/
structure Screen where
  packages : List Package
  featured : String
  form : Form
  deriving DecidableEq

/-- The screen when the schema has been answered and the effect has run. -/
def loaded (schema : Schema) (item : Option EditedTask) : Option Screen :=
  (getpackagesData schema).bind fun packages =>
    match item with
    | none => some ⟨packages, "", ⟨[], []⟩⟩
    | some t =>
      if Fits t.attributes packages then
        some ⟨fillAll t.attributes packages, featuredOf t.attributes packages "", t.form⟩
      else none

/-! ## Saving -/

/-- The names and values of a package, in the order they are put in the object. -/
def Package.items (p : Package) : List (String × Value) :=
  p.fields.map (fun f => (f.name, f.field.value)) ++ p.subFields.map fun f => (f.key, f.value)

/-- The object `fields` of a package. -/
def Package.plan (p : Package) : Obj Value := ⟨Js.fill [] p.items⟩

/-- The object `plans`. -/
def plans (packages : List Package) : Obj (Obj Value) :=
  ⟨Js.fill [] (packages.map fun p => (p.name, p.plan))⟩

/-- What is posted. -/
structure Post where
  featured_package : String
  plans : Obj (Obj Value)
  custom_fields : List StoredField
  subtasks_selected_ids : Option String
  deriving DecidableEq

/-- What a save comes to. -/
inductive Saved where
  /-- There is no plan `basic`. -/
  | thrown
  /-- "Please enter complete first package details". -/
  | incomplete
  | posted (post : Post)
  deriving DecidableEq

/-- `plan.p != ''`. -/
def FilledIn (plan : Obj Value) (p : String) : Prop :=
  ((plan.get p).getD (.atom .undefined)).eqEmpty = false

instance (plan : Obj Value) (p : String) : Decidable (FilledIn plan p) :=
  inferInstanceAs (Decidable (_ = _))

/-- The post of a screen. -/
def post (s : Screen) : Post where
  featured_package := s.featured
  plans := plans s.packages
  custom_fields := s.form.customFields.map fun c => ⟨c.title, c.valOne, c.valTwo, c.valThree⟩
  subtasks_selected_ids := (Value.array (s.form.selectedAddons.map .number)).callToString

/-- `saveUpdateSecondStep`. -/
def save (s : Screen) : Saved :=
  match (plans s.packages).get "basic" with
  | none => .thrown
  | some basic =>
    if FilledIn basic "title" ∧ FilledIn basic "price" then .posted (post s) else .incomplete

end TaskPackages
