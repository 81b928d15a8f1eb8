import Mathlib
import Taskbot.Async.Machine
import Taskbot.Tasks.SaveAfterPrefill

/-!
# The controls of the packages

The second step draws a control for every field and sub-field of a package, by its type.
The two lists are drawn by two pieces of code: the switch of a field calls
`toggleSwitch(item)`, that of a sub-field `toggleSwitch(item, index, mainIndex)`.

* `Control`, `Place`, `controlAt`, `write` — the controls by their places.
* `MultiSelect`, `Drawn` — the lists of choices, and when a package can be drawn.
* `handle`, `effectAt`, `step` — what a control does with what is entered, and the screen.
* `shape_step` — names, types and keys stay as they are loaded.
* `EditRight`, `SavedRight`, `DrawnRight` — what should happen at an edit, what a save
  should post, and which switches should be on.
* `controls_iff` — **all that is so exactly when no field is a switch that is on, none is
  switched, each package that is edited can be drawn, each list of choices that is used can be
  opened, and an entry under a key that comes again in its package is what is saved there
  already.**
-/

namespace TaskPackages

open Js (Atom Value Obj)
open Async (Machine)

/-! ## Controls -/

/-- The two lists of controls of a package. -/
inductive Level where
  | field
  | subField
  deriving DecidableEq

/-- Where a control is. -/
structure Place where
  package : ℕ
  level : Level
  index : ℕ
  deriving DecidableEq

/-- What a control is drawn from. -/
structure Control where
  key : String
  type : FieldType
  /-- Can one item be selected only? -/
  single : Bool
  value : Value
  deriving DecidableEq

/-- The control of a field; a list of terms is always for one of them. -/
def Field.control (f : Field) : Control := ⟨f.name, f.field.type, true, f.field.value⟩

/-- The control of a sub-field. -/
def SubField.control (f : SubField) : Control := ⟨f.key, f.type, f.single, f.value⟩

/-- The control at a place of a package. -/
def Package.controlAt (p : Package) : Level → ℕ → Option Control
  | .field, i => p.fields[i]?.map Field.control
  | .subField, i => p.subFields[i]?.map SubField.control

/-- The control at a place. -/
def controlAt (packages : List Package) (q : Place) : Option Control :=
  packages[q.package]?.bind fun p => p.controlAt q.level q.index

/-- A sub-field with another value. -/
def SubField.withValue (v : Value) (f : SubField) : SubField := { f with value := v }

/-- `item.field.value = v`, or `item.value = v`. -/
def Package.write (p : Package) (v : Value) : Level → ℕ → Package
  | .field, i => { p with fields := p.fields.modify i (·.withValue v) }
  | .subField, i => { p with subFields := p.subFields.modify i (·.withValue v) }

/-- The same in the list of packages. -/
def write (packages : List Package) (q : Place) (v : Value) : List Package :=
  packages.modify q.package fun p => p.write v q.level q.index

/-! ## The handlers -/

/-- What is entered with a control. -/
inductive Entry where
  | onChangeText (val : String)
  | onValueChange
  | onSelectedItemsChange (value : List Atom)
  deriving DecidableEq

/-- What a handler does. -/
inductive Effect where
  | written (v : Value)
  | thrown
  deriving DecidableEq

/-- `'no'` for `'yes'`, and `'yes'` for anything else. -/
def toggled (v : Value) : Value := .atom (.text (if v.eqWord "yes" then "no" else "yes"))

/-- `item.value != null ? item.value : ''`. -/
def orEmpty : Value → Value
  | .atom .null | .atom .undefined => .atom (.text "")
  | v => v

/-- `MultiSelect`, the list of choices, a component of another package: by whether one item
only can be selected, and by the items that are. -/
structure MultiSelect where
  /-- Can the list be drawn? -/
  draws : Bool → Value → Bool
  /-- Can its items be drawn, when it is tapped? -/
  opens : Bool → Value → Bool

/-- Has `x.map` been called, if `x.length` is not zero?  It has not of a text. -/
def mapsItems : Value → Bool
  | .atom .undefined | .atom .null => false
  | .atom (.text s) => s = ""
  | .atom (.bool _) | .atom (.number _) | .array _ => true

/-- Has it a method `indexOf`? -/
def hasIndexOf : Value → Bool
  | .atom (.text _) | .array _ => true
  | .atom .undefined | .atom .null | .atom (.bool _) | .atom (.number _) => false

/-- The component as it is bundled: a list for many draws its items by `selectedItems.map`, and
an item that is drawn asks `selectedItems.indexOf`. -/
def MultiSelect.bundled : MultiSelect where
  draws single selectedItems := single || mapsItems selectedItems
  opens _ selectedItems := hasIndexOf selectedItems

variable (list : MultiSelect)

/-- Can a control be drawn?  Only the lists of choices may throw. -/
def Control.Drawn : Level → Control → Prop
  | .field, c => c.type = .terms_dropdwon → list.draws c.single c.value
  | .subField, c => c.type = .select → list.draws c.single (orEmpty c.value)

/-- Can a package be drawn with its controls?  The header of each package has the value of its
first field. -/
def Drawn (packages : List Package) (package : ℕ) : Prop :=
  (∀ p ∈ packages, p.fields ≠ []) ∧ ∀ p ∈ packages[package]?,
    (∀ f ∈ p.fields, f.control.Drawn list .field) ∧
      ∀ f ∈ p.subFields, f.control.Drawn list .subField

instance (level : Level) (c : Control) : Decidable (c.Drawn list level) := by
  unfold Control.Drawn
  split <;> infer_instance

instance (packages : List Package) (package : ℕ) : Decidable (Drawn list packages package) :=
  inferInstanceAs (Decidable (_ ∧ _))

/-- The handlers of the controls; `none` when there is no such control.  Without an index
of the package `toggleSwitch` reads `packages[undefined].subFields`, a `TypeError`. -/
def handle : Level → Control → Entry → Option Effect
  | .field, c, .onChangeText val =>
    if c.type = .text ∨ c.type = .number ∨ c.type = .textarea then
      some (.written (.atom (.text val)))
    else none
  | .field, c, .onValueChange =>
    if c.type = .switch ∨ c.type = .checkbox then some .thrown else none
  | .field, c, .onSelectedItemsChange value =>
    if c.type = .terms_dropdwon then
      some (if list.opens c.single c.value then .written (.array value) else .thrown)
    else none
  | .subField, c, .onChangeText val =>
    if c.type = .text ∨ c.type = .url ∨ c.type = .number ∨ c.type = .textarea then
      some (.written (.atom (.text val)))
    else none
  | .subField, c, .onValueChange =>
    if c.type = .switch ∨ c.type = .checkbox then some (.written (toggled c.value)) else none
  | .subField, c, .onSelectedItemsChange value =>
    if c.type = .select then
      some (if list.opens c.single (orEmpty c.value) then
        .written (if c.single then .atom (.text (",".intercalate (value.map Atom.inArray)))
          else .array value)
        else .thrown)
    else none

/-- What an entry comes to.  A package that cannot be drawn throws when it is opened, before
anything can be entered in it. -/
def effectAt (packages : List Package) (q : Place) (c : Control) (entry : Entry) :
    Option Effect :=
  (handle list q.level c entry).map fun effect =>
    if Drawn list packages q.package then effect else .thrown

variable {list}

/-- Is a switch drawn on?  That of a field is when its value is `true`, that of a sub-field
when it is `'yes'`. -/
def drawnOn : Level → Value → Bool
  | .field, v => v = .atom (.bool true)
  | .subField, v => v.eqWord "yes"

/-! ## The screen -/

/-- The screen, and the values entered so far, the last one first: a history for the
statements only. -/
structure State where
  screen : Screen
  entered : List ((ℕ × String) × Value)
  deriving DecidableEq

/-- The packages. -/
abbrev State.packages (s : State) : List Package := s.screen.packages

/-- What can happen. -/
inductive Event where
  | edit (q : Place) (entry : Entry)
  /-- A tap on the control `featured_package` at an index of a package. -/
  | setFeaturedPackage (package index : ℕ)
  /-- An edit of the custom fields or the add-ons. -/
  | form (e : PostTaskStepTwo.Edit)
  deriving DecidableEq

/-- The loop of `setFeaturedPackage`, and whether it throws, at a package without such a
field. -/
def setAllNo (index : ℕ) : List Package → List Package × Bool
  | [] => ([], false)
  | p :: packages =>
    if index < p.fields.length then
      let rest := setAllNo index packages
      (p.write (.atom (.text "no")) .field index :: rest.1, rest.2)
    else (p :: packages, true)

/-- `setFeaturedPackage(item, index, mainItem)`. -/
def setFeaturedPackage (s : Screen) (package index : ℕ) (mainItem : Package) : Screen :=
  let loop := setAllNo index s.packages
  { s with
    featured := mainItem.name
    packages :=
      if loop.2 then loop.1 else write loop.1 ⟨package, .field, index⟩ (.atom (.text "yes")) }

/-- The screen after a handler. -/
def edited (s : State) (q : Place) (c : Control) : Effect → State
  | .written v =>
    { screen := { s.screen with packages := write s.packages q v }
      entered := ((q.package, c.key), v) :: s.entered }
  | .thrown => s

variable (list) in
/-- One event. -/
def step (s : State) : Event → Option State
  | .edit q entry =>
    (controlAt s.packages q).bind fun c =>
      (effectAt list s.packages q c entry).map (edited s q c)
  | .setFeaturedPackage package index =>
    s.packages[package]?.bind fun mainItem => mainItem.fields[index]?.bind fun f =>
      if f.field.type = .featured_package then
        some { s with screen := setFeaturedPackage s.screen package index mainItem }
      else none
  | .form e => some { s with screen := { s.screen with form := s.screen.form.edit e } }

variable (list) in
/-- The screen, once it is loaded. -/
def machine (screen : Screen) : Machine State Event := ⟨⟨screen, []⟩, step list⟩

/-- **What an edit does**: it is that of a control, and does what its handler does. -/
theorem step_edit {s t : State} {q : Place} {entry : Entry}
    (h : step list s (.edit q entry) = some t) :
    ∃ p c effect, s.packages[q.package]? = some p ∧ p.controlAt q.level q.index = some c ∧
      effectAt list s.packages q c entry = some effect ∧ t = edited s q c effect := by
  obtain ⟨c, hc, ht⟩ := Option.bind_eq_some_iff.1 h
  obtain ⟨p, hp, hcp⟩ := Option.bind_eq_some_iff.1 hc
  obtain ⟨effect, heffect, rfl⟩ := Option.map_eq_some_iff.1 ht
  exact ⟨p, c, effect, hp, hcp, heffect, rfl⟩

/-- **What a tap does**: it is that of a control `featured_package`. -/
theorem step_setFeaturedPackage {s t : State} {package index : ℕ}
    (h : step list s (.setFeaturedPackage package index) = some t) :
    ∃ mainItem f, s.packages[package]? = some mainItem ∧ mainItem.fields[index]? = some f ∧
      f.field.type = .featured_package ∧
      t = { s with screen := setFeaturedPackage s.screen package index mainItem } := by
  obtain ⟨mainItem, hmain, ht⟩ := Option.bind_eq_some_iff.1 h
  obtain ⟨f, hf, ht⟩ := Option.bind_eq_some_iff.1 ht
  obtain ⟨htype, ⟨⟩⟩ := Option.ite_none_right_eq_some.1 ht
  exact ⟨mainItem, f, hmain, hf, htype, rfl⟩

/-! ## What stays -/

/-- The names of a package, and the types of its fields. -/
def shape (p : Package) : String × List (String × FieldType) × List String :=
  (p.name, p.fields.map (fun f => (f.name, f.field.type)), p.subFields.map SubField.key)

theorem map_modify_withValue (v : Value) (fields : List Field) (i : ℕ) :
    (fields.modify i (·.withValue v)).map (fun f => (f.name, f.field.type)) =
      fields.map fun f => (f.name, f.field.type) :=
  Js.map_modify_eq fun _ _ => rfl

@[simp] theorem shape_write (p : Package) (v : Value) (level : Level) (i : ℕ) :
    shape (p.write v level i) = shape p := by
  have hfields := map_modify_withValue v p.fields i
  have hsubFields : (p.subFields.modify i (·.withValue v)).map SubField.key =
      p.subFields.map SubField.key := Js.map_modify_eq fun _ _ => rfl
  cases level with
  | field => exact congrArg (fun fields => (p.name, fields, _)) hfields
  | subField => exact congrArg (fun keys => (p.name, _, keys)) hsubFields

theorem shape_fill (a : Attribute) (p : Package) : shape (p.fill a) = shape p := by
  unfold Package.fill
  split
  · have hfields : (fillFields a p.fields).map (fun f => (f.name, f.field.type)) =
        p.fields.map fun f => (f.name, f.field.type) := by
      simp only [fillFields, map_modify_withValue]
    simp only [shape, hfields, fillSubFields_eq_map, List.map_map]
    rfl
  · rfl

theorem shape_foldl_fill (attributes : List Attribute) (p : Package) :
    shape (attributes.foldl (fun p a => p.fill a) p) = shape p := by
  induction attributes generalizing p with
  | nil => rfl
  | cons a attributes ih => exact (ih (p.fill a)).trans (shape_fill a p)

theorem map_shape_write (packages : List Package) (q : Place) (v : Value) :
    (write packages q v).map shape = packages.map shape :=
  Js.map_modify_eq fun p _ => shape_write p v _ _

theorem map_shape_setAllNo (index : ℕ) (packages : List Package) :
    (setAllNo index packages).1.map shape = packages.map shape := by
  induction packages with
  | nil => rfl
  | cons p packages ih =>
    rw [setAllNo]
    split
    · rw [List.map_cons, shape_write, ih, List.map_cons]
    · rfl

theorem map_shape_setFeaturedPackage (s : Screen) (package index : ℕ) (mainItem : Package) :
    (setFeaturedPackage s package index mainItem).packages.map shape = s.packages.map shape := by
  unfold setFeaturedPackage
  dsimp only
  split
  · exact map_shape_setAllNo index s.packages
  · rw [map_shape_write, map_shape_setAllNo]

/-- **Names, types and keys** stay as they are, whatever happens. -/
theorem map_shape_step {s t : State} {e : Event} (h : step list s e = some t) :
    t.packages.map shape = s.packages.map shape := by
  cases e with
  | edit q entry =>
    obtain ⟨p, c, effect, -, -, -, rfl⟩ := step_edit h
    cases effect with
    | written v => exact map_shape_write s.packages q v
    | thrown => rfl
  | setFeaturedPackage package index =>
    obtain ⟨mainItem, f, -, -, -, rfl⟩ := step_setFeaturedPackage h
    exact map_shape_setFeaturedPackage s.screen package index mainItem
  | form e =>
    cases h
    rfl

/-- The names can be told from the shapes. -/
theorem map_name_of_map_shape {packages packages' : List Package}
    (h : packages'.map shape = packages.map shape) :
    packages'.map Package.name = packages.map Package.name := by
  have hnames := congrArg (List.map Prod.fst) h
  rwa [List.map_map, List.map_map] at hnames

/-- So do they in the effect, so that they are those of the schema. -/
theorem map_shape_loaded {schema : Schema} {item : Option EditedTask} {packages : List Package}
    {screen : Screen} (hpackages : getpackagesData schema = some packages)
    (h : loaded schema item = some screen) :
    screen.packages.map shape = packages.map shape := by
  rw [loaded, hpackages, Option.bind_some] at h
  cases item with
  | none =>
    cases h
    rfl
  | some t =>
    obtain ⟨-, ⟨⟩⟩ := Option.ite_none_right_eq_some.1 h
    show (fillAll t.attributes packages).map shape = _
    rw [fillAll_eq_map, List.map_map]
    exact List.map_congr_left fun p _ => shape_foldl_fill t.attributes p

/-! ## Edits -/

theorem controlAt_packageWrite_self {p : Package} {level : Level} {i : ℕ} {c : Control}
    (h : p.controlAt level i = some c) (v : Value) :
    (p.write v level i).controlAt level i = some { c with value := v } := by
  cases level with
  | field =>
    obtain ⟨f, hf, rfl⟩ := Option.map_eq_some_iff.1 h
    simp [Package.controlAt, Package.write, hf, Field.control]
  | subField =>
    obtain ⟨f, hf, rfl⟩ := Option.map_eq_some_iff.1 h
    simp [Package.controlAt, Package.write, hf, SubField.control, SubField.withValue]

theorem controlAt_packageWrite_of_ne {p : Package} {level level' : Level} {i i' : ℕ}
    (h : level' = level → i' ≠ i) (v : Value) :
    (p.write v level i).controlAt level' i' = p.controlAt level' i' := by
  cases level with
  | field =>
    cases level' with
    | field =>
      show (p.fields.modify i _)[i']?.map _ = p.fields[i']?.map _
      rw [List.getElem?_modify_ne _ _ (h rfl).symm]
    | subField => rfl
  | subField =>
    cases level' with
    | field => rfl
    | subField =>
      show (p.subFields.modify i _)[i']?.map _ = p.subFields[i']?.map _
      rw [List.getElem?_modify_ne _ _ (h rfl).symm]

/-- The control that is written has its new value. -/
theorem controlAt_write_self {packages : List Package} {q : Place} {c : Control}
    (h : controlAt packages q = some c) (v : Value) :
    controlAt (write packages q v) q = some { c with value := v } := by
  obtain ⟨p, hp, hc⟩ := Option.bind_eq_some_iff.1 h
  rw [controlAt, write, List.getElem?_modify_eq, hp]
  exact controlAt_packageWrite_self hc v

/-- **No other control** is changed, in its package or another one. -/
theorem controlAt_write_of_ne {packages : List Package} {q q' : Place} (h : q' ≠ q) (v : Value) :
    controlAt (write packages q v) q' = controlAt packages q' := by
  rw [controlAt, write, controlAt]
  by_cases hpackage : q.package = q'.package
  · rw [hpackage, List.getElem?_modify_eq]
    cases packages[q'.package]? with
    | none => rfl
    | some p =>
      refine controlAt_packageWrite_of_ne (fun hlevel hindex => h ?_) v
      cases q
      cases q'
      simp_all
  · rw [List.getElem?_modify_ne _ _ hpackage]

/-- What should be there after an entry. -/
def Control.entered (c : Control) : Entry → Value
  | .onChangeText val => .atom (.text val)
  | .onValueChange => toggled c.value
  | .onSelectedItemsChange value =>
    if c.type = .select ∧ c.single then .atom (.text (",".intercalate (value.map Atom.inArray)))
    else .array value

variable (list) in
/-- When a handler does not throw. -/
def Works : Level → Control → Entry → Prop
  | .field, _, .onValueChange => False
  | .field, c, .onSelectedItemsChange _ => list.opens c.single c.value
  | .subField, c, .onSelectedItemsChange _ => list.opens c.single (orEmpty c.value)
  | .field, _, .onChangeText _ | .subField, _, .onChangeText _ | .subField, _, .onValueChange =>
    True

instance (level : Level) (c : Control) (entry : Entry) : Decidable (Works list level c entry) := by
  unfold Works
  split <;> infer_instance

/-- **The handlers**: what should be there is written, or they throw. -/
theorem handle_cases {level : Level} {c : Control} {entry : Entry} {effect : Effect}
    (h : handle list level c entry = some effect) :
    (Works list level c entry ∧ effect = .written (c.entered entry)) ∨
      (¬ Works list level c entry ∧ effect = .thrown) := by
  cases level with
  | field =>
    cases entry with
    | onChangeText val =>
      obtain ⟨-, ⟨⟩⟩ := Option.ite_none_right_eq_some.1 h
      exact Or.inl ⟨trivial, rfl⟩
    | onValueChange =>
      obtain ⟨-, ⟨⟩⟩ := Option.ite_none_right_eq_some.1 h
      exact Or.inr ⟨id, rfl⟩
    | onSelectedItemsChange value =>
      obtain ⟨htype, ⟨⟩⟩ := Option.ite_none_right_eq_some.1 h
      by_cases hopens : list.opens c.single c.value
      · exact Or.inl ⟨hopens, by simp [hopens, Control.entered, htype]⟩
      · exact Or.inr ⟨hopens, if_neg hopens⟩
  | subField =>
    cases entry with
    | onChangeText val | onValueChange =>
      obtain ⟨-, ⟨⟩⟩ := Option.ite_none_right_eq_some.1 h
      exact Or.inl ⟨trivial, rfl⟩
    | onSelectedItemsChange value =>
      obtain ⟨htype, ⟨⟩⟩ := Option.ite_none_right_eq_some.1 h
      by_cases hopens : list.opens c.single (orEmpty c.value)
      · exact Or.inl ⟨hopens, by simp [hopens, Control.entered, htype]⟩
      · exact Or.inr ⟨hopens, if_neg hopens⟩

variable (list) in
/-- When an entry does not throw: the package is drawn, and the handler works. -/
def EntryOk (packages : List Package) (q : Place) (c : Control) (entry : Entry) : Prop :=
  Drawn list packages q.package ∧ Works list q.level c entry

instance (packages : List Package) (q : Place) (c : Control) (entry : Entry) :
    Decidable (EntryOk list packages q c entry) := inferInstanceAs (Decidable (_ ∧ _))

/-- **An entry**: what should be there is written, or something throws. -/
theorem effect_cases {packages : List Package} {q : Place} {c : Control} {entry : Entry}
    {effect : Effect} (h : effectAt list packages q c entry = some effect) :
    (EntryOk list packages q c entry ∧ effect = .written (c.entered entry)) ∨
      (¬ EntryOk list packages q c entry ∧ effect = .thrown) := by
  obtain ⟨effect, hhandle, rfl⟩ := Option.map_eq_some_iff.1 h
  by_cases hdrawn : Drawn list packages q.package
  · rw [if_pos hdrawn]
    rcases handle_cases hhandle with ⟨hworks, heffect⟩ | ⟨hworks, heffect⟩
    · exact Or.inl ⟨⟨hdrawn, hworks⟩, heffect⟩
    · exact Or.inr ⟨fun hok => hworks hok.2, heffect⟩
  · rw [if_neg hdrawn]
    exact Or.inr ⟨fun hok => hdrawn hok.1, rfl⟩

/-- What is written a handler writes. -/
theorem handle_of_written {packages : List Package} {q : Place} {c : Control} {entry : Entry}
    {v : Value} (h : effectAt list packages q c entry = some (.written v)) :
    handle list q.level c entry = some (.written v) := by
  obtain ⟨effect, hhandle, heffect⟩ := Option.map_eq_some_iff.1 h
  split at heffect
  · rw [hhandle, heffect]
  · cases heffect

variable (list) in
/-- **What should happen at an edit**: nothing is thrown, the control has what was entered,
and no other one has changed. -/
def EditRight (q : Place) (entry : Entry) (s t : State) : Prop :=
  ∃ c, controlAt s.packages q = some c ∧
    effectAt list s.packages q c entry ≠ some .thrown ∧
    controlAt t.packages q = some { c with value := c.entered entry } ∧
    ∀ q', q' ≠ q → controlAt t.packages q' = controlAt s.packages q'

variable (list) in
/-- When it does: the package is drawn, and the handler of the control does not throw. -/
def ControlOk (s : State) : Event → Prop
  | .edit q entry => ∀ c ∈ controlAt s.packages q, EntryOk list s.packages q c entry
  | _ => True

theorem controlOk_iff {s t : State} {q : Place} {entry : Entry}
    (h : step list s (.edit q entry) = some t) :
    ControlOk list s (.edit q entry) ↔ EditRight list q entry s t := by
  obtain ⟨p, c, effect, hp, hcp, heffect, rfl⟩ := step_edit h
  have hc : controlAt s.packages q = some c := Option.bind_eq_some_iff.2 ⟨p, hp, hcp⟩
  rcases effect_cases heffect with ⟨hentry, rfl⟩ | ⟨hentry, rfl⟩
  · refine iff_of_true (fun c' hc' => ?_) ⟨c, hc, by rw [heffect]; simp, ?_, ?_⟩
    · cases hc.symm.trans hc'
      exact hentry
    · exact controlAt_write_self hc _
    · exact fun q' hq' => controlAt_write_of_ne hq' _
  · refine iff_of_false (fun hok => hentry (hok c hc)) ?_
    rintro ⟨c', hc', hthrown, -⟩
    cases hc.symm.trans hc'
    exact hthrown heffect

/-! ## Saves -/

/-- The names and values that come after a control in the object of its package. -/
def Package.after (p : Package) : Level → ℕ → List (String × Value)
  | .field, i =>
    (p.fields.drop (i + 1)).map (fun f => (f.name, f.field.value)) ++
      p.subFields.map fun f => (f.key, f.value)
  | .subField, i => (p.subFields.drop (i + 1)).map fun f => (f.key, f.value)

/-- A value is written at its place in the object, and what comes after it stays. -/
theorem items_write {p : Package} {level : Level} {i : ℕ} {c : Control}
    (h : p.controlAt level i = some c) (v : Value) :
    ∃ before, p.items = before ++ (c.key, c.value) :: p.after level i ∧
      (p.write v level i).items = before ++ (c.key, v) :: p.after level i := by
  cases level with
  | field =>
    obtain ⟨f, hf, rfl⟩ := Option.map_eq_some_iff.1 h
    obtain ⟨hmap, hwrite⟩ := Js.map_split hf (fun f => (f.name, f.field.value)) (·.withValue v)
    refine ⟨(p.fields.take i).map fun f => (f.name, f.field.value), ?_, ?_⟩
    · rw [Package.items, hmap, List.append_assoc]
      rfl
    · show (p.fields.modify i (·.withValue v)).map (fun f => (f.name, f.field.value)) ++ _ = _
      rw [hwrite, List.append_assoc]
      rfl
  | subField =>
    obtain ⟨f, hf, rfl⟩ := Option.map_eq_some_iff.1 h
    obtain ⟨hmap, hwrite⟩ := Js.map_split hf (fun f => (f.key, f.value)) (·.withValue v)
    refine ⟨p.fields.map (fun f => (f.name, f.field.value)) ++
      (p.subFields.take i).map fun f => (f.key, f.value), ?_, ?_⟩
    · rw [Package.items, hmap, List.append_assoc]
      rfl
    · show p.fields.map _ ++ (p.subFields.modify i (·.withValue v)).map (fun f => (f.key, f.value))
        = _
      rw [hwrite, List.append_assoc]
      rfl

/-- The value that is saved under a key is that of the last control with it. -/
theorem plan_get (p : Package) (key : String) : p.plan.get key = p.items.reverse.lookup key := by
  rw [Obj.get, Package.plan, Js.lookup_fill, List.lookup_nil, Option.or_none]

/-- **A value that is written** is saved, unless its key comes again after it. -/
theorem plan_get_write {p : Package} {level : Level} {i : ℕ} {c : Control}
    (h : p.controlAt level i = some c) (v : Value) (key : String) :
    (p.write v level i).plan.get key =
      if key = c.key ∧ ∀ x ∈ p.after level i, x.1 ≠ c.key then some v else p.plan.get key := by
  obtain ⟨before, hitems, hwrite⟩ := items_write h v
  rw [plan_get, plan_get, hitems, hwrite]
  simp only [List.reverse_append, List.reverse_cons, List.append_assoc, List.lookup_append,
    List.singleton_append]
  by_cases hkey : key = c.key
  · subst hkey
    cases hafter : (p.after level i).reverse.lookup c.key with
    | none =>
      have hlast : ∀ x ∈ p.after level i, x.1 ≠ c.key := by
        intro x hx hxc
        have hne := List.lookup_eq_none_iff.1 hafter x (List.mem_reverse.2 hx)
        simp [hxc] at hne
      rw [if_pos ⟨rfl, hlast⟩]
      simp
    | some w =>
      have hagain : ¬ ∀ x ∈ p.after level i, x.1 ≠ c.key := by
        intro hlast
        obtain ⟨l₁, l₂, hl, -⟩ := List.lookup_eq_some_iff.1 hafter
        refine hlast (c.key, w) (List.mem_reverse.1 ?_) rfl
        rw [hl]
        simp
      rw [if_neg fun hlast => hagain hlast.2]
      simp
  · simp [hkey, List.lookup_cons, beq_eq_false_iff_ne.2 hkey]

/-- When the plan has what is written under its key, and the rest as it was. -/
theorem plan_write_iff {p : Package} {level : Level} {i : ℕ} {c : Control}
    (h : p.controlAt level i = some c) (v : Value) :
    (∀ key, (p.write v level i).plan.get key = if key = c.key then some v else p.plan.get key) ↔
      (∀ x ∈ p.after level i, x.1 ≠ c.key) ∨ p.plan.get c.key = some v := by
  have hwrite := plan_get_write h v
  constructor
  · intro hall
    by_cases hafter : ∀ x ∈ p.after level i, x.1 ≠ c.key
    · exact Or.inl hafter
    · have hkey := hall c.key
      rw [hwrite, if_neg fun h => hafter h.2, if_pos rfl] at hkey
      exact Or.inr hkey
  · intro hcond key
    rw [hwrite]
    by_cases hkey : key = c.key
    · subst hkey
      rw [if_pos (rfl : c.key = c.key)]
      rcases hcond with hafter | hsame
      · rw [if_pos ⟨rfl, hafter⟩]
      · split
        · rfl
        · exact hsame
    · rw [if_neg fun h => hkey h.1, if_neg hkey]

/-- The value entered last under a key of a package, or the one a save would have posted
when the screen was loaded. -/
def lastValue (screen : Screen) (s : State) (j : ℕ) (key : String) : Option Value :=
  (s.entered.lookup (j, key)).or (screen.packages[j]?.bind fun p => p.plan.get key)

/-- **What a save should post**: for every package and key the value entered last, or the
loaded one. -/
def SavedRight (screen : Screen) (s : State) : Prop :=
  ∀ j : ℕ, ∀ p ∈ s.packages[j]?, ∀ key : String,
    ((plans s.packages).get p.name).bind (·.get key) = lastValue screen s j key

variable (list) in
/-- When it does: no control that comes after one that is written has its key, or the value
that is saved under the key is the one that is entered. -/
def SavedOk (s : State) : Event → Prop
  | .edit q entry => ∀ p ∈ s.packages[q.package]?, ∀ c ∈ p.controlAt q.level q.index,
    EntryOk list s.packages q c entry → (∀ x ∈ p.after q.level q.index, x.1 ≠ c.key) ∨
      p.plan.get c.key = some (c.entered entry)
  | _ => True

/-- The names of the packages differ, and there is no control to feature one. -/
structure Static (s : State) : Prop where
  names : (s.packages.map Package.name).Nodup
  types : ∀ p ∈ s.packages, ∀ f ∈ p.fields, f.field.type ≠ .featured_package

/-- Both can be told from the names and types. -/
theorem Static.of_shape {s t : State} (hs : Static s)
    (h : t.packages.map shape = s.packages.map shape) : Static t where
  names := map_name_of_map_shape h ▸ hs.names
  types := by
    intro p hp f hf htype
    obtain ⟨p', hp', hshape⟩ := List.mem_map.1 (h ▸ List.mem_map_of_mem (f := shape) hp)
    have hfields : p'.fields.map (fun f => (f.name, f.field.type)) =
        p.fields.map fun f => (f.name, f.field.type) := congrArg (fun x => x.2.1) hshape
    obtain ⟨f', hf', heq⟩ := List.mem_map.1
      (hfields ▸ List.mem_map_of_mem (f := fun f : Field => (f.name, f.field.type)) hf)
    exact hs.types p' hp' f' hf' ((Prod.mk.inj heq).2.trans htype)

theorem Static.step {s t : State} {e : Event} (hs : Static s) (h : step list s e = some t) :
    Static t :=
  hs.of_shape (map_shape_step h)

/-- Such a control cannot be tapped. -/
theorem Static.not_featured {s t : State} (hs : Static s) {package index : ℕ} :
    TaskPackages.step list s (.setFeaturedPackage package index) ≠ some t := by
  intro h
  obtain ⟨mainItem, f, hmain, hf, htype, -⟩ := step_setFeaturedPackage h
  exact hs.types mainItem (List.mem_of_getElem? hmain) f (List.mem_of_getElem? hf) htype

/-- The plan of a package is the one of its name. -/
theorem savedRight_iff {screen : Screen} {s : State} (hs : Static s) :
    SavedRight screen s ↔ ∀ j : ℕ, ∀ p ∈ s.packages[j]?, ∀ key : String,
      p.plan.get key = lastValue screen s j key := by
  refine forall_congr' fun j => forall₂_congr fun p hp => forall_congr' fun key => ?_
  rw [plans_get hs.names (List.mem_of_getElem? hp), Option.bind_some]

/-- The value entered last, after one more is entered. -/
theorem lastValue_edited {screen : Screen} {s : State} {q : Place} {c : Control} {v : Value}
    (j : ℕ) (key : String) :
    lastValue screen (edited s q c (.written v)) j key =
      if j = q.package ∧ key = c.key then some v else lastValue screen s j key := by
  by_cases hsame : (j, key) = (q.package, c.key)
  · obtain ⟨rfl, rfl⟩ := Prod.mk.inj hsame
    simp [lastValue, edited]
  · have hne : ¬ (j = q.package ∧ key = c.key) := by
      rintro ⟨rfl, rfl⟩
      exact hsame rfl
    rw [if_neg hne]
    simp [lastValue, edited, List.lookup_cons, beq_eq_false_iff_ne.2 hsame]

/-- What is saved after a value is written. -/
theorem savedRight_edited_iff {screen : Screen} {s : State} {q : Place} {p : Package}
    {c : Control} {v : Value} (hp : s.packages[q.package]? = some p)
    (hc : p.controlAt q.level q.index = some c)
    (hsaved : ∀ j : ℕ, ∀ p ∈ s.packages[j]?, ∀ key : String,
      p.plan.get key = lastValue screen s j key) :
    (∀ j : ℕ, ∀ p ∈ (write s.packages q v)[j]?, ∀ key : String,
        p.plan.get key = lastValue screen (edited s q c (.written v)) j key) ↔
      (∀ x ∈ p.after q.level q.index, x.1 ≠ c.key) ∨ p.plan.get c.key = some v := by
  have hplace : (write s.packages q v)[q.package]? = some (p.write v q.level q.index) := by
    rw [write, List.getElem?_modify_eq, hp]
    rfl
  rw [← plan_write_iff hc v]
  constructor
  · intro hright key
    rw [hright q.package _ hplace key, lastValue_edited, hsaved q.package p hp key]
    simp
  · intro hplan j p' hp' key
    rw [lastValue_edited]
    by_cases hj : q.package = j
    · subst hj
      cases hplace.symm.trans hp'
      rw [hplan, hsaved q.package p hp key]
      simp
    · rw [write, List.getElem?_modify_ne _ _ hj] at hp'
      rw [if_neg fun h => hj h.1.symm]
      exact hsaved j p' hp' key

/-- An edit keeps a save right exactly when it meets the condition. -/
theorem savedOk_iff {screen : Screen} {s t : State} {e : Event} (hs : Static s)
    (hsaved : SavedRight screen s) (h : step list s e = some t) :
    SavedOk list s e ↔ SavedRight screen t := by
  have ht := hs.step h
  rw [savedRight_iff hs] at hsaved
  rw [savedRight_iff ht]
  cases e with
  | form e =>
    cases h
    exact iff_of_true trivial hsaved
  | setFeaturedPackage package index =>
    exact absurd h hs.not_featured
  | edit q entry =>
    obtain ⟨p, c, effect, hp, hcp, heffect, rfl⟩ := step_edit h
    rcases effect_cases heffect with ⟨hentry, rfl⟩ | ⟨hentry, rfl⟩
    · refine Iff.trans ?_ (savedRight_edited_iff hp hcp hsaved).symm
      simp [SavedOk, hp, hcp, hentry]
    · refine iff_of_true (fun p' hp' c' hc' hentry' => ?_) hsaved
      cases hp.symm.trans hp'
      cases hcp.symm.trans hc'
      exact absurd hentry' hentry

/-! ## Switches -/

/-- Is it drawn as a switch? -/
def FieldType.Switch (type : FieldType) : Prop := type = .switch ∨ type = .checkbox

instance (type : FieldType) : Decidable type.Switch := inferInstanceAs (Decidable (_ ∨ _))

/-- **What should be drawn**: a switch is on when its value is `'yes'`, and only then. -/
def DrawnRight (s : State) : Prop :=
  ∀ q c, controlAt s.packages q = some c → c.type.Switch →
    (drawnOn q.level c.value = true ↔ c.value.eqWord "yes" = true)

/-- A value that is neither `'yes'` nor `true`: for one a switch should be on, with the other
that of a field is. -/
def Off (v : Value) : Prop := v.eqWord "yes" = false ∧ v ≠ .atom (.bool true)

instance (v : Value) : Decidable (Off v) := inferInstanceAs (Decidable (_ ∧ _))

/-- No field is a switch whose value is `'yes'` or `true`. -/
def NoneOn (packages : List Package) : Prop :=
  ∀ p ∈ packages, ∀ f ∈ p.fields, f.field.type.Switch → Off f.field.value

instance (packages : List Package) : Decidable (NoneOn packages) := by
  unfold NoneOn
  infer_instance

/-- A switch of a field is on just when it should be exactly when it should be off and is. -/
theorem drawnOn_field_iff (v : Value) :
    (drawnOn .field v = true ↔ v.eqWord "yes" = true) ↔ Off v := by
  unfold drawnOn Off
  by_cases htrue : v = .atom (.bool true)
  · subst htrue
    decide
  · simp [htrue]

theorem drawnRight_iff (s : State) : DrawnRight s ↔ NoneOn s.packages := by
  constructor
  · intro hdrawn p hp f hf hswitch
    obtain ⟨j, hj⟩ := List.getElem?_of_mem hp
    obtain ⟨i, hi⟩ := List.getElem?_of_mem hf
    have hc : controlAt s.packages ⟨j, .field, i⟩ = some f.control := by
      simp [controlAt, hj, Package.controlAt, hi]
    exact (drawnOn_field_iff f.field.value).1 (hdrawn _ _ hc hswitch)
  · rintro hnone ⟨j, level, i⟩ c hc hswitch
    cases level with
    | subField => exact Iff.rfl
    | field =>
      obtain ⟨p, hp, hc⟩ := Option.bind_eq_some_iff.1 hc
      obtain ⟨f, hf, rfl⟩ := Option.map_eq_some_iff.1 hc
      have hoff := hnone p (List.mem_of_getElem? hp) f (List.mem_of_getElem? hf) hswitch
      exact (drawnOn_field_iff f.field.value).2 hoff

/-- The values of the switches among the fields of a package. -/
def switchValues (p : Package) : List (Option Value) :=
  p.fields.map fun f => if f.field.type.Switch then some f.field.value else none

theorem noneOn_iff (packages : List Package) :
    NoneOn packages ↔ ∀ l ∈ packages.map switchValues, ∀ v, some v ∈ l → Off v := by
  constructor
  · intro hnone l hl v hv
    obtain ⟨p, hp, rfl⟩ := List.mem_map.1 hl
    obtain ⟨f, hf, hfv⟩ := List.mem_map.1 hv
    obtain ⟨hswitch, hv⟩ := Option.ite_none_right_eq_some.1 hfv
    exact Option.some.inj hv ▸ hnone p hp f hf hswitch
  · intro hall p hp f hf hswitch
    refine hall _ (List.mem_map_of_mem hp) _ (List.mem_map.2 ⟨f, hf, ?_⟩)
    rw [if_pos hswitch]

/-- No handler writes a switch of a field. -/
theorem switchValues_step {s t : State} {e : Event} (hs : Static s) (h : step list s e = some t) :
    t.packages.map switchValues = s.packages.map switchValues := by
  cases e with
  | form e =>
    cases h
    rfl
  | setFeaturedPackage package index =>
    exact absurd h hs.not_featured
  | edit q entry =>
    obtain ⟨p, c, effect, hp, hcp, heffect, rfl⟩ := step_edit h
    cases effect with
    | thrown => rfl
    | written v =>
      refine Js.map_modify_eq fun p' hp' => ?_
      cases hp.symm.trans hp'
      obtain ⟨j, level, i⟩ := q
      cases level with
      | subField => rfl
      | field =>
        refine Js.map_modify_eq fun f hf => ?_
        obtain ⟨f', hf', rfl⟩ := Option.map_eq_some_iff.1 hcp
        cases hf'.symm.trans hf
        have hhandle := handle_of_written heffect
        have hswitch : ¬ f.field.type.Switch := by
          rintro htype
          cases entry with
          | onChangeText val =>
            obtain ⟨htext, -⟩ := Option.ite_none_right_eq_some.1 hhandle
            rcases htype with htype | htype <;> simp [Field.control, htype] at htext
          | onValueChange =>
            obtain ⟨-, ⟨⟩⟩ := Option.ite_none_right_eq_some.1 hhandle
          | onSelectedItemsChange value =>
            obtain ⟨hterms, -⟩ := Option.ite_none_right_eq_some.1 hhandle
            rcases htype with htype | htype <;> simp [Field.control, htype] at hterms
        rw [withValue_type, if_neg hswitch, if_neg hswitch]

/-! ## Runs -/

/-- The screen as it is loaded from a schema without controls to feature a package. -/
theorem static_init {schema : Schema} {item : Option EditedTask} {screen : Screen}
    (hloaded : loaded schema item = some screen)
    (htypes : ∀ plan ∈ schema.service_plans.props, ∀ f ∈ plan.2.props,
      f.2.type ≠ .featured_package) : Static (machine list screen).init := by
  obtain ⟨packages, hpackages, -⟩ := Option.bind_eq_some_iff.1 hloaded
  have hschema : Static ⟨{ screen with packages := packages }, []⟩ := by
    refine ⟨nodup_names hpackages, fun p hp f hf => ?_⟩
    obtain ⟨subs, -, rfl⟩ := Option.map_eq_some_iff.1 hpackages
    obtain ⟨plan, hplan, rfl⟩ := List.mem_map.1 hp
    obtain ⟨x, hx, rfl⟩ := List.mem_map.1 hf
    exact htypes plan hplan x hx
  exact hschema.of_shape (map_shape_loaded hpackages hloaded)

theorem savedRight_init {screen : Screen} (h : Static (machine list screen).init) :
    SavedRight screen (machine list screen).init := by
  rw [savedRight_iff h]
  intro j p hp key
  have hp : screen.packages[j]? = some p := hp
  simp [lastValue, machine, hp]

variable (list) in
/-- What a step must meet. -/
def StepOk (s : State) (e : Event) : Prop := ControlOk list s e ∧ SavedOk list s e

instance (s : State) : (e : Event) → Decidable (ControlOk list s e)
  | .edit q _ => inferInstanceAs (Decidable (∀ c ∈ controlAt s.packages q, _))
  | .setFeaturedPackage _ _ | .form _ => isTrue trivial

instance (s : State) : (e : Event) → Decidable (SavedOk list s e)
  | .edit q _ => inferInstanceAs (Decidable (∀ p ∈ s.packages[q.package]?, _))
  | .setFeaturedPackage _ _ | .form _ => isTrue trivial

instance (s : State) (e : Event) : Decidable (StepOk list s e) :=
  inferInstanceAs (Decidable (_ ∧ _))

/-- The edits of a run. -/
theorem meets_controlOk_iff {screen : Screen} {es : List Event} {s : State}
    (h : (machine list screen).run es = some s) :
    (machine list screen).Meets (ControlOk list) es ↔
      ∀ fs q entry, fs ++ [.edit q entry] <+: es → ∀ t u, (machine list screen).run fs = some t →
        (machine list screen).run (fs ++ [.edit q entry]) = some u →
          EditRight list q entry t u := by
  have hother : ∀ s e, (∀ k : Place × Entry, e ≠ .edit k.1 k.2) → ControlOk list s e := by
    intro s e he
    cases e with
    | edit q entry => exact absurd rfl (he (q, entry))
    | setFeaturedPackage _ _ | form _ => trivial
  rw [(machine list screen).meets_iff_of_events (J := fun _ => True)
    (fun k : Place × Entry => .edit k.1 k.2) trivial (fun _ _ _ _ _ => trivial)
    (fun k s t _ hst => controlOk_iff hst) hother h]
  exact ⟨fun hall fs q entry => hall fs (q, entry), fun hall fs k => hall fs k.1 k.2⟩

/-- The switches of a run are those it starts with. -/
theorem drawnRight_run {screen : Screen} (hstatic : Static (machine list screen).init)
    {es : List Event} {s : State} (h : (machine list screen).run es = some s) :
    DrawnRight s ↔ NoneOn screen.packages := by
  have hkept := (machine list screen).invariant_run
    (I := fun t => Static t ∧ t.packages.map switchValues = screen.packages.map switchValues)
    ⟨hstatic, rfl⟩
    (fun _ _ _ hs hst => ⟨hs.1.step hst, (switchValues_step hs.1 hst).trans hs.2⟩) h
  rw [drawnRight_iff, noneOn_iff, noneOn_iff, hkept.2]

/-- **The controls of the packages.**  For every schema without controls to feature a
package, every task and every run of edits, each edit gives its control what was entered,
changes no other one and does not throw, a save would post in every state for every package
and key the value entered last (or the loaded one), and every switch is on just when its
value is `'yes'`, exactly when no field is a switch whose value is loaded as `'yes'` or
`true`, no switch of a field is tapped, the packages that are edited can be drawn, the lists
of choices that are used can be opened, and for each value entered no control that comes after
it in its package has the same key, or the value is saved under the key already. -/
theorem controls_iff {schema : Schema} {item : Option EditedTask} {screen : Screen}
    (hloaded : loaded schema item = some screen)
    (htypes : ∀ plan ∈ schema.service_plans.props, ∀ f ∈ plan.2.props,
      f.2.type ≠ .featured_package)
    {es : List Event} {s : State} (h : (machine list screen).run es = some s) :
    NoneOn screen.packages ∧ (machine list screen).Meets (StepOk list) es ↔
      (∀ fs q entry, fs ++ [.edit q entry] <+: es → ∀ t u,
        (machine list screen).run fs = some t →
          (machine list screen).run (fs ++ [.edit q entry]) = some u →
            EditRight list q entry t u) ∧
      ∀ fs, fs <+: es → ∀ t, (machine list screen).run fs = some t →
        SavedRight screen t ∧ DrawnRight t := by
  have hstatic : Static (machine list screen).init := static_init hloaded htypes
  have hsaved : (machine list screen).Meets (SavedOk list) es ↔
      ∀ fs, fs <+: es → ∀ t, (machine list screen).run fs = some t → SavedRight screen t :=
    (machine list screen).meets_iff_of_invariant (I := fun _ => SavedRight screen)
      (savedRight_init hstatic) hstatic (fun _ _ _ hs _ hst => hs.step hst)
      (fun _ _ _ _ _ hs hright hst => savedOk_iff hs hright hst) h
  have hboth : (machine list screen).Meets (StepOk list) es ↔
      (machine list screen).Meets (ControlOk list) es ∧
        (machine list screen).Meets (SavedOk list) es :=
    (machine list screen).meets_and
  rw [hboth, ← meets_controlOk_iff h, hsaved]
  constructor
  · rintro ⟨hnone, hcontrol, hright⟩
    exact ⟨hcontrol, fun fs hfs t ht => ⟨hright fs hfs t ht, (drawnRight_run hstatic ht).2 hnone⟩⟩
  · rintro ⟨hcontrol, hright⟩
    have hinit : (machine list screen).run [] = some (machine list screen).init := rfl
    have hdrawn := (hright [] List.nil_prefix _ hinit).2
    exact ⟨(drawnRight_run hstatic hinit).1 hdrawn, hcontrol,
      fun fs hfs t ht => (hright fs hfs t ht).1⟩

/-- Two plans with a switch each, on as they are loaded, and one sub-field that is switched. -/
def switchSchema (vip : String) : Schema where
  field_array := [[⟨[⟨"express", .switch, true, .atom (.text "no"), none⟩]⟩]]
  service_plans :=
    let fields : Entries FieldDef :=
      ⟨[("title", ⟨.text, .atom (.text "Small")⟩), ("vip", ⟨.switch, .atom (.text vip)⟩)],
        by simp⟩
    ⟨[("basic", fields), ("premium", fields)], by simp⟩

/-- The screen with these plans, for a new task. -/
def switchScreen (vip : String) : Screen := (loaded (switchSchema vip) none).get rfl

/-- The title of the first plan is edited, and the sub-field of the second one is switched. -/
theorem controls_iff_sample :
    ∃ s, (machine .bundled (switchScreen "no")).run
        [.edit ⟨0, .field, 0⟩ (.onChangeText "Tiny"), .edit ⟨1, .subField, 0⟩ .onValueChange] =
          some s ∧
      SavedRight (switchScreen "no") s ∧ DrawnRight s ∧
      lastValue (switchScreen "no") s 0 "title" = some (.atom (.text "Tiny")) ∧
      lastValue (switchScreen "no") s 1 "title" = some (.atom (.text "Small")) ∧
      lastValue (switchScreen "no") s 1 "express" = some (.atom (.text "yes")) := by
  have hloaded : loaded (switchSchema "no") none = some (switchScreen "no") := rfl
  have hrun : (machine .bundled (switchScreen "no")).run
    [.edit ⟨0, .field, 0⟩ (.onChangeText "Tiny"), .edit ⟨1, .subField, 0⟩ .onValueChange] =
      some _ := rfl
  have hright := ((controls_iff hloaded (by decide) hrun).1 ⟨by decide, by decide⟩).2
    _ (List.prefix_refl _) _ hrun
  exact ⟨_, hrun, hright.1, hright.2, by decide⟩

/-- **The switch of a field** is drawn off although its value is `'yes'`, and stays as it is
when it is tapped. -/
theorem switch_of_field_stuck :
    loaded (switchSchema "yes") none = some (switchScreen "yes") ∧
      ¬ DrawnRight (machine .bundled (switchScreen "yes")).init ∧
      (machine .bundled (switchScreen "yes")).run [.edit ⟨0, .field, 1⟩ .onValueChange] =
        some (machine .bundled (switchScreen "yes")).init ∧
      ¬ EditRight .bundled ⟨0, .field, 1⟩ .onValueChange
        (machine .bundled (switchScreen "yes")).init
        (machine .bundled (switchScreen "yes")).init := by
  have hstep : step .bundled (machine .bundled (switchScreen "yes")).init
    (.edit ⟨0, .field, 1⟩ .onValueChange) = some (machine .bundled (switchScreen "yes")).init :=
      rfl
  refine ⟨rfl, ?_, rfl, ?_⟩
  · rw [drawnRight_iff]
    decide
  · rw [← controlOk_iff hstep]
    decide

/-- A plan with a title, and a list of choices for many. -/
def choicesScreen (choices : Value) : Screen :=
  ⟨[⟨"basic", [⟨"title", ⟨.text, .atom (.text "Small")⟩⟩],
    [⟨"formats", .select, false, choices, []⟩]⟩], "", ⟨[], []⟩⟩

/-- With a text for the choices the title cannot be edited: the package is not drawn. -/
example : (machine .bundled (choicesScreen (.atom (.text "pdf")))).run
      [.edit ⟨0, .field, 0⟩ (.onChangeText "Tiny")] =
    some (machine .bundled (choicesScreen (.atom (.text "pdf")))).init := rfl

end TaskPackages
