import Mathlib
import Taskbot.Async.Machine
import Taskbot.Store.Taxonomy

/-!
# The sheets the categories are chosen from

The home screen and the screen of the filters let a category be chosen on a sheet with a box
to search in; the filters have a second sheet for the sub-categories.  A sheet is mounted
when it is opened, so that its box is empty then; what was searched for last stays.  Both
boxes have the same handler, which narrows the categories.

* `State`, `Event`, `step` — the lists, the sheet that is open, and the text in its box.
* `Narrowed` — the open sheet offers what contains the text.
* `Inv`, `inv_run` — the categories are narrowed by what was typed last since they came,
  into whichever box.
* `narrowed_iff` — **the open sheet always offers just what contains the text exactly when**
  a list that comes contains the text throughout, the categories are opened when the text
  typed last narrows nothing, and what is typed for the sub-categories narrows nothing.
-/

namespace CategorySheets

open Taxonomy (Term)

/-! ## The screens -/

/-- The two screens. -/
inductive Screen where
  | home
  | narrowSearch
  deriving DecidableEq

/-- The sheets, `rbSheet` and `rbSheetSubcategories`. -/
inductive Sheet where
  | categories
  | subCategories
  deriving DecidableEq

/-- A screen, as far as its sheets go. -/
structure State where
  categories : List Term
  searchCategories : List Term
  searchSubCategories : List Term
  /-- The sheet that is open. -/
  sheet : Option Sheet
  /-- The text in its box. -/
  text : String
  /-- What was typed last since the categories came, for the statements. -/
  last : String
  deriving DecidableEq

/-- What can happen. -/
inductive Event where
  /-- A reply with categories; the home screen leaves some out. -/
  | getCategories (array : List Term)
  | getSubCategories (responseJson : List Term)
  | openSheet (sheet : Sheet)
  | close
  | handelSearchItem (text : String)
  /-- `handelSelectedCategory`, `handelSelectedSubCategory`. -/
  | choose (value : Term)
  deriving DecidableEq

section Text

-- `toLowerCase` of the language
variable (toLowerCase : String → String)

/-- `item.name.toLowerCase().includes(text.toLowerCase())`. -/
def Includes (text : String) (item : Term) : Prop :=
  (toLowerCase text).toList <:+: (toLowerCase item.name).toList

instance (text : String) : DecidablePred (Includes toLowerCase text) := fun item =>
  inferInstanceAs (Decidable ((toLowerCase text).toList <:+: (toLowerCase item.name).toList))

/-- `handelSearchItem`. -/
def handelSearchItem (s : State) (text : String) : State :=
  { s with
    searchCategories := s.categories.filter fun item => Includes toLowerCase text item
    text := text
    last := text }

/-- What a sheet offers: of the categories those of the first level. -/
def State.offered (s : State) : Sheet → List Term
  | .categories => s.searchCategories.filter fun item => item.parent = 0
  | .subCategories => s.searchSubCategories

/-- What it has to offer. -/
def State.items (s : State) : Sheet → List Term
  | .categories => s.categories.filter fun item => item.parent = 0
  | .subCategories => s.searchSubCategories

/-- One event.  The home screen has one sheet; a category that is chosen closes its sheet. -/
def step (screen : Screen) (s : State) : Event → Option State
  | .getCategories array =>
    some { s with categories := array, searchCategories := array, last := "" }
  | .getSubCategories responseJson =>
    if screen = .narrowSearch then some { s with searchSubCategories := responseJson } else none
  | .openSheet sheet =>
    if s.sheet = none ∧ (sheet = .subCategories → screen = .narrowSearch) then
      some { s with sheet := some sheet, text := "" }
    else none
  | .close => if s.sheet = none then none else some { s with sheet := none }
  | .handelSearchItem text =>
    if s.sheet = none then none else some (handelSearchItem toLowerCase s text)
  | .choose value =>
    if ∃ sheet ∈ s.sheet, value ∈ s.offered sheet then some { s with sheet := none } else none

/-- A screen that has just been mounted. -/
def machine (screen : Screen) : Async.Machine State Event :=
  ⟨⟨[], [], [], none, "", ""⟩, step toLowerCase screen⟩

/-! ## What the box promises -/

/-- The open sheet offers the items that contain the text in its box. -/
def Narrowed (s : State) : Prop :=
  ∀ sheet ∈ s.sheet,
    s.offered sheet = (s.items sheet).filter fun item => Includes toLowerCase s.text item

/-- Nothing is left out: every item contains the text. -/
def All (text : String) (items : List Term) : Prop := ∀ item ∈ items, Includes toLowerCase text item

/-- What an event must meet. -/
def SheetOk (s : State) : Event → Prop
  | .getCategories array =>
    s.sheet = some .categories → All toLowerCase s.text (array.filter fun item => item.parent = 0)
  | .getSubCategories responseJson =>
    s.sheet = some .subCategories → All toLowerCase s.text responseJson
  | .openSheet .categories => All toLowerCase s.last (s.items .categories)
  | .handelSearchItem text =>
    s.sheet = some .subCategories → All toLowerCase text s.searchSubCategories
  | .openSheet .subCategories | .close | .choose _ => True

instance (text : String) (items : List Term) : Decidable (All toLowerCase text items) :=
  inferInstanceAs (Decidable (∀ item ∈ items, Includes toLowerCase text item))

instance (s : State) : (e : Event) → Decidable (SheetOk toLowerCase s e)
  | .getCategories _ => inferInstanceAs (Decidable (_ → All _ _ _))
  | .getSubCategories _ => inferInstanceAs (Decidable (_ → All _ _ _))
  | .openSheet .categories => inferInstanceAs (Decidable (All _ _ _))
  | .handelSearchItem _ => inferInstanceAs (Decidable (_ → All _ _ _))
  | .openSheet .subCategories | .close | .choose _ => isTrue trivial

variable {toLowerCase}

/-! ## Narrowing -/

theorem filter_eq_self_iff {text : String} {items : List Term} :
    items.filter (fun item => Includes toLowerCase text item) = items ↔
      All toLowerCase text items := by
  rw [List.filter_eq_self]
  simp [All]

/-- An empty box leaves nothing out. -/
theorem all_empty (hempty : toLowerCase "" = "") (items : List Term) :
    All toLowerCase "" items := by
  intro item _
  rw [Includes, hempty]
  exact List.nil_infix

/-- The categories are narrowed by what was typed last since they came. -/
def Inv (toLowerCase : String → String) (s : State) : Prop :=
  s.searchCategories = s.categories.filter fun item => Includes toLowerCase s.last item

theorem inv_step (hempty : toLowerCase "" = "") {screen : Screen} {s t : State} {e : Event}
    (hs : Inv toLowerCase s) (h : step toLowerCase screen s e = some t) : Inv toLowerCase t := by
  cases e with
  | getCategories array =>
    cases h
    exact (filter_eq_self_iff.2 (all_empty hempty array)).symm
  | getSubCategories responseJson =>
    obtain ⟨-, ⟨⟩⟩ := Option.ite_none_right_eq_some.1 h
    exact hs
  | openSheet sheet =>
    obtain ⟨-, ⟨⟩⟩ := Option.ite_none_right_eq_some.1 h
    exact hs
  | close =>
    obtain ⟨-, ⟨⟩⟩ := Option.ite_none_left_eq_some.1 h
    exact hs
  | handelSearchItem text =>
    obtain ⟨-, ⟨⟩⟩ := Option.ite_none_left_eq_some.1 h
    rfl
  | choose value =>
    obtain ⟨-, ⟨⟩⟩ := Option.ite_none_right_eq_some.1 h
    exact hs

/-- What the sheet of the categories offers, by what was typed last. -/
theorem offered_categories {s : State} (hs : Inv toLowerCase s) :
    s.offered .categories =
      (s.items .categories).filter fun item => Includes toLowerCase s.last item := by
  rw [State.offered, hs, State.items, List.filter_filter, List.filter_filter]
  exact List.filter_congr fun item _ => Bool.and_comm _ _

/-- **One event.** -/
theorem sheetOk_iff (hempty : toLowerCase "" = "") {screen : Screen} {s t : State} {e : Event}
    (hinv : Inv toLowerCase s) (hs : Narrowed toLowerCase s)
    (h : step toLowerCase screen s e = some t) :
    SheetOk toLowerCase s e ↔ Narrowed toLowerCase t := by
  cases e with
  | getCategories array =>
    cases h
    rw [SheetOk, ← filter_eq_self_iff]
    constructor
    · intro hok sheet hsheet
      cases sheet with
      | categories => exact (hok hsheet).symm
      | subCategories => exact hs _ hsheet
    · intro ht hsheet
      exact (ht _ hsheet).symm
  | getSubCategories responseJson =>
    obtain ⟨-, ⟨⟩⟩ := Option.ite_none_right_eq_some.1 h
    rw [SheetOk, ← filter_eq_self_iff]
    constructor
    · intro hok sheet hsheet
      cases sheet with
      | categories => exact hs _ hsheet
      | subCategories => exact (hok hsheet).symm
    · intro ht hsheet
      exact (ht _ hsheet).symm
  | openSheet sheet =>
    obtain ⟨-, ⟨⟩⟩ := Option.ite_none_right_eq_some.1 h
    have hall := fun items => filter_eq_self_iff.2 (all_empty hempty items)
    cases sheet with
    | categories =>
      have hoffered := offered_categories hinv
      rw [SheetOk, ← filter_eq_self_iff, ← hoffered]
      constructor
      · intro hok sheet hsheet
        obtain rfl := Option.some.inj hsheet
        rw [hall]
        exact hok
      · intro ht
        have hopen := ht .categories rfl
        rwa [hall] at hopen
    | subCategories =>
      refine iff_of_true trivial fun sheet hsheet => ?_
      obtain rfl := Option.some.inj hsheet
      rw [hall]
      rfl
  | close =>
    obtain ⟨-, ⟨⟩⟩ := Option.ite_none_left_eq_some.1 h
    exact iff_of_true trivial nofun
  | handelSearchItem text =>
    obtain ⟨hsheet, ⟨⟩⟩ := Option.ite_none_left_eq_some.1 h
    have hinv' : Inv toLowerCase (handelSearchItem toLowerCase s text) := rfl
    rw [SheetOk, ← filter_eq_self_iff]
    constructor
    · intro hok sheet hopen
      cases sheet with
      | categories => exact offered_categories hinv'
      | subCategories => exact (hok hopen).symm
    · intro ht hopen
      exact (ht _ hopen).symm
  | choose value =>
    obtain ⟨-, ⟨⟩⟩ := Option.ite_none_right_eq_some.1 h
    exact iff_of_true trivial nofun

/-- **What the sheets offer.**  Throughout a run the open sheet offers just the items that
contain the text in its box exactly when: a list that comes while its sheet is open has no
item to leave out; the sheet of the categories is opened when what was typed last since they
came, into either box, leaves none of them out; and neither does what is typed into the box
of the sub-categories of these. -/
theorem narrowed_iff (hempty : toLowerCase "" = "") {screen : Screen} {es : List Event}
    {s : State} (h : (machine toLowerCase screen).run es = some s) :
    (machine toLowerCase screen).Meets (SheetOk toLowerCase) es ↔
      ∀ fs, fs <+: es → ∀ t, (machine toLowerCase screen).run fs = some t →
        Narrowed toLowerCase t :=
  (machine toLowerCase screen).meets_iff_of_invariant (I := fun _ => Narrowed toLowerCase)
    (J := Inv toLowerCase) nofun rfl (fun _ _ _ hs _ hst => inv_step hempty hs hst)
    (fun _ _ _ _ _ hJ hs hst => sheetOk_iff hempty hJ hs hst) h

end Text

/-! ## Two categories -/

/-- `toLowerCase` on texts without accents. -/
def asciiLower (text : String) : String := String.ofList (text.toList.map Char.toLower)

/-- A search that is cleared before the sheet is closed. -/
theorem narrowed_iff_sample :
    ∃ s, (machine asciiLower .home).run
        [.getCategories [⟨1, 0, "Design", "design"⟩, ⟨2, 0, "Music", "music"⟩],
          .openSheet .categories, .handelSearchItem "mu", .handelSearchItem "", .close,
          .openSheet .categories] = some s ∧ Narrowed asciiLower s := by
  obtain ⟨s, hs⟩ : ∃ s, (machine asciiLower .home).run
      [.getCategories [⟨1, 0, "Design", "design"⟩, ⟨2, 0, "Music", "music"⟩],
        .openSheet .categories, .handelSearchItem "mu", .handelSearchItem "", .close,
        .openSheet .categories] = some s := ⟨_, rfl⟩
  exact ⟨s, hs, (narrowed_iff (by decide) hs).1 (by decide) _ List.prefix_rfl s hs⟩

/-- **The search that stays.**  A category is searched for and chosen; when the sheet is
opened again, with an empty box, the others are missing. -/
example :
    ∃ s, (machine asciiLower .home).run
        [.getCategories [⟨1, 0, "Design", "design"⟩, ⟨2, 0, "Music", "music"⟩],
          .openSheet .categories, .handelSearchItem "mu", .choose ⟨2, 0, "Music", "music"⟩,
          .openSheet .categories] = some s ∧
      s.text = "" ∧ s.offered .categories = [⟨2, 0, "Music", "music"⟩] := by
  decide

end CategorySheets
