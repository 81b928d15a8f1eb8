import Mathlib
import Taskbot.Async.Forms
import Taskbot.Profile.EducationList

/-!
# The forms of the settings

The profile and the billing address are forms that are filled from the server and saved as
a whole.  A request that fails leaves a form empty, and nothing keeps it from being saved.

* `Input` — a state variable of such a form, a text or a list of choices, and what is sent of
  it.
* `settingForm`, `send_shown_iff` — the forms, by their lists of choices and by what an answer
  sets; what one sends of a field the user has not touched.
* `BillingInformation.billing_kept_iff` — **a save of the address wipes nothing that the
  server has exactly when it was shown before.**
* `ProfileSetting.profile_kept_iff` — the same for the profile, of which a buyer is not shown
  everything.
-/

namespace SettingForms

open Async

/-- A state variable of a form: the text of an input, or what is chosen in a list.  `none`
is a `null`, and no choice is an empty list. -/
inductive Input where
  | text (value : Option String)
  | choices (items : List (Option String))
  deriving DecidableEq

/-- `toString()` of an array: the elements with commas, `null` as nothing. -/
def arrayToString (items : List (Option String)) : String :=
  ",".intercalate (items.map (·.getD ""))

/-- What is sent of a state variable. -/
def Input.sent : Input → Option String
  | .text value => value
  | .choices items => some (arrayToString items)

/-- A form with some inputs and some lists of choices. -/
def settingForm {F : Type} (choice loads : F → Bool) (again : Bool) :
    Form F (Option String) Input where
  loads := loads
  load f v := if choice f then .choices [v] else .text v
  send _ w := w.sent
  blank f := if choice f then .choices [] else .text (some "")
  again := again

/-- The value of an untouched field comes through a save: one that was shown and is not a
`null` among choices, or one that is empty anyway. -/
def Through {F : Type} (choice loads : F → Bool) (answered : Bool) (f : F) (v : Option String) :
    Prop :=
  if answered ∧ loads f then choice f → v ≠ none else v = some ""

instance {F : Type} (choice loads : F → Bool) (answered : Bool) (f : F) (v : Option String) :
    Decidable (Through choice loads answered f v) := by
  unfold Through
  infer_instance

theorem arrayToString_singleton (v : Option String) : arrayToString [v] = v.getD "" := rfl

theorem send_shown_iff {F : Type} {choice loads : F → Bool} {again answered : Bool} {f : F}
    {v : Option String} :
    (settingForm choice loads again).send f ((settingForm choice loads again).shown answered f v) =
      v ↔ Through choice loads answered f v := by
  have hload : Input.sent (if choice f then .choices [v] else .text v) = v ↔
      (choice f → v ≠ none) := by
    cases hchoice : choice f with
    | false => simp [Input.sent]
    | true => cases v <;> simp [Input.sent, arrayToString_singleton]
  have hblank : Input.sent (if choice f then .choices [] else .text (some "")) = some "" := by
    cases choice f <;> rfl
  simp only [settingForm, Form.shown, Through, Bool.and_eq_true]
  split
  · exact hload
  · rw [hblank]
    exact eq_comm

end SettingForms

namespace BillingInformation

open Async SettingForms

/-- The state variables of `BillingInformation`. -/
inductive Field where
  | firstName
  | lastName
  | companyTitle
  | selectedCountry
  | address
  | city
  | postalCode
  | phone
  | email
  deriving DecidableEq

instance : Fintype Field :=
  .ofList [.firstName, .lastName, .companyTitle, .selectedCountry, .address, .city, .postalCode,
    .phone, .email] (by rintro ⟨⟩ <;> decide)

/-- The form: `getBillingInformation` sets all of them, `updateBillingInformation` sends all
of them. -/
def form : Form Field (Option String) Input :=
  settingForm (fun f => decide (f = .selectedCountry)) (fun _ => true) false

/-- A save is made after an answer was shown, unless all that the user has not typed is empty
on the server; and the country, if the user has not chosen one, is a text there. -/
def SaveOk (record : Field → Option String) (s : Form.Screen Field (Option String) Input) :
    Form.Event Field Input → Prop
  | .save => ∀ f ∉ s.touched,
      if s.answered then f = .selectedCountry → record f ≠ none else record f = some ""
  | .read | .edit _ _ | .serve _ | .deliver _ | .lose _ => True

instance (record : Field → Option String) (s : Form.Screen Field (Option String) Input)
    (e : Form.Event Field Input) : Decidable (SaveOk record s e) := by
  cases e <;> unfold SaveOk <;> infer_instance

theorem saveOk_eq (record : Field → Option String) : SaveOk record = form.SaveOk record := by
  funext s e
  cases e with
  | save =>
    refine propext (forall₂_congr fun f _ => ?_)
    rw [form, send_shown_iff, Through]
    simp
  | read | edit f w | serve i | deliver i | lose i => rfl

/-- **What a save of the address does to the rest of it.**  For every address the server
has, in every run of the form, whatever is typed, lost, refused or answered in any order,
the fields that the user has not touched are as they were on the server and in all saves on
their way there, throughout, exactly when each save meets `SaveOk`. -/
theorem billing_kept_iff {record : Field → Option String} {es : List (Form.Event Field Input)}
    {s : Form.Screen Field (Option String) Input}
    (h : (form.machine record).run es = some s) :
    (form.machine record).Meets (SaveOk record) es ↔
      ∀ fs, fs <+: es → ∀ t, (form.machine record).run fs = some t → Form.Kept record t := by
  rw [saveOk_eq]
  exact Form.kept_iff h

/-- An address. -/
def sample : Field → Option String
  | .firstName => some "Ada"
  | .lastName => some "King"
  | .selectedCountry => some "GB"
  | .email => some "ada@example.org"
  | .companyTitle | .address | .city | .postalCode | .phone => some ""

/-- The city is typed when the address is shown. -/
theorem billing_kept_iff_sample :
    ∃ s, (form.machine sample).run [.serve 0, .deliver 0, .edit .city (.text (some "London")),
        .save, .serve 0] = some s ∧ Form.Kept sample s := by
  refine ⟨_, rfl, ?_⟩
  have hok : (form.machine sample).Meets (SaveOk sample) [.serve 0, .deliver 0,
      .edit .city (.text (some "London")), .save, .serve 0] := by decide
  exact (billing_kept_iff rfl).1 hok _ List.prefix_rfl _ rfl

/-- The address never comes, the city is typed and saved: the rest of it is gone. -/
example : ∃ s, (form.machine sample).run [.lose 0, .edit .city (.text (some "London")), .save,
      .serve 0] = some s ∧ s.record .city = some "London" ∧ s.record .email = some "" :=
  ⟨_, rfl, by decide⟩

end BillingInformation

namespace ProfileSetting

open Async SettingForms

/-- The state variables of `ProfileSetting` that `updateProfileData` sends. -/
inductive Field where
  | firstName
  | lastName
  | tagline
  | selectedCountry
  | rate
  | level
  | seller
  | zipCode
  deriving DecidableEq

instance : Fintype Field :=
  .ofList [.firstName, .lastName, .tagline, .selectedCountry, .rate, .level, .seller, .zipCode]
    (by rintro ⟨⟩ <;> decide)

/-- The lists of choices. -/
def Field.choice : Field → Bool
  | .selectedCountry | .level | .seller => true
  | .firstName | .lastName | .tagline | .rate | .zipCode => false

/-- What `getProfileSetting` sets, by the type of the user. -/
def Field.loads (user_type : String) : Field → Bool
  | .rate | .level | .seller => user_type = "sellers"
  | .firstName | .lastName | .tagline | .selectedCountry | .zipCode => true

/-- The form, which asks for the profile each time the screen comes into focus. -/
def profileForm (user_type : String) : Form Field (Option String) Input :=
  settingForm Field.choice (Field.loads user_type) true

/-- A save is made after an answer was shown, unless all that the user has not put in is empty
on the server; so for a buyer, who is shown no rate, no level and no type, these must be. -/
def SaveOk (user_type : String) (record : Field → Option String)
    (s : Form.Screen Field (Option String) Input) : Form.Event Field Input → Prop
  | .save => ∀ f ∉ s.touched, Through Field.choice (Field.loads user_type) s.answered f (record f)
  | .read | .edit _ _ | .serve _ | .deliver _ | .lose _ => True

instance (user_type : String) (record : Field → Option String)
    (s : Form.Screen Field (Option String) Input) (e : Form.Event Field Input) :
    Decidable (SaveOk user_type record s e) := by
  cases e <;> unfold SaveOk <;> infer_instance

theorem saveOk_eq (user_type : String) (record : Field → Option String) :
    SaveOk user_type record = (profileForm user_type).SaveOk record := by
  funext s e
  cases e with
  | save => exact propext (forall₂_congr fun f _ => send_shown_iff.symm)
  | read | edit f w | serve i | deliver i | lose i => rfl

/-- **What a save of the profile does to the rest of it.**  For every profile and type of
user, in every run of the form, the fields that the user has not touched are as they were on
the server and in all saves on their way there, throughout, exactly when each save meets
`SaveOk`. -/
theorem profile_kept_iff {user_type : String} {record : Field → Option String}
    {es : List (Form.Event Field Input)} {s : Form.Screen Field (Option String) Input}
    (h : ((profileForm user_type).machine record).run es = some s) :
    ((profileForm user_type).machine record).Meets (SaveOk user_type record) es ↔
      ∀ fs, fs <+: es → ∀ t, ((profileForm user_type).machine record).run fs = some t →
        Form.Kept record t := by
  rw [saveOk_eq]
  exact Form.kept_iff h

/-! ### The handler of the reply -/

/-- The state variables of the screen, as those of a form. -/
def State.inputs (s : State) : Field → Input
  | .firstName => .text (some s.firstName)
  | .lastName => .text (some s.lastName)
  | .tagline => .text (some s.tagline)
  | .selectedCountry => .choices (s.selectedCountry.map some)
  | .rate => .text (some s.rate)
  | .level => .choices (s.level.map some)
  | .seller => .choices (s.seller.map some)
  | .zipCode => .text (some s.zipCode)

/-- The fields of the reply, by what they are shown in. -/
def ProfileData.record (p : ProfileData) : Field → Option String
  | .firstName => some p.first_name
  | .lastName => some p.last_name
  | .tagline => some p.tagline
  | .selectedCountry => some p.country
  | .rate => some p.hourlyprice
  | .level => some p.english_level
  | .seller => some p.seller_type
  | .zipCode => some p.zipcode

theorem inputs_initial (user_type : String) :
    State.initial.inputs = (profileForm user_type).blank := by
  funext f
  cases f <;> rfl

/-- The handler fills the form. -/
theorem inputs_handleProfile (user_type : String) (p : ProfileData) (s : State) :
    (handleProfile user_type p s).inputs = (profileForm user_type).filled s.inputs p.record := by
  funext f
  by_cases hseller : user_type = "sellers"
  · cases f <;> simp [handleProfile, hseller, State.inputs, ProfileData.record, Form.filled,
      profileForm, settingForm, Field.choice, Field.loads]
  · cases f <;> simp [handleProfile, hseller, State.inputs, ProfileData.record, Form.filled,
      profileForm, settingForm, Field.choice, Field.loads]

/-! ### One seller -/

/-- A seller types a tagline when the profile is shown, and saves it. -/
def taglineSaved : List (Form.Event Field Input) :=
  [.serve 0, .deliver 0, .edit .tagline (.text (some "Engines")), .save, .serve 0]

theorem profile_kept_iff_sample :
    ∃ s, ((profileForm "sellers").machine sampleProfile.record).run taglineSaved = some s ∧
      Form.Kept sampleProfile.record s := by
  refine ⟨_, rfl, ?_⟩
  have hok : ((profileForm "sellers").machine sampleProfile.record).Meets
      (SaveOk "sellers" sampleProfile.record) taglineSaved := by decide
  exact (profile_kept_iff rfl).1 hok _ List.prefix_rfl _ rfl

/-- A buyer does the same. -/
example : ∃ s, ((profileForm "buyers").machine sampleProfile.record).run taglineSaved = some s ∧
    s.record .level = some "" := ⟨_, rfl, by decide⟩

end ProfileSetting
