import Mathlib
import Taskbot.Async.Machine
import Taskbot.Js.Pushes

/-!
# The education list of the profile settings

The screen of the profile settings loads the profile each time it comes into focus.  It
empties its list of educations when the request is sent, and pushes those of the profile
when the reply comes, on the one array it has for all loads.

* `State`, `step` — the screen with its requests in flight, all of which ask the same.
* `education_eq` — **the list is the profile's, once for every reply since it was emptied
  last.**
* `posted`, `count_posted` — what `update-education` sends, which is the whole array.
* `loaded_iff` — the list is the profile's whenever no request is in flight exactly when
  each time one reply has come since then, or the profile has no educations.
-/

namespace ProfileSetting

/-- An education in the reply to `get-profile`. -/
structure Degree where
  degree_title : String
  institute : String
  start_date : String
  end_date : String
  description : String
  deriving DecidableEq

/-- An entry of the list on the screen. -/
structure Education where
  title : String
  institute : String
  start_date : String
  end_date : String
  description : String
  deriving DecidableEq

/-- The object that is pushed for an education of the profile. -/
def Education.ofDegree (d : Degree) : Education where
  title := d.degree_title
  institute := d.institute
  start_date := d.start_date
  end_date := d.end_date
  description := d.description

/-- `responseJson.profile_data`. -/
structure ProfileData where
  first_name : String
  last_name : String
  tagline : String
  hourlyprice : String
  english_level : String
  seller_type : String
  zipcode : String
  country : String
  education : List Degree
  deriving DecidableEq

/-- The educations of a profile as the screen shows them. -/
def ProfileData.educations (p : ProfileData) : List Education := p.education.map .ofDegree

/-- The screen and its requests in flight; `loads`, which counts the replies since the
list was emptied, is for the statements only. -/
structure State where
  firstName : String
  lastName : String
  tagline : String
  rate : String
  level : List String
  seller : List String
  zipCode : String
  selectedCountry : List String
  education : List Education
  loader : Bool
  inFlight : ℕ
  loads : ℕ
  deriving DecidableEq

/-- What can happen: the screen comes into focus or goes out of it, and one of the
requests is answered or fails. -/
inductive Event where
  | focus (isFocused : Bool)
  | reply
  | failure
  deriving DecidableEq

/-- `getProfileSetting`, up to the request. -/
def getProfileSetting (s : State) : State :=
  { s with education := [], loader := true, inFlight := s.inFlight + 1, loads := 0 }

/-- The loop over the educations of the reply. -/
def pushEducations (education : List Education) (degrees : List Degree) : List Education :=
  degrees.foldl (fun education d => education ++ [.ofDegree d]) education

/-- The reply handler, by the type of the user. -/
def handleProfile (user_type : String) (p : ProfileData) (s : State) : State :=
  if user_type = "sellers" then
    { s with
      firstName := p.first_name
      lastName := p.last_name
      tagline := p.tagline
      rate := p.hourlyprice
      level := [p.english_level]
      seller := [p.seller_type]
      zipCode := p.zipcode
      selectedCountry := [p.country]
      education := pushEducations s.education p.education
      loader := false }
  else
    { s with
      firstName := p.first_name
      lastName := p.last_name
      tagline := p.tagline
      selectedCountry := [p.country]
      zipCode := p.zipcode
      loader := false }

/-- One event; the server has the profile `p` throughout. -/
def step (user_type : String) (p : ProfileData) (s : State) : Event → Option State
  | .focus isFocused => some (if isFocused then getProfileSetting s else s)
  | .reply =>
    if s.inFlight = 0 then none
    else some { handleProfile user_type p s with
      inFlight := s.inFlight - 1
      loads := s.loads + 1 }
  | .failure =>
    if s.inFlight = 0 then none
    else some { s with loader := false, inFlight := s.inFlight - 1 }

/-- The state variables before the first effect. -/
def State.initial : State where
  firstName := ""
  lastName := ""
  tagline := ""
  rate := ""
  level := []
  seller := []
  zipCode := ""
  selectedCountry := []
  education := []
  loader := false
  inFlight := 0
  loads := 0

/-- The screen of a seller, mounted in focus. -/
def machine (p : ProfileData) : Async.Machine State Event :=
  ⟨getProfileSetting .initial, step "sellers" p⟩

/-! ## What `update-education` sends -/

/-- What the user does to the list: save the fields of the sheet, as a new entry or for
the one at an index, or delete an entry. -/
inductive Edit where
  | update (entry : Education) (educationIndex : Option ℕ)
  | delete (index : ℕ)
  deriving DecidableEq

/-- The array that is posted by `updateEducationData` or `deleteEducation`, if one is. -/
def posted (education : List Education) : Edit → Option (List Education)
  | .update entry educationIndex =>
    if entry.title ≠ "" ∧ entry.institute ≠ "" ∧ entry.description ≠ "" then
      match educationIndex with
      | some i => if i < education.length then some (education.set i entry) else none
      | none => some (education ++ [entry])
    else none
  | .delete index => some (education.eraseIdx index)

/-- The entry an edit writes. -/
def Edit.entry : Edit → Option Education
  | update entry _ => some entry
  | delete _ => none

/-- No entry is posted more often than it is listed, but for the one that is written. -/
theorem count_posted {education l : List Education} {edit : Edit}
    (h : posted education edit = some l) (e : Education) :
    l.count e ≤ education.count e + if edit.entry = some e then 1 else 0 := by
  cases edit with
  | update entry educationIndex =>
    have hentry : ((Edit.update entry educationIndex).entry = some e) ↔ entry = e := by
      simp [Edit.entry]
    simp only [hentry]
    obtain ⟨-, hposted⟩ := Option.ite_none_right_eq_some.1 h
    cases educationIndex with
    | none =>
      cases hposted
      simp [List.count_append, List.count_singleton]
    | some i =>
      obtain ⟨hi, ⟨⟩⟩ := Option.ite_none_right_eq_some.1 hposted
      rw [List.count_set hi]
      simp only [beq_iff_eq]
      omega
  | delete index =>
    cases h
    exact Nat.le_add_right_of_le (List.Sublist.count_le e (education.eraseIdx_sublist index))

/-! ## What the list is -/

theorem pushEducations_eq (education : List Education) (degrees : List Degree) :
    pushEducations education degrees = education ++ degrees.map .ofDegree :=
  Js.foldl_push Education.ofDegree degrees education

/-- The list is the profile's, over and over, as often as a reply has come. -/
def Inv (p : ProfileData) (s : State) : Prop :=
  s.education = (List.replicate s.loads p.educations).flatten

theorem inv_step {p : ProfileData} {s t : State} {e : Event} (hs : Inv p s)
    (h : step "sellers" p s e = some t) : Inv p t := by
  cases e with
  | focus isFocused =>
    cases h
    cases isFocused with
    | true => exact rfl
    | false => exact hs
  | reply =>
    obtain ⟨-, ⟨⟩⟩ := Option.ite_none_left_eq_some.1 h
    show pushEducations s.education p.education =
      (List.replicate (s.loads + 1) p.educations).flatten
    rw [pushEducations_eq, Js.flatten_replicate_succ, hs]
    rfl
  | failure =>
    obtain ⟨-, ⟨⟩⟩ := Option.ite_none_left_eq_some.1 h
    exact hs

theorem inv_init (p : ProfileData) : Inv p (machine p).init := rfl

/-- **Once for every reply.**  In every run the list is the profile's, as often as a reply
has come since it was emptied. -/
theorem education_eq {p : ProfileData} {es : List Event} {s : State}
    (h : (machine p).run es = some s) :
    s.education = (List.replicate s.loads p.educations).flatten :=
  (machine p).invariant_run (I := Inv p) (inv_init p) (fun _ _ _ => inv_step) h

/-! ## When it is the profile's -/

/-- The property: when no request is in flight, the list is the profile's, and no
education is posted more often than the profile has it, but for the one that is
written. -/
def Loaded (p : ProfileData) (s : State) : Prop :=
  s.inFlight = 0 → s.education = p.educations ∧
    ∀ edit, ∀ l ∈ posted s.education edit, ∀ e,
      l.count e ≤ p.educations.count e + if edit.entry = some e then 1 else 0

theorem loaded_iff_education (p : ProfileData) (s : State) :
    Loaded p s ↔ (s.inFlight = 0 → s.education = p.educations) := by
  refine forall_congr' fun _ => and_iff_left_of_imp fun heducation edit l hl e => ?_
  rw [heducation] at hl
  exact count_posted hl e

/-- What a step must meet: with the last answer that is outstanding, one reply has come
since the list was emptied; unless the profile has no educations. -/
def StepOk (p : ProfileData) (s : State) : Event → Prop
  | .focus _ => True
  | .reply => s.inFlight = 1 → p.education = [] ∨ s.loads = 0
  | .failure => s.inFlight = 1 → p.education = [] ∨ s.loads = 1

instance (p : ProfileData) (s : State) (e : Event) : Decidable (StepOk p s e) := by
  cases e <;> unfold StepOk <;> infer_instance

theorem educations_eq_nil_iff (p : ProfileData) : p.educations = [] ↔ p.education = [] :=
  List.map_eq_nil_iff

/-- A step keeps the property exactly when it meets the condition. -/
theorem stepOk_iff {p : ProfileData} {s t : State} {e : Event} (hs : Inv p s)
    (hloaded : Loaded p s) (h : step "sellers" p s e = some t) : StepOk p s e ↔ Loaded p t := by
  have ht := inv_step hs h
  have hlist : Loaded p t ↔ (t.inFlight = 0 → p.education = [] ∨ t.loads = 1) := by
    rw [loaded_iff_education, ht, Js.flatten_replicate_eq_iff, educations_eq_nil_iff]
  cases e with
  | focus isFocused =>
    cases h
    refine iff_of_true trivial ?_
    cases isFocused with
    | true =>
      intro hnone
      exact absurd hnone (Nat.succ_ne_zero _)
    | false => exact hloaded
  | reply =>
    obtain ⟨hpos, ⟨⟩⟩ := Option.ite_none_left_eq_some.1 h
    have hlast : s.inFlight - 1 = 0 ↔ s.inFlight = 1 := by omega
    rw [hlist, StepOk]
    simp [hlast]
  | failure =>
    obtain ⟨hpos, ⟨⟩⟩ := Option.ite_none_left_eq_some.1 h
    have hlast : s.inFlight - 1 = 0 ↔ s.inFlight = 1 := by omega
    rw [hlist, StepOk, hlast]

/-- **When the list is the profile's.**  In a run of any focus events and of replies and
failures in any order, the list of a seller is the profile's whenever no request is in
flight, and `update-education` posts no duplicates, exactly when each time the last answer
comes exactly one reply has been handled since the list was emptied, or the profile has no
educations. -/
theorem loaded_iff {p : ProfileData} {es : List Event} {s : State}
    (h : (machine p).run es = some s) :
    (machine p).Meets (StepOk p) es ↔
      ∀ fs, fs <+: es → ∀ t, (machine p).run fs = some t → Loaded p t :=
  (machine p).meets_iff_of_invariant (I := fun _ => Loaded p)
    (fun h => absurd h (Nat.succ_ne_zero _)) (inv_init p) (fun _ _ _ hs _ => inv_step hs)
    (fun _ _ _ _ _ hs hloaded => stepOk_iff hs hloaded) h

/-- A profile with one education. -/
def sampleProfile : ProfileData where
  first_name := "Ada"
  last_name := "Byron"
  tagline := ""
  hourlyprice := "20"
  english_level := "fluent"
  seller_type := "independent"
  zipcode := ""
  country := "GB"
  education := [⟨"Mathematics", "Home", "1828-01-01", "1834-01-01", "Tutored"⟩]

/-- The screen is left and shown again before the first reply, which fails. -/
theorem loaded_iff_sample :
    ∃ s, (machine sampleProfile).run
        [.focus false, .focus true, .failure, .reply, .focus false, .focus true, .reply] =
          some s ∧
      Loaded sampleProfile s := by
  have hok : (machine sampleProfile).Meets (StepOk sampleProfile)
      [.focus false, .focus true, .failure, .reply, .focus false, .focus true, .reply] := by
    decide
  exact ⟨_, rfl, (loaded_iff rfl).1 hok _ List.prefix_rfl _ rfl⟩

/-- **An education comes twice.**  The screen is left and shown again before the first
reply: each of the two replies pushes the one education. -/
theorem education_twice :
    ∃ s, (machine sampleProfile).run [.focus false, .focus true, .reply, .reply] = some s ∧
      s.inFlight = 0 ∧ s.education.map Education.title = ["Mathematics", "Mathematics"] ∧
      sampleProfile.educations.map Education.title = ["Mathematics"] :=
  ⟨_, rfl, rfl, rfl, rfl⟩

end ProfileSetting
