import Mathlib
import Taskbot.Async.Machine
import Taskbot.Async.Mounted

/-!
# The project wizard

The screen `PostProject` with its steps, and the two ways into it: "start new project" and
a template.  The step shown and what was posted so far are kept in the store
(`PostProjectSlice`), and the id of the project is part of what was posted.

* `ItemOne`, `ItemTwo` — what the store keeps of the two forms.
* `State`, `Event`, `step` — the store, the screen of the step shown, the saves on their
  way, and the handlers.  The forms travel along with the saves: any text may be typed
  into them.
* `Marker`, `Sent` — what a request says about the project; each request is recorded with
  the draft it was sent for.
-/

namespace PostProject

open Async

/-! ## What is posted -/

/-- The form of the first step, and what the store keeps of it but for the id. -/
structure FieldsOne where
  title : String
  project_type : String
  min_price : String
  max_price : String
  duration : String
  categories : String
  video_url : String
  location : String
  zipcode : String
  country : String
  is_milestone : String
  details : String
  attachments : List String
  deriving DecidableEq

/-- `postedItemOne`, when it is not `{}`.  An item without an `ID` has `none`. -/
structure ItemOne where
  ID : Option ℕ
  fields : FieldsOne
  deriving DecidableEq

/-- `postedItemTwo`, when it is not `{}`. -/
structure ItemTwo where
  freelancer : String
  expertise : String
  skills : List ℕ
  languages : List ℕ
  deriving DecidableEq

/-- What a card with a template reads of its item. -/
structure Template where
  title : String
  project_type : String
  min_price : String
  max_price : String
  /-- The ids of `duration`, as texts. -/
  duration : List String
  /-- The ids of `product_cat`, as texts. -/
  product_cat : List String
  video_url : String
  selected_location : String
  zipcode : Option String
  country : Option String
  is_milestone : String
  description : String
  downloadable_docs : List String
  freelancers : String
  /-- The ids of `expertise_level`, as texts. -/
  expertise_level : List String
  /-- The ids of `skills`. -/
  skills : List ℕ
  /-- The ids of `languages`. -/
  languages : List ℕ
  deriving DecidableEq

/-- The first object that `useThisTemplate` builds: it has no `ID`. -/
def Template.stepOne (item : Template) : ItemOne where
  ID := none
  fields :=
    { title := item.title
      project_type := item.project_type
      min_price := item.min_price
      max_price := item.max_price
      duration := item.duration.headD ""
      categories := item.product_cat.headD ""
      video_url := item.video_url
      location := item.selected_location
      zipcode := item.zipcode.getD ""
      country := item.country.getD ""
      is_milestone := item.is_milestone
      details := item.description
      attachments := item.downloadable_docs }

/-- The second object that `useThisTemplate` builds. -/
def Template.stepTwo (item : Template) : ItemTwo where
  freelancer := item.freelancers
  expertise := item.expertise_level.headD ""
  skills := item.skills
  languages := item.languages

/-! ## The wizard -/

/-- What a request says about the project. -/
inductive Marker where
  | null
  | undefined
  | id (n : ℕ)
  deriving DecidableEq

/-- A property of a JavaScript object, which may be missing. -/
def Marker.ofID : Option ℕ → Marker
  | none => .undefined
  | some n => .id n

/-- The form that a save carries. -/
inductive Form where
  /-- The first step, `step_id: 2`. -/
  | one (fields : FieldsOne)
  /-- The second step, `step_id: 3`. -/
  | two (item : ItemTwo)
  deriving DecidableEq

/-- A request `update-job` on its way. -/
structure Save where
  form : Form
  project_id : Marker
  /-- The screen that has sent it. -/
  component : ℕ
  /-- The draft it was sent for. -/
  draft : ℕ
  deriving DecidableEq

/-- The requests that name the project. -/
inductive Kind where
  /-- `update-job`. -/
  | updateJob
  /-- `recommended-freelancers`. -/
  | recommended
  /-- `invite-to-bid-project`. -/
  | invite
  deriving DecidableEq

/-- A request as it was sent, with the draft it was sent for and the id that the server
had returned first for that draft. -/
structure Sent where
  kind : Kind
  project_id : Marker
  draft : ℕ
  returned : Option ℕ
  deriving DecidableEq

/-- The state of the wizard.  The last four fields are its history, which no handler
reads. -/
structure State where
  step : ℕ
  /-- `none` is the object without keys. -/
  postedItemOne : Option ItemOne
  postedItemTwo : Option ItemTwo
  mounted : Mounted
  /-- The saves sent and not yet answered. -/
  inFlight : List Save
  /-- The number of the draft: how often the wizard was entered. -/
  draft : ℕ
  /-- The first id returned for this draft. -/
  returned : Option ℕ
  /-- The ids returned, with the drafts they were returned for. -/
  issued : List (ℕ × ℕ)
  sent : List Sent
  deriving DecidableEq

/-- What comes back for a save. -/
inductive Reply where
  /-- `type == 'success'`. -/
  | success (post_id : ℕ)
  | error
  /-- Any other `type`. -/
  | other
  /-- The `catch` branch. -/
  | failure
  deriving DecidableEq

/-- The ways into the wizard. -/
inductive Entry where
  | startNewProject
  | useThisTemplate (item : Template)
  deriving DecidableEq

/-- What can happen to the wizard. -/
inductive Event where
  /-- It is entered again. -/
  | enter (entry : Entry)
  /-- `saveAndContinue` of the first step. -/
  | saveStepOne (fields : FieldsOne)
  /-- `saveAndContinue` of the second step. -/
  | saveStepTwo (item : ItemTwo)
  /-- "Go back" on the second step. -/
  | goBack
  | loadMoreRecommendedFreelancer
  | sendInvite
  /-- The save at place `i` of those in flight is answered. -/
  | reply (i : ℕ) (r : Reply)
  deriving DecidableEq

/-- `Object.keys(postedItemOne).length != 0 ? postedItemOne.ID : null`. -/
def State.marker (s : State) : Marker :=
  match s.postedItemOne with
  | none => .null
  | some item => .ofID item.ID

/-- `postedItemOne.ID`. -/
def State.ID (s : State) : Marker := .ofID (s.postedItemOne.bind ItemOne.ID)

/-- A request is recorded. -/
def record (s : State) (kind : Kind) (project_id : Marker) : State :=
  { s with sent := s.sent ++ [⟨kind, project_id, s.draft, s.returned⟩] }

/-- The screen of a step is shown; the last one asks for freelancers at once. -/
def mount (s : State) : State :=
  let s := { s with mounted := s.mounted.replace }
  if s.step = 2 then record s .recommended s.ID else s

/-- `dispatch(updateStep(step))`. -/
def updateStep (s : State) (step : ℕ) : State :=
  if step = s.step then s else mount { s with step := step }

/-- A save is sent. -/
def save (s : State) (form : Form) : State :=
  record
    { s with
      mounted := s.mounted.start
      inFlight := s.inFlight ++ [⟨form, s.marker, s.mounted.serial, s.draft⟩] }
    .updateJob s.marker

/-- The wizard is entered, on its first step. -/
def enter (s : State) (entry : Entry) : State :=
  { s with
    step := 0
    postedItemOne :=
      match entry with
      | .startNewProject => none
      | .useThisTemplate item => some item.stepOne
    postedItemTwo :=
      match entry with
      | .startNewProject => none
      | .useThisTemplate item => some item.stepTwo
    mounted := s.mounted.replace
    draft := s.draft + 1
    returned := none }

/-- An id is returned for a draft. -/
def issue (s : State) (draft post_id : ℕ) : State :=
  { s with
    issued := s.issued ++ [(draft, post_id)]
    returned := if draft = s.draft then s.returned.or (some post_id) else s.returned }

/-- What a success writes to the store. -/
def saved (s : State) (post_id : ℕ) : Form → State
  | .one fields => updateStep { s with postedItemOne := some ⟨some post_id, fields⟩ } 1
  | .two item => updateStep { s with postedItemTwo := some item } 2

/-- The handlers of the reply to a save. -/
def replied (s : State) (q : Save) (r : Reply) : State :=
  let s := { s with mounted := s.mounted.finish q.component }
  match r with
  | .success post_id => saved (issue s q.draft post_id) post_id q.form
  | .error | .other | .failure => s

/-- One event. -/
def step (s : State) : Event → Option State
  | .enter entry => some (enter s entry)
  | .saveStepOne fields => if s.step = 0 then some (save s (.one fields)) else none
  | .saveStepTwo item => if s.step = 1 then some (save s (.two item)) else none
  | .goBack => if s.step = 1 then some (updateStep s 0) else none
  | .loadMoreRecommendedFreelancer =>
    if s.step = 2 then some (record s .recommended s.ID) else none
  | .sendInvite => if s.step = 2 then some (record s .invite s.marker) else none
  | .reply i r =>
    s.inFlight[i]?.map fun q => replied { s with inFlight := s.inFlight.eraseIdx i } q r

/-- The store before the wizard is entered for the first time. -/
def blank : State := ⟨0, none, none, .first, [], 0, none, [], []⟩

/-- The wizard, just entered. -/
def machine (entry : Entry) : Machine State Event := ⟨enter blank entry, step⟩

end PostProject
