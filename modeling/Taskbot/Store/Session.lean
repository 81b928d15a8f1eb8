import Mathlib
import Taskbot.Async.Machine
import Taskbot.Store.Slices

/-!
# Sessions

Everything in the app that writes the user-specific part of the store: logging in
and out, switching and deactivating an account, the loads of pages, the saves, and
the drafts of the wizards.

* `Request`, `Reply`, `dispatches` — the requests whose replies write the store,
  and what each of them dispatches.
* `logout` — what logging out dispatches.
* `machine` — the store and the requests in flight, over any history of events.
* `signedIn`, `FromReply` — a store that holds nothing but what a reply brought.
* `session_separation` — **logging out leaves no trace, and logging in and
  switching start from a clean store, exactly as far as the handlers reset the
  fields**: in every history in which the fields they do not write are clean
  already, and nothing is written while nobody is signed in.
-/

namespace Session

open Store

/-! ## Requests and replies -/

/-- The lists `get-saved-items` is asked for. -/
inductive SavedType where
  | sellers
  | tasks
  | projects
  deriving DecidableEq

/-- The requests whose replies write the store. -/
inductive Request where
  | userLogin
  | switchUser
  | signup
  /-- `update-account` with `type: 'deactive_account'`. -/
  | deactiveAccount
  | userBalance
  | getVerification
  | getSavedItems (type : SavedType)
  /-- `update-privacy`, with the state of the switch. -/
  | updatePrivacy (visible : Bool)
  | uploadAvatar
  /-- `update-saveditem` for a project, with the list that will be written. -/
  | updateSavedItem (list : List ℕ)
  /-- The saves of the two wizards. -/
  | projectStepOne (obj : Draft)
  | projectStepTwo (obj : Draft)
  | taskStepOne
  | taskStepTwo
  | taskStepThree
  deriving DecidableEq

/-- What comes back. -/
inductive Reply where
  /-- Success, with a token and a user. -/
  | session (authToken : String) (userdetails : UserDetails)
  | balance (user_balance_formate : String)
  /-- Success of `get-verification`; are there attachments? -/
  | verification (attachments : Bool) (identity_verified : String)
  | items (items : List SavedItem)
  | avatar (avatar : String)
  | taskId (task_id : ℕ)
  /-- Success, with nothing the store takes. -/
  | success
  /-- An answer of `type == 'error'`. -/
  | error
  /-- The `catch` branch: no answer, or not one that can be read. -/
  | failure
  deriving DecidableEq

/-- What `logout` dispatches. -/
def logout : List Action :=
  [.updateToken none, .updateUserInfo none, .updateVisibleProfile "", .updateProfileImage "",
    .updateVerified ""]

/-- What a successful login dispatches. -/
def loggedIn (authToken : String) (userdetails : UserDetails) : List Action :=
  [.updateToken (some authToken), .updateUserInfo (some userdetails),
    .updateVisibleProfile userdetails.deactivate_profile,
    .updateProfileImage userdetails.avatar, .updateVerified userdetails.identity_verified]

/-- What a successful switch of the account dispatches, and a successful
registration. -/
def switched (authToken : String) (userdetails : UserDetails) : List Action :=
  [.updateToken (some authToken), .updateUserInfo (some userdetails),
    .updateVisibleProfile userdetails.deactivate_profile]

/-- What a successful deactivation dispatches. -/
def deactivated : List Action :=
  [.updateToken none, .updateUserInfo none, .updateVisibleProfile ""]

/-- What the handler of a reply dispatches. -/
def dispatches : Request → Reply → List Action
  | .userLogin, .session authToken userdetails => loggedIn authToken userdetails
  | .switchUser, .session authToken userdetails => switched authToken userdetails
  | .signup, .session authToken userdetails => switched authToken userdetails
  | .deactiveAccount, .success => deactivated
  | .userBalance, .balance user_balance_formate => [.updateWallet user_balance_formate]
  | .getVerification, .verification attachments identity_verified =>
    [.updateVerified (if attachments then "2" else identity_verified)]
  | .getSavedItems .sellers, .items items => [.updateSavedSellers items]
  | .getSavedItems .tasks, .items items => [.updateSavedTasks items]
  | .getSavedItems .projects, .items items => [.updateSavedProjects (items.map SavedItem.id)]
  | .updatePrivacy visible, .success => [.updateVisibleProfile (if visible then "on" else "off")]
  | .uploadAvatar, .avatar avatar => [.updateProfileImage avatar]
  | .updateSavedItem list, .success => [.updateSavedProjects list]
  | .projectStepOne obj, .success => [.updatePostedItemOne obj, .updateProjectStep 1]
  | .projectStepTwo obj, .success => [.updatePostedItemTwo obj, .updateProjectStep 2]
  | .taskStepOne, .taskId task_id => [.updatePostedTaskId (some task_id), .updateTaskStep 1]
  | .taskStepTwo, .success => [.updateTaskStep 2]
  | .taskStepThree, .failure => []
  | .taskStepThree, _ => [.updateTaskStep 3]
  | _, _ => []

/-! ## Histories -/

/-- The two starts of a wizard and the taps on its steps. -/
inductive WizardTap where
  /-- `startNewProject`, and the tap on a template. -/
  | startNewProject
  | template (stepOne stepTwo : Draft)
  | projectStep (index : ℕ)
  /-- "Create task" in the drawer, and "edit" on a card. -/
  | createTask
  | editTask (task_id : ℕ)
  | taskStep (index : ℕ)
  deriving DecidableEq

/-- What a tap in a wizard dispatches. -/
def WizardTap.dispatches : WizardTap → List Action
  | startNewProject => [.updatePostedItemOne [], .updatePostedItemTwo [], .updateProjectStep 0]
  | template stepOne stepTwo =>
    [.updatePostedItemOne stepOne, .updateProjectStep 0, .updatePostedItemTwo stepTwo]
  | projectStep index => [.updateProjectStep index]
  | createTask => [.updateTaskStep 0, .updatePostedTaskId none]
  | editTask task_id => [.updateTaskStep 0, .updatePostedTaskId (some task_id)]
  | taskStep index => [.updateTaskStep index]

/-- The store, the requests in flight, and two facts about the history: has the
user left by `logout` or a deactivation and not come back, and which login or
switch was handled last, if nothing was since. -/
structure State where
  store : Store
  inFlight : List Request
  signedOut : Bool
  justIn : Option (String × UserDetails)
  deriving DecidableEq

/-- What can happen. -/
inductive Event where
  | logout
  | wizard (tap : WizardTap)
  /-- A page loads, or something is saved: a request is sent. -/
  | send (q : Request)
  /-- The request at place `i` of those in flight is answered. -/
  | reply (i : ℕ) (r : Reply)
  deriving DecidableEq

/-- Is the reply the success of a login, a switch or a registration? -/
def signsIn : Request → Reply → Bool
  | .userLogin, .session .. | .switchUser, .session .. | .signup, .session .. => true
  | _, _ => false

/-- Is the reply the success of a deactivation? -/
def signsOut : Request → Reply → Bool
  | .deactiveAccount, .success => true
  | _, _ => false

/-- The session a login or a switch brings. -/
def session? : Request → Reply → Option (String × UserDetails)
  | .userLogin, .session authToken userdetails => some (authToken, userdetails)
  | .switchUser, .session authToken userdetails => some (authToken, userdetails)
  | _, _ => none

/-- One event. -/
def step (s : State) : Event → Option State
  | .logout =>
    some { s with store := dispatch s.store logout, signedOut := true, justIn := none }
  | .wizard tap => some { s with store := dispatch s.store tap.dispatches, justIn := none }
  | .send q => some { s with inFlight := s.inFlight ++ [q] }
  | .reply i r =>
    s.inFlight[i]?.map fun q =>
      { store := dispatch s.store (dispatches q r)
        inFlight := s.inFlight.eraseIdx i
        signedOut := signsOut q r || (s.signedOut && !signsIn q r)
        justIn := session? q r }

/-- A fresh install. -/
def machine : Async.Machine State Event := ⟨⟨Store.initial, [], false, none⟩, step⟩

/-! ## What the handlers reset -/

/-- A store that holds nothing but what a login brought. -/
def signedIn (authToken : String) (userdetails : UserDetails) : Store :=
  { Store.initial with
    token := some authToken
    userInfo := some userdetails
    visibleProfile := userdetails.deactivate_profile
    profileImage := userdetails.avatar
    verified := userdetails.identity_verified }

/-- Every field is initial, or what the reply brought. -/
def FromReply (s : Store) (p : String × UserDetails) : Prop :=
  ∀ f, SameAt s Store.initial f ∨ SameAt s (signedIn p.1 p.2) f

instance (s : Store) (p : String × UserDetails) : Decidable (FromReply s p) := by
  unfold FromReply
  infer_instance

/-- The fields logging out writes become initial. -/
theorem logout_resets (s : Store) {f : FieldName} (h : f ∈ fields logout) :
    SameAt (dispatch s logout) Store.initial f := by
  simp only [fields, logout, List.map_cons, List.map_nil, Action.field, List.mem_cons,
    List.not_mem_nil, or_false] at h
  rcases h with rfl | rfl | rfl | rfl | rfl <;> rfl

/-- The fields a deactivation writes become initial. -/
theorem deactivated_resets (s : Store) {f : FieldName} (h : f ∈ fields deactivated) :
    SameAt (dispatch s deactivated) Store.initial f := by
  simp only [fields, deactivated, List.map_cons, List.map_nil, Action.field, List.mem_cons,
    List.not_mem_nil, or_false] at h
  rcases h with rfl | rfl | rfl <;> rfl

/-- The fields a login writes hold what the reply brought. -/
theorem loggedIn_sets (s : Store) (authToken : String) (userdetails : UserDetails)
    {f : FieldName} (h : f ∈ fields (loggedIn authToken userdetails)) :
    SameAt (dispatch s (loggedIn authToken userdetails)) (signedIn authToken userdetails) f := by
  simp only [fields, loggedIn, List.map_cons, List.map_nil, Action.field, List.mem_cons,
    List.not_mem_nil, or_false] at h
  rcases h with rfl | rfl | rfl | rfl | rfl <;> rfl

/-- The fields a switch writes hold what the reply brought. -/
theorem switched_sets (s : Store) (authToken : String) (userdetails : UserDetails)
    {f : FieldName} (h : f ∈ fields (switched authToken userdetails)) :
    SameAt (dispatch s (switched authToken userdetails)) (signedIn authToken userdetails) f := by
  simp only [fields, switched, List.map_cons, List.map_nil, Action.field, List.mem_cons,
    List.not_mem_nil, or_false] at h
  rcases h with rfl | rfl | rfl <;> rfl

theorem dispatches_of_signsOut {q : Request} {r : Reply} (h : signsOut q r = true) :
    dispatches q r = deactivated := by
  cases q <;> cases r <;> first | rfl | cases h

/-- A login or a switch writes what it brought. -/
theorem session_sets (s : Store) {q : Request} {r : Reply} {p : String × UserDetails}
    (h : session? q r = some p) {f : FieldName} (hf : f ∈ fields (dispatches q r)) :
    SameAt (dispatch s (dispatches q r)) (signedIn p.1 p.2) f := by
  cases q <;> cases r <;> cases h
  · exact loggedIn_sets s _ _ hf
  · exact switched_sets s _ _ hf

/-- Handlers that reset the fields they write reset a store that is clean
elsewhere. -/
theorem dispatch_eq_initial {s : Store} {actions : List Action}
    (hset : ∀ f ∈ fields actions, SameAt (dispatch s actions) Store.initial f)
    (hrest : ∀ f, f ∉ fields actions → SameAt s Store.initial f) :
    dispatch s actions = Store.initial := by
  refine eq_of_sameAt fun f => ?_
  by_cases hf : f ∈ fields actions
  · exact hset f hf
  · exact (dispatch_frame s actions hf).trans (hrest f hf)

/-! ## Histories that keep sessions apart -/

/-- What the answer to a request must meet. -/
structure ReplyOk (s : State) (q : Request) (r : Reply) : Prop where
  /-- A deactivation finds the fields it does not write initial. -/
  leaves : signsOut q r = true →
    ∀ f, f ∉ fields (dispatches q r) → SameAt s.store Store.initial f
  /-- A login or a switch finds the fields it does not write initial, or as the
  reply has them. -/
  enters : ∀ p ∈ session? q r, ∀ f, f ∉ fields (dispatches q r) →
    SameAt s.store Store.initial f ∨ SameAt s.store (signedIn p.1 p.2) f
  /-- While nobody is signed in no other answer writes anything. -/
  quiet : s.signedOut = true → signsIn q r = false → signsOut q r = false → dispatches q r = []

instance (s : State) (q : Request) (r : Reply) : Decidable (ReplyOk s q r) :=
  decidable_of_iff
    ((signsOut q r = true → ∀ f, f ∉ fields (dispatches q r) → SameAt s.store Store.initial f) ∧
      (∀ p ∈ session? q r, ∀ f, f ∉ fields (dispatches q r) →
        SameAt s.store Store.initial f ∨ SameAt s.store (signedIn p.1 p.2) f) ∧
      (s.signedOut = true → signsIn q r = false → signsOut q r = false → dispatches q r = []))
    ⟨fun ⟨h1, h2, h3⟩ => ⟨h1, h2, h3⟩, fun ⟨h1, h2, h3⟩ => ⟨h1, h2, h3⟩⟩

/-- What an event must meet: `logout` finds the fields it does not write initial,
and no draft is started while nobody is signed in. -/
def StepOk (s : State) : Event → Prop
  | .logout => ∀ f, f ∉ fields logout → SameAt s.store Store.initial f
  | .wizard _ => s.signedOut = false
  | .send _ => True
  | .reply i r => ∀ q ∈ s.inFlight[i]?, ReplyOk s q r

instance (s : State) (e : Event) : Decidable (StepOk s e) := by
  cases e <;> unfold StepOk <;> infer_instance

/-- Signed out the store is initial, and just signed in it is from the reply. -/
structure Apart (s : State) : Prop where
  out : s.signedOut = true → s.store = Store.initial
  entered : ∀ p ∈ s.justIn, FromReply s.store p

theorem apart_reply {s : State} {q : Request} {r : Reply} (hs : Apart s) (hok : ReplyOk s q r)
    (i : ℕ) :
    Apart
      { store := dispatch s.store (dispatches q r)
        inFlight := s.inFlight.eraseIdx i
        signedOut := signsOut q r || (s.signedOut && !signsIn q r)
        justIn := session? q r } where
  out := by
    intro hout
    cases hleave : signsOut q r with
    | true =>
      have hrest := hok.leaves hleave
      simp only [dispatches_of_signsOut hleave] at hrest ⊢
      exact dispatch_eq_initial (fun _ => deactivated_resets s.store) hrest
    | false =>
      simp only [hleave, Bool.false_or, Bool.and_eq_true, Bool.not_eq_true'] at hout
      simp only [hok.quiet hout.1 hout.2 hleave]
      exact hs.out hout.1
  entered := by
    intro p hp f
    by_cases hf : f ∈ fields (dispatches q r)
    · exact Or.inr (session_sets s.store hp hf)
    · have hframe := dispatch_frame s.store (dispatches q r) hf
      exact (hok.enters p hp f hf).imp hframe.trans hframe.trans

theorem apart_step {s u : State} {e : Event} (hs : Apart s) (hok : StepOk s e)
    (h : step s e = some u) : Apart u := by
  cases e with
  | logout =>
    cases h
    exact ⟨fun _ => dispatch_eq_initial (fun _ => logout_resets s.store) hok, nofun⟩
  | wizard tap =>
    cases h
    exact ⟨fun hout => absurd (hout.symm.trans hok) Bool.noConfusion, nofun⟩
  | send q =>
    cases h
    exact ⟨hs.out, hs.entered⟩
  | reply i r =>
    obtain ⟨q, hq, rfl⟩ := Option.map_eq_some_iff.1 h
    exact apart_reply hs (hok q hq) i

theorem apart_run {es : List Event} {s : State} (hok : machine.Meets StepOk es)
    (h : machine.run es = some s) : Apart s :=
  machine.invariant ⟨nofun, nofun⟩ (fun _ _ _ => apart_step) hok h

/-- **Sessions are kept apart.**  Suppose that in a history every logout,
deactivation, login and switch finds the fields its handler does not write clean,
and that nothing is written while nobody is signed in.  Then once a user has left
and no request is outstanding the store is initial, so that any two such histories
leave the same store; and once a login or a switch is handled, every field is
initial or what it brought. -/
theorem session_separation {es : List Event} {s : State} (hok : machine.Meets StepOk es)
    (h : machine.run es = some s) :
    (s.signedOut = true → s.inFlight = [] → s.store = Store.initial) ∧
      (∀ p ∈ s.justIn, FromReply s.store p) ∧
      ∀ (fs : List Event) (u : State), machine.Meets StepOk fs → machine.run fs = some u →
        s.signedOut = true → s.inFlight = [] → u.signedOut = true → u.inFlight = [] →
        s.store = u.store := by
  have hs := apart_run hok h
  refine ⟨fun hout _ => hs.out hout, hs.entered, ?_⟩
  intro fs u hoku hu hout _ houtu _
  rw [hs.out hout, (apart_run hoku hu).out houtu]

/-! ## Two users -/

/-- A user with a picture of their own. -/
def user (profile_id : ℕ) (avatar : String) : UserDetails where
  profile_id := profile_id
  user_id := profile_id
  user_type := "buyers"
  deactivate_profile := "off"
  avatar := avatar
  identity_verified := "1"
  deactive_account := "0"

/-- A login and a logout with nothing loaded in between, twice. -/
theorem session_separation_sample :
    ∃ s, machine.run [.send .userLogin, .reply 0 (.session "A" (user 1 "a.png")), .logout,
        .send .userLogin, .reply 0 (.session "B" (user 2 "b.png"))] = some s ∧
      s.justIn = some ("B", user 2 "b.png") ∧ ∀ p ∈ s.justIn, FromReply s.store p := by
  have hok : machine.Meets StepOk
      [.send .userLogin, .reply 0 (.session "A" (user 1 "a.png")), .logout,
        .send .userLogin, .reply 0 (.session "B" (user 2 "b.png"))] := by decide
  exact ⟨_, rfl, rfl, (session_separation hok rfl).2.1⟩

/-- **What stays behind.**  The balance loaded by a user is still in the store
after logging out; and after a switch the picture is the previous account's. -/
theorem left_behind :
    (∃ s, machine.run [.send .userLogin, .reply 0 (.session "A" (user 1 "a.png")),
        .send .userBalance, .reply 0 (.balance "$5.00"), .logout] = some s ∧
        s.signedOut = true ∧ s.inFlight = [] ∧ s.store ≠ Store.initial) ∧
      ∃ s, machine.run [.send .userLogin, .reply 0 (.session "A" (user 1 "a.png")),
        .send .switchUser, .reply 0 (.session "B" (user 2 "b.png"))] = some s ∧
        s.justIn = some ("B", user 2 "b.png") ∧ ¬ FromReply s.store ("B", user 2 "b.png") :=
  ⟨⟨_, rfl, rfl, rfl, by decide⟩, ⟨_, rfl, rfl, by decide⟩⟩

end Session
