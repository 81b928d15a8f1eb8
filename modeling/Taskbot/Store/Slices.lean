import Mathlib

/-!
# The store

The user-specific part of the Redux store: the slices `AuthSlice`, `SavedSlice`,
`PostProjectSlice` and `PostTaskSlice`.  The settings and taxonomies are the same
for every user and are left out.

* `Store`, `Store.initial` — the fields and their initial values.
* `Action`, `reduce`, `dispatch` — the reducers, and a sequence of dispatches.
* `FieldName`, `SameAt` — the eleven fields by name, and agreement at one.
* `dispatch_frame` — **a sequence of dispatches touches no field but those its
  actions write.**
-/

namespace Store

/-! ## The slices -/

/-- The object `userdetails`, as far as the store is concerned. -/
structure UserDetails where
  profile_id : ℕ
  user_id : ℕ
  user_type : String
  /-- `settings._deactivate_profile`. -/
  deactivate_profile : String
  avatar : String
  identity_verified : String
  deactive_account : String
  deriving DecidableEq

/-- A saved seller or task. -/
structure SavedItem where
  slug : String
  id : ℕ
  deriving DecidableEq

/-- The texts of one step of the project wizard, by their names. -/
abbrev Draft : Type := List (String × String)

/-- `PostProjectSlice`. -/
structure PostProject where
  step : ℕ
  postedItemOne : Draft
  postedItemTwo : Draft
  deriving DecidableEq

/-- `PostTaskSlice`. -/
structure PostTask where
  step : ℕ
  taskId : Option ℕ
  deriving DecidableEq

end Store

open Store in
/-- The user-specific fields of the store; a user that is `{}` is `none`. -/
structure Store where
  token : Option String
  visibleProfile : String
  userInfo : Option UserDetails
  profileImage : String
  verified : String
  wallet : String
  savedSellers : List SavedItem
  savedTasks : List SavedItem
  /-- The `id`s of the saved projects. -/
  savedProjects : List ℕ
  postedProject : PostProject
  postedTask : PostTask
  deriving DecidableEq

namespace Store

/-- The `initialState` of every slice. -/
def initial : Store where
  token := none
  visibleProfile := ""
  userInfo := none
  profileImage := ""
  verified := ""
  wallet := ""
  savedSellers := []
  savedTasks := []
  savedProjects := []
  postedProject := ⟨0, [], []⟩
  postedTask := ⟨0, none⟩

/-! ## Actions and reducers -/

/-- The actions of the slices; the two `updateStep` are of two slices. -/
inductive Action where
  | updateToken (payload : Option String)
  | updateVisibleProfile (payload : String)
  | updateUserInfo (payload : Option UserDetails)
  | updateProfileImage (payload : String)
  | updateVerified (payload : String)
  | updateWallet (payload : String)
  | updateSavedSellers (payload : List SavedItem)
  | updateSavedTasks (payload : List SavedItem)
  | updateSavedProjects (payload : List ℕ)
  | updateProjectStep (payload : ℕ)
  | updatePostedItemOne (payload : Draft)
  | updatePostedItemTwo (payload : Draft)
  | updateTaskStep (payload : ℕ)
  | updatePostedTaskId (payload : Option ℕ)
  deriving DecidableEq

/-- The reducers. -/
def reduce (s : Store) : Action → Store
  | .updateToken payload => { s with token := payload }
  | .updateVisibleProfile payload => { s with visibleProfile := payload }
  | .updateUserInfo payload => { s with userInfo := payload }
  | .updateProfileImage payload => { s with profileImage := payload }
  | .updateVerified payload => { s with verified := payload }
  | .updateWallet payload => { s with wallet := payload }
  | .updateSavedSellers payload => { s with savedSellers := payload }
  | .updateSavedTasks payload => { s with savedTasks := payload }
  | .updateSavedProjects payload => { s with savedProjects := payload }
  | .updateProjectStep payload =>
    { s with postedProject := { s.postedProject with step := payload } }
  | .updatePostedItemOne payload =>
    { s with postedProject := { s.postedProject with postedItemOne := payload } }
  | .updatePostedItemTwo payload =>
    { s with postedProject := { s.postedProject with postedItemTwo := payload } }
  | .updateTaskStep payload => { s with postedTask := { s.postedTask with step := payload } }
  | .updatePostedTaskId payload => { s with postedTask := { s.postedTask with taskId := payload } }

/-- Some dispatches, one after the other. -/
def dispatch (s : Store) (actions : List Action) : Store := actions.foldl reduce s

/-! ## Fields -/

/-- The fields of the store. -/
inductive FieldName where
  | token
  | visibleProfile
  | userInfo
  | profileImage
  | verified
  | wallet
  | savedSellers
  | savedTasks
  | savedProjects
  | postedProject
  | postedTask
  deriving DecidableEq

instance : Fintype FieldName where
  elems := {.token, .visibleProfile, .userInfo, .profileImage, .verified, .wallet, .savedSellers,
    .savedTasks, .savedProjects, .postedProject, .postedTask}
  complete := by
    intro f
    cases f <;> decide

/-- Two stores have the same in a field. -/
def SameAt (s u : Store) : FieldName → Prop
  | .token => s.token = u.token
  | .visibleProfile => s.visibleProfile = u.visibleProfile
  | .userInfo => s.userInfo = u.userInfo
  | .profileImage => s.profileImage = u.profileImage
  | .verified => s.verified = u.verified
  | .wallet => s.wallet = u.wallet
  | .savedSellers => s.savedSellers = u.savedSellers
  | .savedTasks => s.savedTasks = u.savedTasks
  | .savedProjects => s.savedProjects = u.savedProjects
  | .postedProject => s.postedProject = u.postedProject
  | .postedTask => s.postedTask = u.postedTask

instance (s u : Store) (f : FieldName) : Decidable (SameAt s u f) := by
  cases f <;> unfold SameAt <;> infer_instance

theorem SameAt.refl (s : Store) (f : FieldName) : SameAt s s f := by cases f <;> rfl

theorem SameAt.trans {s u v : Store} {f : FieldName} (h : SameAt s u f) (k : SameAt u v f) :
    SameAt s v f := by
  cases f <;> exact Eq.trans h k

/-- Stores that agree at every field are equal. -/
theorem eq_of_sameAt {s u : Store} (h : ∀ f, SameAt s u f) : s = u := by
  cases s
  cases u
  congr 1
  exacts [h .token, h .visibleProfile, h .userInfo, h .profileImage, h .verified, h .wallet,
    h .savedSellers, h .savedTasks, h .savedProjects, h .postedProject, h .postedTask]

/-- The field an action writes. -/
def Action.field : Action → FieldName
  | .updateToken _ => .token
  | .updateVisibleProfile _ => .visibleProfile
  | .updateUserInfo _ => .userInfo
  | .updateProfileImage _ => .profileImage
  | .updateVerified _ => .verified
  | .updateWallet _ => .wallet
  | .updateSavedSellers _ => .savedSellers
  | .updateSavedTasks _ => .savedTasks
  | .updateSavedProjects _ => .savedProjects
  | .updateProjectStep _ | .updatePostedItemOne _ | .updatePostedItemTwo _ => .postedProject
  | .updateTaskStep _ | .updatePostedTaskId _ => .postedTask

/-- The fields some actions write. -/
def fields (actions : List Action) : List FieldName := actions.map Action.field

theorem reduce_frame (s : Store) (a : Action) {f : FieldName} (h : f ≠ a.field) :
    SameAt (reduce s a) s f := by
  cases a <;> cases f <;> first | rfl | exact absurd rfl h

/-- **Frame.**  Dispatches touch no field but those their actions write. -/
theorem dispatch_frame (s : Store) (actions : List Action) {f : FieldName}
    (h : f ∉ fields actions) : SameAt (dispatch s actions) s f := by
  induction actions generalizing s with
  | nil => exact SameAt.refl s f
  | cons a as ih =>
    rw [fields, List.map_cons, List.mem_cons, not_or] at h
    exact (ih (reduce s a) h.2).trans (reduce_frame s a h.1)

end Store
