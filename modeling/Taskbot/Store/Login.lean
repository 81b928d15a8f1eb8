import Mathlib
import Taskbot.Async.Machine
import Taskbot.Store.Session

/-!
# The login screen

A login that succeeds writes the token to the store and looks afterwards whether the account
is deactivated.  If it is, a sheet asks whether to restore it; if not, the home screen is
shown.  The home screen is also reached from the sheet, when a restore has succeeded, and
by "skip".

* `State`, `step` — the store, the two screens, the sheet, and the requests, which are
  answered in any order.
* `Fine` — the account in the store is not deactivated, or has been restored.
* `Inv`, `inv_step` — **while nothing goes wrong, the sheet is open or the account is fine.**
* `login_iff` — no deactivated account gets to the home screen, and a sheet that is
  cancelled leaves no token, exactly when the sheet is never cancelled, and the store has
  the right account when a login or a restore is answered.
-/

namespace Login

open Store Session

/-! ## The screen -/

/-- The requests. -/
inductive Request where
  /-- `user-login`. -/
  | userLogin (username userpassword : String)
  /-- `update-account` with `type: 'active_account'`. -/
  | activeAccount (post_id : Option ℕ) (token : Option String)
  deriving DecidableEq

/-- What comes back. -/
inductive Reply where
  /-- Success of a login. -/
  | session (authToken : String) (userdetails : UserDetails)
  /-- Success of a restore. -/
  | success
  | error
  /-- The `catch` branch. -/
  | failure
  deriving DecidableEq

/-- The screens. -/
inductive Screen where
  | login
  | home
  deriving DecidableEq

/-- The store and the login screen; the overlay drawn while a login is on its way is left
out.  `restored`, the accounts whose restore has been answered with success, is for the
statements only. -/
structure State where
  store : Store
  screen : Screen
  /-- Is the login screen still there, shown or not? -/
  mounted : Bool
  /-- Is the sheet `RBSheetRestoreAccount` open? -/
  sheet : Bool
  spinner : Bool
  loader : Bool
  inFlight : List Request
  restored : List ℕ
  deriving DecidableEq

/-- What can happen. -/
inductive Event where
  | login (email password : String)
  /-- "Restore" on the sheet. -/
  | activeAccount
  /-- "No" on the sheet, or a tap beside it. -/
  | cancel
  | skip
  /-- "Login" in the drawer of the home screen, for a user that is `{}`. -/
  | openLogin
  /-- The request at place `i` is answered, or it fails. -/
  | reply (i : ℕ) (r : Reply)
  deriving DecidableEq

/-- `login`; with nothing entered it only shows an alert. -/
def login (s : State) (email password : String) : State :=
  if email ≠ "" ∧ password ≠ "" then
    { s with spinner := true, inFlight := s.inFlight ++ [.userLogin email password] }
  else s

/-- `activeAccount`, up to the request. -/
def activeAccount (s : State) : State :=
  { s with
    loader := true
    inFlight := s.inFlight ++
      [.activeAccount (s.store.userInfo.map UserDetails.profile_id) s.store.token] }

/-- The handler of a successful login.  When the screen is gone there is no sheet to open,
and the exception is caught. -/
def loginReplied (s : State) (authToken : String) (userdetails : UserDetails) : State :=
  let s := { s with store := dispatch s.store (loggedIn authToken userdetails), spinner := false }
  if userdetails.deactive_account = "1" then { s with sheet := s.mounted }
  -- `navigation.reset`
  else { s with screen := .home, mounted := false, sheet := false }

/-- The handler of a successful restore. -/
def restoreReplied (s : State) (post_id : Option ℕ) : State :=
  { s with
    loader := false
    screen := .home
    sheet := false
    restored := s.restored ++ post_id.toList }

/-- The handlers of the replies, for the request that is answered. -/
def replied (s : State) : Request → Reply → Option State
  | .userLogin _ _, .session authToken userdetails => some (loginReplied s authToken userdetails)
  | .userLogin _ _, .error | .userLogin _ _, .failure => some { s with spinner := false }
  | .activeAccount post_id _, .success => some (restoreReplied s post_id)
  | .activeAccount _ _, .error | .activeAccount _ _, .failure => some { s with loader := false }
  | .userLogin _ _, .success | .activeAccount _ _, .session _ _ => none

/-- One event; what is below an open sheet cannot be tapped. -/
def step (s : State) : Event → Option State
  | .login email password =>
    if s.screen = .login ∧ s.sheet = false then some (login s email password) else none
  | .activeAccount => if s.sheet then some (activeAccount s) else none
  | .cancel => if s.sheet then some { s with sheet := false } else none
  | .skip =>
    if s.screen = .login ∧ s.sheet = false then some { s with screen := .home } else none
  | .openLogin =>
    if s.screen = .home ∧ s.sheet = false ∧ s.store.userInfo = none then
      some { s with screen := .login }
    else none
  | .reply i r =>
    match s.inFlight[i]? with
    | none => none
    | some q => replied { s with inFlight := s.inFlight.eraseIdx i } q r

/-- The login screen, with nobody signed in. -/
def machine : Async.Machine State Event where
  init :=
    { store := .initial
      screen := .login
      mounted := true
      sheet := false
      spinner := false
      loader := false
      inFlight := []
      restored := [] }
  step := step

/-! ## What should be so -/

/-- With a token, the account in the store is not deactivated, or has been restored. -/
def Fine (store : Store) (restored : List ℕ) : Prop :=
  store.token.isSome → ∃ u ∈ store.userInfo,
    u.deactive_account ≠ "1" ∨ u.profile_id ∈ restored

/-- The property of a state: so it is on the home screen. -/
def Safe (s : State) : Prop := s.screen = .home → Fine s.store s.restored

/-- The property of a run: and when the sheet has been cancelled, there is no token. -/
def Right (es : List Event) (s : State) : Prop :=
  Safe s ∧ (es.getLast? = some .cancel → s.store.token = none)

/-- What a step must meet, when a request is answered. -/
def RepliedOk (s : State) : Request → Reply → Prop
  | .userLogin _ _, .session _ userdetails =>
    userdetails.deactive_account = "1" →
      s.screen = .login ∨ userdetails.profile_id ∈ s.restored
  | .activeAccount post_id _, .success => Fine s.store (s.restored ++ post_id.toList)
  | _, _ => True

/-- What a step must meet: the sheet is not cancelled; a login to a deactivated account is
answered on the login screen; and a restore while its account is in the store, or one that
is fine. -/
def LoginOk (s : State) : Event → Prop
  | .cancel => False
  | .reply i r => ∀ q ∈ s.inFlight[i]?, RepliedOk s q r
  | .login _ _ | .activeAccount | .skip | .openLogin => True

instance (store : Store) (restored : List ℕ) : Decidable (Fine store restored) :=
  inferInstanceAs (Decidable (_ → ∃ u ∈ store.userInfo, _))

instance (s : State) : (q : Request) → (r : Reply) → Decidable (RepliedOk s q r)
  | .userLogin _ _, .session _ _ => inferInstanceAs (Decidable (_ → _ ∨ _))
  | .activeAccount post_id _, .success =>
    inferInstanceAs (Decidable (Fine s.store (s.restored ++ post_id.toList)))
  | .userLogin _ _, .success | .userLogin _ _, .error | .userLogin _ _, .failure
  | .activeAccount _ _, .session _ _ | .activeAccount _ _, .error
  | .activeAccount _ _, .failure => isTrue trivial

instance (s : State) : (e : Event) → Decidable (LoginOk s e)
  | .cancel => isFalse id
  | .reply i r => inferInstanceAs (Decidable (∀ q ∈ s.inFlight[i]?, RepliedOk s q r))
  | .login _ _ | .activeAccount | .skip | .openLogin => isTrue trivial

/-! ## What a step does -/

/-- Two states that differ in the spinners and the requests only. -/
structure Alike (s t : State) : Prop where
  store : t.store = s.store
  screen : t.screen = s.screen
  mounted : t.mounted = s.mounted
  sheet : t.sheet = s.sheet
  restored : t.restored = s.restored

theorem alike_login (s : State) (email password : String) : Alike s (login s email password) := by
  unfold login
  split
  · exact ⟨rfl, rfl, rfl, rfl, rfl⟩
  · exact ⟨rfl, rfl, rfl, rfl, rfl⟩

/-- A reply is the success of a login or of a restore, or nothing much happens. -/
theorem replied_cases {s t : State} {q : Request} {r : Reply} (h : replied s q r = some t) :
    (∃ username userpassword authToken u, q = .userLogin username userpassword ∧
      r = .session authToken u ∧ t = loginReplied s authToken u) ∨
    (∃ post_id token, q = .activeAccount post_id token ∧ r = .success ∧
      t = restoreReplied s post_id) ∨
    (Alike s t ∧ ∀ u, RepliedOk u q r) := by
  cases q with
  | userLogin username userpassword =>
    cases r with
    | session authToken u =>
      cases h
      exact Or.inl ⟨_, _, _, _, rfl, rfl, rfl⟩
    | success => cases h
    | error =>
      cases h
      exact Or.inr (Or.inr ⟨⟨rfl, rfl, rfl, rfl, rfl⟩, fun _ => trivial⟩)
    | failure =>
      cases h
      exact Or.inr (Or.inr ⟨⟨rfl, rfl, rfl, rfl, rfl⟩, fun _ => trivial⟩)
  | activeAccount post_id token =>
    cases r with
    | session authToken u => cases h
    | success =>
      cases h
      exact Or.inr (Or.inl ⟨_, _, rfl, rfl, rfl⟩)
    | error =>
      cases h
      exact Or.inr (Or.inr ⟨⟨rfl, rfl, rfl, rfl, rfl⟩, fun _ => trivial⟩)
    | failure =>
      cases h
      exact Or.inr (Or.inr ⟨⟨rfl, rfl, rfl, rfl, rfl⟩, fun _ => trivial⟩)

/-- The request that is answered, and what its handler does. -/
theorem step_reply {s t : State} {i : ℕ} {r : Reply} (h : step s (.reply i r) = some t) :
    ∃ q, s.inFlight[i]? = some q ∧
      replied { s with inFlight := s.inFlight.eraseIdx i } q r = some t := by
  simp only [step] at h
  cases hq : s.inFlight[i]? with
  | none =>
    rw [hq] at h
    cases h
  | some q =>
    rw [hq] at h
    exact ⟨q, rfl, h⟩

/-- The account that a login has brought. -/
theorem fine_loggedIn_iff (store : Store) (authToken : String) (u : UserDetails)
    (restored : List ℕ) : Fine (dispatch store (loggedIn authToken u)) restored ↔
      (u.deactive_account = "1" → u.profile_id ∈ restored) := by
  have htoken : (dispatch store (loggedIn authToken u)).token = some authToken := rfl
  have huser : (dispatch store (loggedIn authToken u)).userInfo = some u := rfl
  simp only [Fine, htoken, huser, Option.isSome_some, forall_true_left, Option.mem_some_iff,
    exists_eq_left']
  exact imp_iff_not_or.symm

/-! ## While nothing goes wrong -/

/-- What holds while every step meets its condition. -/
structure Inv (s : State) : Prop where
  fine : s.sheet = true ∨ Fine s.store s.restored
  token : s.sheet = true → s.store.token.isSome
  mounted : s.screen = .login → s.mounted = true
  gone : s.mounted = false → s.store.userInfo.isSome

theorem inv_init : Inv machine.init where
  fine := Or.inr fun h => absurd h Bool.false_ne_true
  token h := absurd h Bool.false_ne_true
  mounted _ := rfl
  gone h := absurd h.symm Bool.false_ne_true

theorem Alike.inv {s t : State} (h : Alike s t) (hs : Inv s) : Inv t := by
  obtain ⟨hstore, hscreen, hmounted, hsheet, hrestored⟩ := h
  constructor
  · rw [hsheet, hstore, hrestored]
    exact hs.fine
  · rw [hsheet, hstore]
    exact hs.token
  · rw [hscreen, hmounted]
    exact hs.mounted
  · rw [hmounted, hstore]
    exact hs.gone

theorem inv_loginReplied {s : State} (hs : Inv s) (authToken : String) {u : UserDetails}
    (hok : u.deactive_account = "1" → s.screen = .login ∨ u.profile_id ∈ s.restored) :
    Inv (loginReplied s authToken u) := by
  have hfine := fine_loggedIn_iff s.store authToken u s.restored
  unfold loginReplied
  split
  · next hdeactive =>
    refine ⟨?_, fun _ => rfl, hs.mounted, fun _ => rfl⟩
    rcases hok hdeactive with hlogin | hrestored
    · exact Or.inl (hs.mounted hlogin)
    · exact Or.inr (hfine.2 fun _ => hrestored)
  · next hactive =>
    exact ⟨Or.inr (hfine.2 fun h => absurd h hactive), fun h => absurd h Bool.false_ne_true,
      fun h => (nomatch h), fun _ => rfl⟩

theorem inv_restoreReplied {s : State} (hs : Inv s) {post_id : Option ℕ}
    (hok : Fine s.store (s.restored ++ post_id.toList)) : Inv (restoreReplied s post_id) :=
  ⟨Or.inr hok, fun h => absurd h Bool.false_ne_true, fun h => (nomatch h), hs.gone⟩

/-- **One step.** -/
theorem inv_step {s t : State} {e : Event} (hs : Inv s) (hok : LoginOk s e)
    (h : step s e = some t) : Inv t := by
  cases e with
  | login email password =>
    obtain ⟨-, ⟨⟩⟩ := Option.ite_none_right_eq_some.1 h
    exact (alike_login s email password).inv hs
  | activeAccount =>
    obtain ⟨-, ⟨⟩⟩ := Option.ite_none_right_eq_some.1 h
    exact ⟨hs.fine, hs.token, hs.mounted, hs.gone⟩
  | cancel => exact absurd hok id
  | skip =>
    obtain ⟨-, ⟨⟩⟩ := Option.ite_none_right_eq_some.1 h
    exact ⟨hs.fine, hs.token, fun h => (nomatch h), hs.gone⟩
  | openLogin =>
    obtain ⟨⟨-, -, hnone⟩, ⟨⟩⟩ := Option.ite_none_right_eq_some.1 h
    refine ⟨hs.fine, hs.token, fun _ => ?_, hs.gone⟩
    -- a screen that is gone has left a user behind
    by_contra hmounted
    have hsome := hs.gone (Bool.eq_false_iff.2 hmounted)
    rw [hnone] at hsome
    exact Bool.false_ne_true hsome
  | reply i r =>
    obtain ⟨q, hq, hreplied⟩ := step_reply h
    have hreply : RepliedOk s q r := hok q hq
    have hs' : Inv { s with inFlight := s.inFlight.eraseIdx i } :=
      ⟨hs.fine, hs.token, hs.mounted, hs.gone⟩
    rcases replied_cases hreplied with
      ⟨_, _, authToken, u, rfl, rfl, rfl⟩ | ⟨post_id, _, rfl, rfl, rfl⟩ | ⟨halike, -⟩
    · exact inv_loginReplied hs' authToken hreply
    · exact inv_restoreReplied hs' hreply
    · exact halike.inv hs'

/-! ## When all is right -/

theorem right_concat_iff {es : List Event} {e : Event} {t : State} (he : e ≠ .cancel) :
    Right (es ++ [e]) t ↔ Safe t := by
  rw [Right, List.getLast?_concat]
  exact and_iff_left fun h => absurd (Option.some.inj h) he

theorem Alike.safe_iff {s t : State} (h : Alike s t) : Safe t ↔ Safe s := by
  rw [Safe, Safe, h.screen, h.store, h.restored]

theorem safe_loginReplied_iff (s : State) (authToken : String) (u : UserDetails) :
    Safe (loginReplied s authToken u) ↔
      (u.deactive_account = "1" → s.screen = .login ∨ u.profile_id ∈ s.restored) := by
  have hfine := fine_loggedIn_iff s.store authToken u s.restored
  have hscreen : s.screen = .login ∨ u.profile_id ∈ s.restored ↔
      (s.screen = .home → u.profile_id ∈ s.restored) := by
    cases s.screen <;> simp
  unfold loginReplied
  split
  · next hdeactive =>
    rw [forall_prop_of_true hdeactive, hscreen]
    refine imp_congr_right fun _ => hfine.trans ?_
    rw [forall_prop_of_true hdeactive]
  · next hactive =>
    exact iff_of_true (fun _ => hfine.2 fun h => absurd h hactive) fun h => absurd h hactive

theorem safe_restoreReplied_iff (s : State) (post_id : Option ℕ) :
    Safe (restoreReplied s post_id) ↔ Fine s.store (s.restored ++ post_id.toList) :=
  ⟨fun h => h rfl, fun h _ => h⟩

/-- **Both ways.** -/
theorem loginOk_iff {es : List Event} {s t : State} {e : Event} (hs : Inv s)
    (hright : Right es s) (h : step s e = some t) : LoginOk s e ↔ Right (es ++ [e]) t := by
  have hsafe : Safe s := hright.1
  cases e with
  | login email password =>
    obtain ⟨-, ⟨⟩⟩ := Option.ite_none_right_eq_some.1 h
    rw [right_concat_iff (by simp), (alike_login s email password).safe_iff]
    exact iff_of_true trivial hsafe
  | activeAccount =>
    obtain ⟨-, ⟨⟩⟩ := Option.ite_none_right_eq_some.1 h
    rw [right_concat_iff (by simp)]
    exact iff_of_true trivial hsafe
  | cancel =>
    obtain ⟨hsheet, ⟨⟩⟩ := Option.ite_none_right_eq_some.1 h
    refine iff_of_false id fun hafter => ?_
    have hnone : s.store.token = none := hafter.2 List.getLast?_concat
    have hsome := hs.token hsheet
    rw [hnone] at hsome
    exact Bool.false_ne_true hsome
  | skip =>
    obtain ⟨⟨-, hsheet⟩, ⟨⟩⟩ := Option.ite_none_right_eq_some.1 h
    rw [right_concat_iff (by simp)]
    refine iff_of_true trivial fun _ => ?_
    exact hs.fine.resolve_left (Bool.eq_false_iff.1 hsheet)
  | openLogin =>
    obtain ⟨-, ⟨⟩⟩ := Option.ite_none_right_eq_some.1 h
    rw [right_concat_iff (by simp)]
    exact iff_of_true trivial fun h => (nomatch h)
  | reply i r =>
    obtain ⟨q, hq, hreplied⟩ := step_reply h
    have hok : LoginOk s (.reply i r) ↔ RepliedOk s q r := by
      simp [LoginOk, hq]
    rw [hok, right_concat_iff (by simp)]
    rcases replied_cases hreplied with
      ⟨_, _, authToken, u, rfl, rfl, rfl⟩ | ⟨post_id, _, rfl, rfl, rfl⟩ | ⟨halike, htrivial⟩
    · exact (safe_loginReplied_iff { s with inFlight := s.inFlight.eraseIdx i } authToken u).symm
    · exact (safe_restoreReplied_iff { s with inFlight := s.inFlight.eraseIdx i } post_id).symm
    · exact iff_of_true (htrivial s) (halike.safe_iff.2 hsafe)

/-- **When deactivated accounts get no session.**  In a run of logins, restores, cancels,
skips and of their replies in any order: throughout, the home screen has no token of a
deactivated account that has not been restored, and a sheet that is cancelled leaves no
token, exactly when the sheet is never cancelled, each login to a deactivated account is
answered on the login screen, and each restore finds its own account in the store or one
that is fine. -/
theorem login_iff {es : List Event} {s : State} (h : machine.run es = some s) :
    machine.Meets LoginOk es ↔ ∀ fs, fs <+: es → ∀ t, machine.run fs = some t → Right fs t := by
  have hright : Right [] machine.init :=
    ⟨fun h => (nomatch h), fun h => (nomatch h)⟩
  exact machine.meets_iff_of_invariant hright inv_init (fun _ _ _ => inv_step)
    (fun _ _ _ _ _ hs hright hst => loginOk_iff hs hright hst) h

/-- A deactivated account. -/
def deactive : UserDetails where
  profile_id := 5
  user_id := 6
  user_type := "buyers"
  deactivate_profile := "off"
  avatar := ""
  identity_verified := "0"
  deactive_account := "1"

/-- The account is restored from the sheet. -/
theorem login_iff_sample :
    ∃ s, machine.run [.login "ada" "secret", .reply 0 (.session "t" deactive), .activeAccount,
        .reply 0 .success] = some s ∧ s.screen = .home ∧ Safe s := by
  have hok : machine.Meets LoginOk [.login "ada" "secret", .reply 0 (.session "t" deactive),
      .activeAccount, .reply 0 .success] := by decide
  exact ⟨_, rfl, rfl, ((login_iff rfl).1 hok _ List.prefix_rfl _ rfl).1⟩

/-- **Cancelled, and in.**  After a login to a deactivated account the sheet is cancelled: the
token stays in the store, and with "skip" the home screen is reached. -/
theorem cancel_keeps_token :
    ∃ s, machine.run [.login "ada" "secret", .reply 0 (.session "t" deactive), .cancel, .skip] =
        some s ∧
      s.screen = .home ∧ s.store.token = some "t" ∧
      s.store.userInfo.map UserDetails.deactive_account = some "1" ∧ s.restored = [] :=
  ⟨_, rfl, rfl, rfl, rfl, rfl⟩

end Login
