import Mathlib
import Taskbot.Async.Writes
import Taskbot.Store.Session

/-!
# Requests that race

Several requests whose replies write the store are on their way at once: the home screen
alone sends five when it is shown.  The server may answer them in any order.

* `Cell`, `cells` — the store as cells, each overwritten by an action of its own.
* `Writes`, `writes` — what the answers to a request can write to a cell.
* `writes_spec` — that this is so.
* `Race` — two requests can write different things to one cell.
* `store_eq_iff_agree` — for given answers: **the order of the replies does not matter
  exactly when the answers agree.**
* `any_order_iff` — **whatever the answers, it does not matter exactly when no two of the
  requests race.**
-/

namespace Session

open Store Async

/-! ## The cells of the store -/

/-- The parts of the store that an action overwrites. -/
inductive Cell where
  | token
  | visibleProfile
  | userInfo
  | profileImage
  | verified
  | wallet
  | savedSellers
  | savedTasks
  | savedProjects
  | projectStep
  | postedItemOne
  | postedItemTwo
  | taskStep
  | taskId
  deriving DecidableEq

instance : Fintype Cell where
  elems := {.token, .visibleProfile, .userInfo, .profileImage, .verified, .wallet, .savedSellers,
    .savedTasks, .savedProjects, .projectStep, .postedItemOne, .postedItemTwo, .taskStep, .taskId}
  complete := by
    intro k
    cases k <;> decide

/-- The cell an action overwrites. -/
def cell : Action → Cell
  | .updateToken _ => .token
  | .updateVisibleProfile _ => .visibleProfile
  | .updateUserInfo _ => .userInfo
  | .updateProfileImage _ => .profileImage
  | .updateVerified _ => .verified
  | .updateWallet _ => .wallet
  | .updateSavedSellers _ => .savedSellers
  | .updateSavedTasks _ => .savedTasks
  | .updateSavedProjects _ => .savedProjects
  | .updateProjectStep _ => .projectStep
  | .updatePostedItemOne _ => .postedItemOne
  | .updatePostedItemTwo _ => .postedItemTwo
  | .updateTaskStep _ => .taskStep
  | .updatePostedTaskId _ => .taskId

/-- What a cell holds, as the action that puts it there. -/
def holds (s : Store) : Cell → Action
  | .token => .updateToken s.token
  | .visibleProfile => .updateVisibleProfile s.visibleProfile
  | .userInfo => .updateUserInfo s.userInfo
  | .profileImage => .updateProfileImage s.profileImage
  | .verified => .updateVerified s.verified
  | .wallet => .updateWallet s.wallet
  | .savedSellers => .updateSavedSellers s.savedSellers
  | .savedTasks => .updateSavedTasks s.savedTasks
  | .savedProjects => .updateSavedProjects s.savedProjects
  | .projectStep => .updateProjectStep s.postedProject.step
  | .postedItemOne => .updatePostedItemOne s.postedProject.postedItemOne
  | .postedItemTwo => .updatePostedItemTwo s.postedProject.postedItemTwo
  | .taskStep => .updateTaskStep s.postedTask.step
  | .taskId => .updatePostedTaskId s.postedTask.taskId

theorem eq_of_holds {s u : Store} (h : ∀ k, holds s k = holds u k) : s = u := by
  obtain ⟨_, _, _, _, _, _, _, _, _, ⟨_, _, _⟩, ⟨_, _⟩⟩ := s
  obtain ⟨_, _, _, _, _, _, _, _, _, ⟨_, _, _⟩, ⟨_, _⟩⟩ := u
  cases h .token
  cases h .visibleProfile
  cases h .userInfo
  cases h .profileImage
  cases h .verified
  cases h .wallet
  cases h .savedSellers
  cases h .savedTasks
  cases h .savedProjects
  cases h .projectStep
  cases h .postedItemOne
  cases h .postedItemTwo
  cases h .taskStep
  cases h .taskId
  rfl

/-- The store is made of its cells. -/
def cells : Cells Store Cell Action where
  cell := cell
  write := reduce
  holds := holds
  holds_write_self s a := by cases a <;> rfl
  holds_write_of_ne s a k h := by cases a <;> cases k <;> first | rfl | exact absurd rfl h
  ext _ _ := eq_of_holds

theorem dispatch_eq_writes (s : Store) (actions : List Action) :
    dispatch s actions = cells.writes s actions := rfl

/-! ## What the answers to a request can write -/

/-- What can be written to a cell. -/
inductive Writes where
  | nothing
  /-- The same thing, if anything. -/
  | same (a : Action)
  | various
  deriving DecidableEq

/-- What the answers to a request can write to a cell. -/
def writes : Request → Cell → Writes
  | .userLogin, .token | .userLogin, .userInfo | .userLogin, .visibleProfile
  | .userLogin, .profileImage | .userLogin, .verified => .various
  | .switchUser, .token | .switchUser, .userInfo | .switchUser, .visibleProfile => .various
  | .signup, .token | .signup, .userInfo | .signup, .visibleProfile => .various
  | .deactiveAccount, .token => .same (.updateToken none)
  | .deactiveAccount, .userInfo => .same (.updateUserInfo none)
  | .deactiveAccount, .visibleProfile => .same (.updateVisibleProfile "")
  | .userBalance, .wallet => .various
  | .getVerification, .verified => .various
  | .getSavedItems .sellers, .savedSellers => .various
  | .getSavedItems .tasks, .savedTasks => .various
  | .getSavedItems .projects, .savedProjects => .various
  | .updatePrivacy visible, .visibleProfile =>
    .same (.updateVisibleProfile (if visible then "on" else "off"))
  | .uploadAvatar, .profileImage => .various
  | .updateSavedItem list, .savedProjects => .same (.updateSavedProjects list)
  | .projectStepOne obj, .postedItemOne => .same (.updatePostedItemOne obj)
  | .projectStepOne _, .projectStep => .same (.updateProjectStep 1)
  | .projectStepTwo obj, .postedItemTwo => .same (.updatePostedItemTwo obj)
  | .projectStepTwo _, .projectStep => .same (.updateProjectStep 2)
  | .taskStepOne, .taskId => .various
  | .taskStepOne, .taskStep => .same (.updateTaskStep 1)
  | .taskStepTwo, .taskStep => .same (.updateTaskStep 2)
  | .taskStepThree, .taskStep => .same (.updateTaskStep 3)
  | _, _ => .nothing

/-- Is the action one of those? -/
def Writes.Allows : Writes → Action → Prop
  | nothing, _ => False
  | same a, b => b = a
  | various, _ => True

/-- An answer writes what the table allows. -/
theorem allows_of_mem_last {q : Request} {r : Reply} {k : Cell} {a : Action}
    (h : a ∈ cells.last k (dispatches q r)) : (writes q k).Allows a := by
  cases q with
  | getSavedItems type => cases type <;> cases r <;> cases k <;> trivial
  | _ =>
    cases r <;> cases k <;> first | trivial | (cases h; rfl)

/-- Two answers with which a request writes all it can, and not the same. -/
def Request.sample (first : Bool) : Request → Reply
  | .userLogin | .switchUser | .signup =>
    if first then .session "A" (user 1 "a.png")
    else .session "B" { user 2 "b.png" with deactivate_profile := "on", identity_verified := "0" }
  | .userBalance => .balance (if first then "$5.00" else "$0.00")
  | .getVerification => .verification first "1"
  | .getSavedItems _ => .items (if first then [⟨"a", 1⟩] else [])
  | .uploadAvatar => .avatar (if first then "a.png" else "b.png")
  | .taskStepOne => .taskId (if first then 1 else 2)
  | .deactiveAccount | .updatePrivacy _ | .updateSavedItem _ | .projectStepOne _
  | .projectStepTwo _ | .taskStepTwo | .taskStepThree => .success

theorem mem_last_of_same {q : Request} {k : Cell} {a : Action} (h : writes q k = .same a) :
    a ∈ cells.last k (dispatches q (q.sample true)) := by
  cases q with
  | getSavedItems type => cases type <;> cases k <;> cases h
  | _ => cases k <;> cases h <;> rfl

theorem mem_last_of_various {q : Request} {k : Cell} (h : writes q k = .various) :
    ∃ a b, a ≠ b ∧ a ∈ cells.last k (dispatches q (q.sample true)) ∧
      b ∈ cells.last k (dispatches q (q.sample false)) := by
  cases q with
  | getSavedItems type =>
    cases type <;> cases k <;> cases h <;> exact ⟨_, _, by decide, rfl, rfl⟩
  | _ => cases k <;> cases h <;> exact ⟨_, _, by decide, rfl, rfl⟩

/-! ## Races -/

/-- Can different things be written? -/
def Writes.Clash : Writes → Writes → Prop
  | nothing, _ | _, nothing => False
  | same a, same b => a ≠ b
  | various, same _ | various, various | same _, various => True

instance : (w w' : Writes) → Decidable (w.Clash w')
  | .nothing, w => by cases w <;> exact isFalse id
  | .same _, .nothing | .various, .nothing => isFalse id
  | .same a, .same b => inferInstanceAs (Decidable (a ≠ b))
  | .various, .same _ | .various, .various | .same _, .various => isTrue trivial

/-- **A race.**  Two requests can write different things to one cell. -/
def Race (q q' : Request) : Prop := ∃ k, (writes q k).Clash (writes q' k)

instance (q q' : Request) : Decidable (Race q q') := by
  unfold Race
  infer_instance

/-- Requests race exactly when there are answers to them that do not agree. -/
theorem race_iff {q q' : Request} :
    Race q q' ↔ ∃ r r', ¬ cells.Agree (dispatches q r) (dispatches q' r') := by
  constructor
  · rintro ⟨k, hk⟩
    cases hw : writes q k with
    | nothing =>
      rw [hw] at hk
      exact absurd hk (by cases writes q' k <;> exact id)
    | same a =>
      cases hw' : writes q' k with
      | nothing => simp [hw, hw', Writes.Clash] at hk
      | same b =>
        simp only [hw, hw', Writes.Clash] at hk
        exact ⟨_, _, fun h => hk (h k a (mem_last_of_same hw) b (mem_last_of_same hw'))⟩
      | various =>
        obtain ⟨b, c, hbc, hb, hc⟩ := mem_last_of_various hw'
        by_contra! hall
        have hab := hall _ _ k a (mem_last_of_same hw) b hb
        exact hbc (hab.symm.trans (hall _ _ k a (mem_last_of_same hw) c hc))
    | various =>
      obtain ⟨b, c, hbc, hb, hc⟩ := mem_last_of_various hw
      by_contra! hall
      obtain ⟨a, r', ha⟩ : ∃ a r', a ∈ cells.last k (dispatches q' r') := by
        cases hw' : writes q' k with
        | nothing => simp [hw, hw', Writes.Clash] at hk
        | same a => exact ⟨a, _, mem_last_of_same hw'⟩
        | various =>
          obtain ⟨a, -, -, ha, -⟩ := mem_last_of_various hw'
          exact ⟨a, _, ha⟩
      exact hbc ((hall _ r' k b hb a ha).trans (hall _ r' k c hc a ha).symm)
  · rintro ⟨r, r', hagree⟩
    simp only [Cells.Agree, not_forall] at hagree
    obtain ⟨k, a, ha, a', ha', hne⟩ := hagree
    refine ⟨k, ?_⟩
    have hallow := allows_of_mem_last ha
    have hallow' := allows_of_mem_last ha'
    cases hw : writes q k <;> cases hw' : writes q' k <;>
      simp_all [Writes.Allows, Writes.Clash]

/-! ## All orders of the replies -/

/-- Nothing but replies. -/
def replies (es : List (ℕ × Reply)) : List Event := es.map fun p => .reply p.1 p.2

/-- What the handler of an answer dispatches. -/
def batch (p : Request × Reply) : List Action := dispatches p.1 p.2

/-- Answers that name requests in flight can be handled. -/
theorem exists_runFrom_replies {s : State} {es : List (ℕ × Reply)}
    (h : Places s.inFlight es) : ∃ t, machine.runFrom s (replies es) = some t := by
  induction es generalizing s with
  | nil => exact ⟨s, rfl⟩
  | cons p es ih =>
    obtain ⟨hi, hes⟩ := h
    have hstep : machine.step s (.reply p.1 p.2) = some _ :=
      Option.map_eq_some_iff.2 ⟨_, List.getElem?_eq_getElem hi, rfl⟩
    rw [replies, List.map_cons, machine.runFrom_cons_of_step hstep]
    exact ih hes

/-- **The store after some answers.** -/
theorem store_runFrom_replies {s t : State} {es : List (ℕ × Reply)}
    (h : machine.runFrom s (replies es) = some t) :
    t.store = cells.writes s.store ((answered s.inFlight es).flatMap batch) := by
  induction es generalizing s with
  | nil =>
    cases h
    rfl
  | cons p es ih =>
    rw [replies, List.map_cons, machine.runFrom_cons, Option.bind_eq_some_iff] at h
    obtain ⟨u, hu, hut⟩ := h
    obtain ⟨q, hq, rfl⟩ := Option.map_eq_some_iff.1 hu
    rw [ih hut, answered_cons hq]
    simp only [List.flatMap_cons, dispatch_eq_writes, Cells.writes, List.foldl_append, batch]

/-- All requests in flight are answered, as `answers` has it, in some order. -/
def Ends (s : State) (answers : List (Request × Reply)) (t : State) : Prop :=
  ∃ es, (answered s.inFlight es).Perm answers ∧ machine.runFrom s (replies es) = some t

/-- Every order of the answers is handled in some run. -/
theorem exists_ends {s : State} {answers order : List (Request × Reply)}
    (h : (answers.map Prod.fst).Perm s.inFlight) (horder : order.Perm answers) :
    ∃ t, Ends s answers t ∧ t.store = cells.writes s.store (order.flatMap batch) := by
  obtain ⟨es, hplaces, hes⟩ := exists_answered ((horder.map Prod.fst).trans h)
  obtain ⟨t, ht⟩ := exists_runFrom_replies hplaces
  refine ⟨t, ⟨es, hes ▸ horder, ht⟩, ?_⟩
  rw [store_runFrom_replies ht, hes]

/-- **Given the answers**, their order does not matter exactly when any two of them
agree. -/
theorem store_eq_iff_agree {s : State} {answers : List (Request × Reply)}
    (h : (answers.map Prod.fst).Perm s.inFlight) :
    (∀ t t', Ends s answers t → Ends s answers t' → t.store = t'.store) ↔
      ∀ p ∈ answers, ∀ p' ∈ answers, cells.Agree (batch p) (batch p') := by
  rw [← cells.anyOrder_iff batch s.store answers]
  constructor
  · intro hall order horder
    obtain ⟨t, ht, hstore⟩ := exists_ends h horder
    obtain ⟨t', ht', hstore'⟩ := exists_ends h (List.Perm.refl answers)
    exact hstore.symm.trans ((hall t t' ht ht').trans hstore')
  · rintro hall t t' ⟨es, hes, ht⟩ ⟨es', hes', ht'⟩
    rw [store_runFrom_replies ht, store_runFrom_replies ht']
    exact (hall _ hes).trans (hall _ hes').symm

/-- Answers to requests of which no two race agree. -/
theorem agree_of_pairwise {qs : List Request} (hqs : qs.Pairwise fun q q' => ¬ Race q q')
    {answers : List (Request × Reply)} (h : (answers.map Prod.fst).Perm qs) :
    ∀ p ∈ answers, ∀ p' ∈ answers, cells.Agree (batch p) (batch p') := by
  have hsymm : ∀ {q q'}, ¬ Race q q' → ¬ Race q' q := by
    intro q q' hrace hrace'
    obtain ⟨r, r', hagree⟩ := race_iff.1 hrace'
    exact hrace (race_iff.2 ⟨r', r, fun hsame => hagree hsame.symm⟩)
  have hpairwise := (h.pairwise_iff hsymm).2 hqs
  rw [List.pairwise_map] at hpairwise
  have hagree : answers.Pairwise fun p p' => cells.Agree (batch p) (batch p') := by
    refine hpairwise.imp fun {p p'} hrace => ?_
    by_contra hagree
    exact hrace (race_iff.2 ⟨p.2, p'.2, hagree⟩)
  have hrefl : ∀ p ∈ answers, cells.Agree (batch p) (batch p) := fun p _ => Cells.Agree.refl _
  intro p hp p' hp'
  exact hagree.forall_of_forall_of_flip hrefl (hagree.imp fun h => h.symm) hp hp'

/-- **Whatever the answers.**  At any moment, the answers to the requests in flight can be
handled in any order without a difference to the store exactly when no two of these
requests race. -/
theorem any_order_iff (s : State) :
    (∀ answers t t', (answers.map Prod.fst).Perm s.inFlight → Ends s answers t →
        Ends s answers t' → t.store = t'.store) ↔
      s.inFlight.Pairwise fun q q' => ¬ Race q q' := by
  constructor
  · intro hall
    rw [List.pairwise_iff_getElem]
    intro i j hi hj hij hrace
    obtain ⟨r, r', hagree⟩ := race_iff.1 hrace
    -- the two answers that do not agree, and nothing else
    let answers := s.inFlight.mapIdx fun n q =>
      (q, if n = i then r else if n = j then r' else .failure)
    have hanswers : (answers.map Prod.fst).Perm s.inFlight :=
      List.Perm.of_eq (List.ext_getElem (by simp [answers]) (by simp [answers]))
    have hsame := (store_eq_iff_agree hanswers).1 fun t t' => hall answers t t' hanswers
    have hmem : (s.inFlight[i], r) ∈ answers := List.mem_mapIdx.2 ⟨i, hi, by simp⟩
    have hmem' : (s.inFlight[j], r') ∈ answers := List.mem_mapIdx.2 ⟨j, hj, by simp [hij.ne']⟩
    exact hagree (hsame _ hmem _ hmem')
  · intro hpairwise answers t t' hanswers ht ht'
    exact (store_eq_iff_agree hanswers).2 (agree_of_pairwise hpairwise hanswers) t t' ht ht'

/-- What the home screen sends for the user when it is shown. -/
def homeLoads : List Request :=
  [.getSavedItems .sellers, .getSavedItems .tasks, .getSavedItems .projects, .getVerification,
    .userBalance]

/-- The loads of one visit to the home screen do not race; those of two do. -/
example : homeLoads.Pairwise (fun q q' => ¬ Race q q') ∧
    ¬ (homeLoads ++ homeLoads).Pairwise (fun q q' => ¬ Race q q') := by
  decide

end Session
