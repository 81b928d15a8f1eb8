import Mathlib
import Taskbot.Async.Machine
import Taskbot.Store.Races

/-!
# Whose data the store holds

Every request carries the token and the profile id that were in the store when it was
sent.  Its reply is handled whoever is signed in by then, and the handlers do not ask.

* `Sender`, `State`, `machine` — the sessions, with the sender of every request in flight
  and the owner of every cell of the store; `run_base`: the sessions are as they were.
* `Coherent`, `coherent_run` — **in every history, the store and every request on its way
  have a token and a profile that one and the same reply brought**, or neither.
* `Own`, `own_iff` — **every cell is nobody's or belongs to the account that is signed
  in exactly when** every reply that writes comes while its sender is signed in, and an
  account that goes or comes finds the cells its handler does not write nobody's or its
  own.
-/

namespace Ownership

open Store Session

/-! ## The sessions, and whose they are -/

/-- What a request is sent with: `Authorization: 'Bearer ' + token`, and the profile id of
`userInfo`. -/
structure Sender where
  token : Option String
  userInfo : Option UserDetails
  deriving DecidableEq

/-- The profile a sender sends as. -/
def Sender.account (p : Sender) : Option ℕ := p.userInfo.map UserDetails.profile_id

/-- The session, the senders of the requests in flight, and the profile each cell of the
store is about; the owners are for the statements only. -/
structure State where
  base : Session.State
  senders : List Sender
  owner : Cell → Option ℕ

/-- Whose session it is. -/
def State.account (s : State) : Option ℕ := s.base.store.userInfo.map UserDetails.profile_id

/-- The token and the user of a store. -/
def ofStore (store : Store) : Sender := ⟨store.token, store.userInfo⟩

/-- The account a reply brings. -/
def entering : Request → Reply → Option ℕ
  | .userLogin, .session _ userdetails | .switchUser, .session _ userdetails
  | .signup, .session _ userdetails => some userdetails.profile_id
  | _, _ => none

/-- What an event dispatches. -/
def dispatched (s : State) : Event → List Action
  | .logout => logout
  | .wizard tap => tap.dispatches
  | .send _ => []
  | .reply i r => (s.base.inFlight[i]?).elim [] fun q => dispatches q r

/-- The cells it writes. -/
def written (s : State) (e : Event) : List Cell := (dispatched s e).map cell

/-- Whose data it dispatches: of the account that comes, of the sender of the request, or
nobody's. -/
def writer (s : State) : Event → Option ℕ
  | .logout => none
  | .wizard _ => s.account
  | .send _ => none
  | .reply i r =>
    (s.base.inFlight[i]?).bind fun q =>
      if signsIn q r then entering q r
      else if signsOut q r then none
      else (s.senders[i]?).bind Sender.account

/-- Whose session it is afterwards. -/
def accountAfter (s : State) : Event → Option ℕ
  | .logout => none
  | .wizard _ | .send _ => s.account
  | .reply i r =>
    (s.base.inFlight[i]?).elim s.account fun q =>
      if signsIn q r then entering q r else if signsOut q r then none else s.account

/-- The senders afterwards. -/
def sendersAfter (s : State) : Event → List Sender
  | .logout | .wizard _ => s.senders
  | .send _ => s.senders ++ [ofStore s.base.store]
  | .reply i _ => s.senders.eraseIdx i

/-- One event. -/
def step (s : State) (e : Event) : Option State :=
  (Session.step s.base e).map fun base =>
    { base := base
      senders := sendersAfter s e
      owner := fun k => if k ∈ written s e then writer s e else s.owner k }

/-- A fresh install. -/
def machine : Async.Machine State Event := ⟨⟨Session.machine.init, [], fun _ => none⟩, step⟩

/-- The session of a run is the run of the session. -/
theorem run_base {es : List Event} {s : State} (h : machine.run es = some s) :
    Session.machine.run es = some s.base := by
  induction es using List.reverseRecOn generalizing s with
  | nil =>
    cases h
    rfl
  | append_singleton es e ih =>
    obtain ⟨t, ht, hts⟩ := machine.run_concat_eq_some.1 h
    obtain ⟨base, hbase, rfl⟩ := Option.map_eq_some_iff.1 hts
    exact Session.machine.run_concat_eq_some.2 ⟨t.base, ih ht, hbase⟩

/-! ## One reply brings both -/

/-- The session a reply brings. -/
def brought : Event → Option (String × UserDetails)
  | .reply _ (.session authToken userdetails) => some (authToken, userdetails)
  | _ => none

/-- Token and user are both from one reply of the history, or there is neither. -/
def Coherent (es : List Event) (p : Sender) : Prop :=
  (p.token = none ∧ p.userInfo = none) ∨
    ∃ q ∈ es.filterMap brought, p.token = some q.1 ∧ p.userInfo = some q.2

theorem Coherent.mono {es : List Event} {p : Sender} (h : Coherent es p) (e : Event) :
    Coherent (es ++ [e]) p := by
  refine h.imp_right ?_
  rintro ⟨q, hq, hp⟩
  exact ⟨q, by simp [hq], hp⟩

/-- A handler writes token and user together, from its reply, or neither. -/
theorem dispatches_token_user (q : Request) (r : Reply) (i : ℕ) (s : Store) :
    let t := dispatch s (dispatches q r)
    (t.token = s.token ∧ t.userInfo = s.userInfo) ∨ (t.token = none ∧ t.userInfo = none) ∨
      ∃ p ∈ brought (.reply i r), t.token = some p.1 ∧ t.userInfo = some p.2 := by
  cases q with
  | getSavedItems type => cases type <;> cases r <;> exact Or.inl ⟨rfl, rfl⟩
  | userLogin =>
    cases r with
    | session authToken userdetails => exact Or.inr (Or.inr ⟨_, rfl, rfl, rfl⟩)
    | _ => exact Or.inl ⟨rfl, rfl⟩
  | switchUser =>
    cases r with
    | session authToken userdetails => exact Or.inr (Or.inr ⟨_, rfl, rfl, rfl⟩)
    | _ => exact Or.inl ⟨rfl, rfl⟩
  | signup =>
    cases r with
    | session authToken userdetails => exact Or.inr (Or.inr ⟨_, rfl, rfl, rfl⟩)
    | _ => exact Or.inl ⟨rfl, rfl⟩
  | deactiveAccount =>
    cases r with
    | success => exact Or.inr (Or.inl ⟨rfl, rfl⟩)
    | _ => exact Or.inl ⟨rfl, rfl⟩
  | _ => cases r <;> exact Or.inl ⟨rfl, rfl⟩

theorem coherent_step {es : List Event} {b c : Session.State} {e : Event}
    (hb : Coherent es (ofStore b.store)) (h : Session.step b e = some c) :
    Coherent (es ++ [e]) (ofStore c.store) := by
  cases e with
  | logout =>
    cases h
    exact Or.inl ⟨rfl, rfl⟩
  | wizard tap =>
    cases h
    cases tap <;> exact hb.mono _
  | send q =>
    cases h
    exact hb.mono _
  | reply i r =>
    obtain ⟨q, hq, rfl⟩ := Option.map_eq_some_iff.1 h
    rcases dispatches_token_user q r i b.store with ⟨htoken, huser⟩ | hnone | ⟨p, hp, hstore⟩
    · rw [ofStore, htoken, huser]
      exact hb.mono _
    · exact Or.inl hnone
    · exact Or.inr ⟨p, by simp [Option.mem_def.1 hp], hstore⟩

/-- In every history the store is coherent. -/
theorem coherent_store {es : List Event} {b : Session.State}
    (h : Session.machine.run es = some b) : Coherent es (ofStore b.store) := by
  induction es using List.reverseRecOn generalizing b with
  | nil =>
    cases h
    exact Or.inl ⟨rfl, rfl⟩
  | append_singleton es e ih =>
    obtain ⟨c, hc, hcb⟩ := Session.machine.run_concat_eq_some.1 h
    exact coherent_step (ih hc) hcb

/-- **One session at a time.**  In every history the store, and every request on its way,
has a token and a profile brought by one and the same reply, or neither. -/
theorem coherent_run {es : List Event} {s : State} (h : machine.run es = some s) :
    Coherent es (ofStore s.base.store) ∧ ∀ p ∈ s.senders, Coherent es p := by
  refine ⟨coherent_store (run_base h), ?_⟩
  induction es using List.reverseRecOn generalizing s with
  | nil =>
    cases h
    exact nofun
  | append_singleton es e ih =>
    obtain ⟨t, ht, hts⟩ := machine.run_concat_eq_some.1 h
    obtain ⟨base, -, rfl⟩ := Option.map_eq_some_iff.1 hts
    intro p hp
    have hmem : p ∈ t.senders ∨ p = ofStore t.base.store := by
      cases e with
      | logout => exact Or.inl hp
      | wizard tap => exact Or.inl hp
      | send q => simpa [sendersAfter] using hp
      | reply i r => exact Or.inl (Async.mem_of_eraseIdx hp)
    rcases hmem with hmem | rfl
    · exact (ih ht p hmem).mono e
    · exact (coherent_store (run_base ht)).mono e

/-- The balance is asked for with the token and the profile of the first account, also
when it is answered after the switch to another. -/
theorem coherent_run_sample :
    ∃ s, machine.run [.send .userLogin, .reply 0 (.session "A" (user 1 "a.png")),
        .send .userBalance, .send .switchUser, .reply 1 (.session "B" (user 2 "b.png"))] = some s ∧
      ∀ p ∈ s.senders, Coherent [.send .userLogin, .reply 0 (.session "A" (user 1 "a.png")),
        .send .userBalance, .send .switchUser, .reply 1 (.session "B" (user 2 "b.png"))] p :=
  ⟨_, rfl, (coherent_run rfl).2⟩

/-! ## Whose data -/

/-- Every cell is nobody's, or of the account that is signed in. -/
def Own (s : State) : Prop := ∀ k, s.owner k = none ∨ s.owner k = s.account

/-- What an event must meet: what it writes is nobody's or of the account that is signed in
afterwards; and an account that goes or comes finds the cells that are not written nobody's
or its own. -/
structure OwnOk (s : State) (e : Event) : Prop where
  writes : dispatched s e ≠ [] → writer s e = none ∨ writer s e = accountAfter s e
  leaves : accountAfter s e ≠ s.account →
    ∀ k, k ∉ written s e → s.owner k = none ∨ s.owner k = accountAfter s e

instance (s : State) (e : Event) : Decidable (OwnOk s e) :=
  decidable_of_iff
    ((dispatched s e ≠ [] → writer s e = none ∨ writer s e = accountAfter s e) ∧
      (accountAfter s e ≠ s.account → ∀ k, k ∉ written s e →
        s.owner k = none ∨ s.owner k = accountAfter s e))
    ⟨fun ⟨h1, h2⟩ => ⟨h1, h2⟩, fun ⟨h1, h2⟩ => ⟨h1, h2⟩⟩

/-- The account after a reply. -/
theorem account_dispatches (q : Request) (r : Reply) (s : Store) :
    (dispatch s (dispatches q r)).userInfo.map UserDetails.profile_id =
      if signsIn q r then entering q r
      else if signsOut q r then none else s.userInfo.map UserDetails.profile_id := by
  cases q with
  | getSavedItems type => cases type <;> cases r <;> rfl
  | _ => cases r <;> rfl

/-- The account after an event. -/
theorem account_step {s t : State} {e : Event} (h : step s e = some t) :
    t.account = accountAfter s e := by
  obtain ⟨base, hbase, rfl⟩ := Option.map_eq_some_iff.1 h
  cases e with
  | logout =>
    cases hbase
    rfl
  | wizard tap =>
    cases hbase
    cases tap <;> rfl
  | send q =>
    cases hbase
    rfl
  | reply i r =>
    obtain ⟨q, hq, rfl⟩ := Option.map_eq_some_iff.1 hbase
    rw [accountAfter, hq]
    exact account_dispatches q r s.base.store

/-- **One event.**  It keeps the cells the account's exactly when it meets the
condition. -/
theorem ownOk_iff {s t : State} {e : Event} (hs : Own s) (h : machine.step s e = some t) :
    OwnOk s e ↔ Own t := by
  have haccount : t.account = accountAfter s e := account_step h
  have howner : ∀ k, t.owner k = if k ∈ written s e then writer s e else s.owner k := by
    obtain ⟨base, -, rfl⟩ := Option.map_eq_some_iff.1 h
    exact fun k => rfl
  constructor
  · intro hok k
    rw [howner, haccount]
    split
    · rename_i hk
      refine hok.writes fun hnil => ?_
      simp [written, hnil] at hk
    · rename_i hk
      by_cases hstays : accountAfter s e = s.account
      · rw [hstays]
        exact hs k
      · exact hok.leaves hstays k hk
  · intro ht
    constructor
    · intro hne
      obtain ⟨a, ha⟩ := List.exists_mem_of_ne_nil _ hne
      have hmem : cell a ∈ written s e := List.mem_map_of_mem ha
      have hcell := ht (cell a)
      rwa [howner, haccount, if_pos hmem] at hcell
    · intro _ k hk
      have hcell := ht k
      rwa [howner, haccount, if_neg hk] at hcell

/-- **Nobody sees another's data.**  Throughout a history every cell of the store is
nobody's, or about the account that is signed in, exactly when every reply that writes is
handled while its sender is signed in, or brings or ends the session itself, and an account
that comes or goes finds the cells its handler does not write nobody's or its own. -/
theorem own_iff {es : List Event} {s : State} (h : machine.run es = some s) :
    machine.Meets OwnOk es ↔ ∀ fs, fs <+: es → ∀ t, machine.run fs = some t → Own t :=
  machine.meets_iff (I := fun _ => Own) (fun _ => Or.inl rfl)
    (fun _ _ _ _ _ hs hstep => ownOk_iff hs hstep) h

/-- A balance that is answered in time. -/
theorem own_iff_sample :
    ∃ s, machine.run [.send .userLogin, .reply 0 (.session "A" (user 1 "a.png")),
        .send .userBalance, .reply 0 (.balance "$5.00")] = some s ∧ Own s := by
  obtain ⟨s, hs⟩ : ∃ s, machine.run [.send .userLogin, .reply 0 (.session "A" (user 1 "a.png")),
      .send .userBalance, .reply 0 (.balance "$5.00")] = some s := ⟨_, rfl⟩
  exact ⟨s, hs, (own_iff hs).1 (by decide) _ List.prefix_rfl s hs⟩

/-- **Another's balance.**  It is asked for by one account and answered after the switch to
another, whose wallet it becomes. -/
example :
    ∃ s, machine.run [.send .userLogin, .reply 0 (.session "A" (user 1 "a.png")),
        .send .userBalance, .send .switchUser, .reply 1 (.session "B" (user 2 "b.png")),
        .reply 0 (.balance "$5.00")] = some s ∧
      s.account = some 2 ∧ s.base.store.wallet = "$5.00" ∧ s.owner .wallet = some 1 :=
  ⟨_, rfl, rfl, rfl, rfl⟩

end Ownership
