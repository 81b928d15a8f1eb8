import Mathlib
import Taskbot.Async.Restarts
import Taskbot.Store.Ownership

/-!
# Restarts of the app

The whole store is persisted: after a change it is written to the storage of the phone, a
moment later and all slices at once, and a new start of the app begins with what was written
last, and with no request on its way.  The app can be closed at any time, and it restarts
itself when another language is chosen.

* `boot`, `history` — a new start of the sessions, and their histories with saves and restarts.
* `survives`, `run_without` — **whatever the store holds after such a history, it holds after
  one without restarts**, made of some of its events in their order; so its token and its user
  come from one reply.
* `Watched`, `run_watched` — the histories, with who has left and what was sent before.
* `StaysOut`, `stays_out_iff` — **who has logged out or deactivated the account stays signed
  out until coming back exactly when no login, switch or registration sent before succeeds
  after it, and no restart goes back to a save with somebody signed in.**
* `own_restarts_iff` — the condition under which nobody sees another's data is the same with
  restarts.
-/

namespace Restarts

open Store Session Async
open Ownership (Coherent brought ofStore)

/-! ## New starts -/

/-- A new start: the store that was saved, and no request.  Whether the user has left is a
history, which a restart does not change. -/
def boot (saved live : Session.State) : Session.State :=
  { saved with inFlight := [], signedOut := live.signedOut, justIn := none }

/-- The sessions with saves and restarts. -/
abbrev history : Machine (Saved Session.State) (Lifecycle Session.Event) :=
  Session.machine.withRestarts boot

/-- The same store, and the requests that a restart has lost before the others. -/
def Lost (s u : Session.State) : Prop :=
  u.store = s.store ∧ ∃ lost, u.inFlight = lost ++ s.inFlight

/-- A reply to the same request. -/
def shift (s u : Session.State) : Session.Event → Session.Event
  | .reply i r => .reply (u.inFlight.length - s.inFlight.length + i) r
  | e => e

theorem lost_step {s t u : Session.State} {e : Session.Event} (hs : Lost s u)
    (h : Session.step s e = some t) : ∃ v, Session.step u (shift s u e) = some v ∧ Lost t v := by
  obtain ⟨hstore, lost, hlost⟩ := hs
  cases e with
  | logout =>
    cases h
    exact ⟨_, rfl, by rw [hstore], lost, hlost⟩
  | wizard tap =>
    cases h
    exact ⟨_, rfl, by rw [hstore], lost, hlost⟩
  | send q =>
    cases h
    exact ⟨_, rfl, hstore, lost, by simp [hlost]⟩
  | reply i r =>
    obtain ⟨q, hq, rfl⟩ := Option.map_eq_some_iff.1 h
    have hplace : u.inFlight.length - s.inFlight.length + i = lost.length + i := by
      simp [hlost]
    have hrequest : u.inFlight[lost.length + i]? = some q := by
      rw [hlost, List.getElem?_append_right (Nat.le_add_right _ i), Nat.add_sub_cancel_left, hq]
    have herase : u.inFlight.eraseIdx (lost.length + i) = lost ++ s.inFlight.eraseIdx i := by
      rw [hlost, List.eraseIdx_append_of_length_le (Nat.le_add_right _ i), Nat.add_sub_cancel_left]
    have hreply := congrArg (Option.map fun q =>
      ({ store := dispatch u.store (dispatches q r)
         inFlight := u.inFlight.eraseIdx (lost.length + i)
         signedOut := signsOut q r || (u.signedOut && !signsIn q r)
         justIn := session? q r } : Session.State)) hrequest
    rw [shift, hplace]
    exact ⟨_, hreply, by rw [hstore], lost, herase⟩

/-- A new start can be told from what was saved by nothing that comes after it. -/
theorem survives : Session.machine.Survives boot Lost shift where
  init := ⟨rfl, [], rfl⟩
  step := lost_step
  boot := by
    rintro s u live ⟨hstore, lost, hlost⟩
    exact ⟨hstore, u.inFlight, by simp [boot]⟩

/-! ## Nothing new -/

/-- The same event, apart from the place of the request that is answered. -/
def Like : Session.Event → Session.Event → Prop
  | .reply _ r, .reply _ r' => r = r'
  | e, d => e = d

theorem like_shift (e : Session.Event) (s u : Session.State) : Like e (shift s u e) := by
  cases e <;> rfl

theorem Like.brought {e d : Session.Event} (h : Like e d) : brought e = brought d := by
  cases e with
  | reply i r =>
    cases d with
    | reply j r' =>
      cases h
      cases r <;> rfl
    | _ => cases h
  | _ =>
    cases h
    rfl

/-- The sessions brought are the same. -/
theorem filterMap_brought {es ds : List Session.Event} (h : List.Forall₂ Like es ds) :
    es.filterMap brought = ds.filterMap brought := by
  induction h with
  | nil => rfl
  | cons hlike _ ih => simp [List.filterMap_cons, hlike.brought, ih]

/-- The events of a history, without its saves and restarts. -/
def events (ls : List (Lifecycle Session.Event)) : List Session.Event :=
  ls.filterMap fun
    | .event e => some e
    | .save | .restart => none

theorem sublist_events {es : List Session.Event} {ls : List (Lifecycle Session.Event)}
    (h : (es.map .event).Sublist ls) : es.Sublist (events ls) := by
  have hevents : events (es.map .event) = es := by
    rw [events, List.filterMap_map]
    exact List.filterMap_some
  rw [← hevents]
  exact h.filterMap _

/-- **Restarts reach nothing new.**  What the store holds after a history with saves and
restarts, at any moment of it, it holds after one without them, made of some of its events in
their order; and it has a token and a user that one reply of the history has brought, or
neither. -/
theorem run_without {ls : List (Lifecycle Session.Event)} {s : Saved Session.State}
    (h : history.run ls = some s) :
    (∃ es ds u, es.Sublist (events ls) ∧ List.Forall₂ Like es ds ∧
        Session.machine.run ds = some u ∧ u.store = s.live.store) ∧
      Coherent (events ls) (ofStore s.live.store) := by
  obtain ⟨⟨es, ds, u, hes, hds, hu, hstore, -⟩, -⟩ := survives.run h
  have hsublist := sublist_events hes
  have hlike : List.Forall₂ Like es ds := hds.imp fun e d => by
    rintro ⟨s, u, rfl⟩
    exact like_shift e s u
  refine ⟨⟨es, ds, u, hsublist, hlike, hu, hstore⟩, ?_⟩
  rw [← hstore]
  refine (Ownership.coherent_store hu).imp_right ?_
  rintro ⟨p, hp, hboth⟩
  rw [← filterMap_brought hlike] at hp
  exact ⟨p, (hsublist.filterMap brought).subset hp, hboth⟩

/-! ## Signed out -/

/-- A history, with what has become of the user; all but `base` is for the statements only. -/
structure Watched where
  base : Saved Session.State
  /-- Has the user left, and come back by nothing that was sent after? -/
  gone : Bool
  /-- How many of the requests in flight, the first of them, were sent before the leaving. -/
  late : ℕ
  /-- Has somebody come and not left since? -/
  present : Bool
  /-- Had somebody, when the store was saved? -/
  savedPresent : Bool

/-- The user leaves. -/
def Watched.leave (w : Watched) (base : Saved Session.State) : Watched :=
  { w with base := base, gone := true, late := base.live.inFlight.length, present := false }

/-- The request at place `i` is answered.  Who comes by a request that was sent before the
leaving has not come back. -/
def Watched.reply (w : Watched) (base : Saved Session.State) (i : ℕ) (q : Request) (r : Reply) :
    Watched :=
  if signsOut q r then w.leave base
  else
    { w with
      base := base
      gone := w.gone && (!signsIn q r || i < w.late)
      late := if i < w.late then w.late - 1 else w.late
      present := w.present || signsIn q r }

/-- What has become of the user, when the history goes on to `base`. -/
def Watched.after (w : Watched) (base : Saved Session.State) : Lifecycle Session.Event → Watched
  | .event .logout => w.leave base
  | .event (.wizard _) | .event (.send _) => { w with base := base }
  | .event (.reply i r) => (w.base.live.inFlight[i]?).elim w fun q => w.reply base i q r
  | .save => { w with base := base, savedPresent := w.present }
  | .restart => { w with base := base, late := 0, present := w.savedPresent }

/-- One event, a save or a restart. -/
def watch (w : Watched) (l : Lifecycle Session.Event) : Option Watched :=
  (history.step w.base l).map fun base => w.after base l

/-- The histories from a fresh install on. -/
def watched : Machine Watched (Lifecycle Session.Event) :=
  ⟨⟨history.init, false, 0, false, false⟩, watch⟩

theorem watch_base {w v : Watched} {l : Lifecycle Session.Event} (h : watch w l = some v) :
    history.step w.base l = some v.base := by
  obtain ⟨base, hbase, rfl⟩ := Option.map_eq_some_iff.1 h
  rw [hbase]
  cases l with
  | event e =>
    cases e with
    | reply i r =>
      obtain ⟨t, ht, -⟩ := Option.map_eq_some_iff.1 hbase
      obtain ⟨q, hq, -⟩ := Option.map_eq_some_iff.1 ht
      rw [Watched.after, hq, Option.elim_some, Watched.reply]
      split <;> rfl
    | _ => rfl
  | save => rfl
  | restart => rfl

/-- They are the histories. -/
theorem run_watched {ls : List (Lifecycle Session.Event)} {s : Saved Session.State} :
    history.run ls = some s ↔ ∃ w, watched.run ls = some w ∧ w.base = s := by
  induction ls using List.reverseRecOn generalizing s with
  | nil =>
    constructor
    · rintro ⟨⟩
      exact ⟨_, rfl, rfl⟩
    · rintro ⟨w, ⟨⟩, rfl⟩
      rfl
  | append_singleton ls l ih =>
    constructor
    · intro h
      obtain ⟨t, ht, hts⟩ := history.run_concat_eq_some.1 h
      obtain ⟨w, hw, rfl⟩ := ih.1 ht
      obtain ⟨v, hv⟩ : ∃ v, watch w l = some v := ⟨_, congrArg (Option.map _) hts⟩
      have hbase := (watch_base hv).symm.trans hts
      exact ⟨v, watched.run_concat_eq_some.2 ⟨w, hw, hv⟩, Option.some.inj hbase⟩
    · rintro ⟨v, hv, rfl⟩
      obtain ⟨w, hw, hwv⟩ := watched.run_concat_eq_some.1 hv
      exact history.run_concat_eq_some.2 ⟨w.base, ih.2 ⟨w, hw, rfl⟩, watch_base hwv⟩

/-! ## Who is there -/

/-- Only a reply that signs in brings a token or a user. -/
theorem ofStore_dispatches {q : Request} {r : Reply} (hin : signsIn q r = false)
    (hout : signsOut q r = false) (s : Store) :
    ofStore (dispatch s (dispatches q r)) = ofStore s := by
  cases q with
  | getSavedItems type => cases type <;> cases r <;> rfl
  | _ => cases r <;> first | rfl | simp [signsIn, signsOut] at hin hout

/-- And it does. -/
theorem ofStore_of_signsIn {q : Request} {r : Reply} (hin : signsIn q r = true) (s : Store) :
    ofStore (dispatch s (dispatches q r)) ≠ ⟨none, none⟩ := by
  intro h
  have htoken : (dispatch s (dispatches q r)).token = none := congrArg Ownership.Sender.token h
  cases q <;> cases r <;> first | exact absurd hin Bool.false_ne_true | cases htoken

theorem signsIn_of_signsOut {q : Request} {r : Reply} (hout : signsOut q r = true) :
    signsIn q r = false := by
  cases q <;> cases r <;> first | rfl | cases hout

/-- Somebody is there exactly when the store has a token or a user, now and where it was
saved. -/
structure Tells (w : Watched) : Prop where
  live : w.present = false ↔ ofStore w.base.live.store = ⟨none, none⟩
  saved : w.savedPresent = false ↔ ofStore w.base.saved.store = ⟨none, none⟩

theorem tells_init : Tells watched.init := ⟨iff_of_true rfl rfl, iff_of_true rfl rfl⟩

theorem tells_reply {w : Watched} (hw : Tells w) {i : ℕ} {q : Request} {r : Reply}
    {t : Session.State} (ht : t.store = dispatch w.base.live.store (dispatches q r)) :
    Tells (w.reply { w.base with live := t } i q r) := by
  unfold Watched.reply
  split
  · next hout =>
    refine ⟨iff_of_true rfl ?_, hw.saved⟩
    show ofStore t.store = _
    rw [ht, dispatches_of_signsOut hout]
    rfl
  · next hout =>
    refine ⟨?_, hw.saved⟩
    show (w.present || signsIn q r) = false ↔ ofStore t.store = _
    rw [ht]
    cases hin : signsIn q r with
    | true => exact iff_of_false (by simp) (ofStore_of_signsIn hin _)
    | false =>
      rw [ofStore_dispatches hin (Bool.not_eq_true _ ▸ hout), Bool.or_false]
      exact hw.live

theorem tells_step {w v : Watched} {l : Lifecycle Session.Event} (hw : Tells w)
    (h : watch w l = some v) : Tells v := by
  obtain ⟨base, hbase, rfl⟩ := Option.map_eq_some_iff.1 h
  cases l with
  | event e =>
    obtain ⟨t, ht, rfl⟩ := Option.map_eq_some_iff.1 hbase
    cases e with
    | logout =>
      cases ht
      exact ⟨iff_of_true rfl rfl, hw.saved⟩
    | wizard tap =>
      cases ht
      refine ⟨hw.live.trans (iff_of_eq ?_), hw.saved⟩
      cases tap <;> rfl
    | send q =>
      cases ht
      exact ⟨hw.live, hw.saved⟩
    | reply i r =>
      obtain ⟨q, hq, rfl⟩ := Option.map_eq_some_iff.1 ht
      rw [Watched.after, hq, Option.elim_some]
      exact tells_reply hw rfl
  | save =>
    cases hbase
    exact ⟨hw.live, hw.live⟩
  | restart =>
    cases hbase
    exact ⟨hw.saved, hw.saved⟩

/-! ## Who stays out -/

/-- The property: who has left and not come back is signed in nowhere. -/
def StaysOut (w : Watched) : Prop :=
  w.gone = true → ofStore w.base.live.store = ⟨none, none⟩

/-- What a step must meet, after the user has left: no request that was sent before is
answered with the success of a login, a switch or a registration, and a restart goes back to
a save with nobody there, one from after the leaving or from before anybody came. -/
def StepOk (w : Watched) : Lifecycle Session.Event → Prop
  | .event (.reply i r) =>
    w.gone = true → i < w.late → ∀ q ∈ w.base.live.inFlight[i]?, signsIn q r = false
  | .restart => w.gone = true → w.savedPresent = false
  | .event .logout | .event (.wizard _) | .event (.send _) | .save => True

instance (w : Watched) (l : Lifecycle Session.Event) : Decidable (StepOk w l) := by
  unfold StepOk
  split <;> infer_instance

theorem stepOk_iff {w v : Watched} {l : Lifecycle Session.Event} (hw : Tells w)
    (hs : StaysOut w) (h : watch w l = some v) : StepOk w l ↔ StaysOut v := by
  have hout : w.gone = true → w.present = false := fun hgone => hw.live.2 (hs hgone)
  have hv : StaysOut v ↔ (v.gone = true → v.present = false) :=
    imp_congr_right fun _ => (tells_step hw h).live.symm
  rw [hv]
  obtain ⟨base, hbase, rfl⟩ := Option.map_eq_some_iff.1 h
  cases l with
  | event e =>
    obtain ⟨t, ht, rfl⟩ := Option.map_eq_some_iff.1 hbase
    cases e with
    | logout => exact iff_of_true trivial fun _ => rfl
    | wizard tap => exact iff_of_true trivial hout
    | send q => exact iff_of_true trivial hout
    | reply i r =>
      obtain ⟨q, hq, -⟩ := Option.map_eq_some_iff.1 ht
      simp only [Watched.after, hq, Option.elim_some, StepOk, Option.mem_some_iff, forall_eq',
        Watched.reply]
      cases hleaves : signsOut q r with
      | true => exact iff_of_true (fun _ _ => signsIn_of_signsOut hleaves) fun _ => rfl
      | false =>
        cases hin : signsIn q r with
        | false => exact iff_of_true (fun _ _ => rfl) (by simpa using hout)
        | true => simp
  | save => exact iff_of_true trivial hout
  | restart => exact Iff.rfl

/-- **Who has left stays signed out** until a login, a switch or a registration that was sent
after that succeeds, throughout a history with saves and restarts, exactly when none that was
sent before succeeds after it, and each restart after it begins with a store that was saved
with nobody there. -/
theorem stays_out_iff {ls : List (Lifecycle Session.Event)} {w : Watched}
    (h : watched.run ls = some w) :
    watched.Meets StepOk ls ↔
      ∀ fs, fs <+: ls → ∀ t, watched.run fs = some t → StaysOut t :=
  watched.meets_iff_of_invariant (I := fun _ => StaysOut) (by rintro ⟨⟩) tells_init
    (fun _ _ _ hw _ => tells_step hw) (fun _ _ _ _ _ hw hs hstep => stepOk_iff hw hs hstep) h

/-! ## Whose data -/

/-- A new start, with the owners of what was saved. -/
def bootOwned (saved live : Ownership.State) : Ownership.State :=
  ⟨boot saved.base live.base, [], saved.owner⟩

/-- **Nobody sees another's data**, through restarts, under the same condition as without. -/
theorem own_restarts_iff {ls : List (Lifecycle Session.Event)} {s : Saved Ownership.State}
    (h : (Ownership.machine.withRestarts bootOwned).run ls = some s) :
    (Ownership.machine.withRestarts bootOwned).Meets (Machine.liftOk Ownership.OwnOk) ls ↔
      ∀ fs, fs <+: ls → ∀ t, (Ownership.machine.withRestarts bootOwned).run fs = some t →
        Ownership.Own t.live :=
  Machine.meets_iff_restarts (fun _ => Or.inl rfl) (fun _ _ hsaved _ => hsaved)
    (fun _ _ _ hs hstep => Ownership.ownOk_iff hs hstep) h

/-! ## Two histories -/

/-- Someone signs in and is saved, and asks for the balance. -/
def signedIn : List (Lifecycle Session.Event) :=
  [.event (.send .userLogin), .event (.reply 0 (.session "A" (user 1 "a.png"))), .save,
    .event (.send .userBalance)]

/-- The app is closed before the balance comes, and it is asked for again. -/
def closed : List (Lifecycle Session.Event) :=
  signedIn ++ [.restart, .event (.send .userBalance), .event (.reply 0 (.balance "$5.00"))]

/-- A switch of the account is asked for, and the user logs out before it comes. -/
def switchedLate : List (Lifecycle Session.Event) :=
  signedIn ++ [.event (.send .switchUser), .event .logout,
    .event (.reply 1 (.session "B" (user 2 "b.png")))]

theorem run_without_sample :
    ∃ s, history.run closed = some s ∧ s.live.store.wallet = "$5.00" ∧
      ∃ ds u, Session.machine.run ds = some u ∧ u.store = s.live.store := by
  obtain ⟨s, hs, hwallet⟩ : ∃ s, history.run closed = some s ∧ s.live.store.wallet = "$5.00" :=
    ⟨_, rfl, rfl⟩
  obtain ⟨⟨-, ds, u, -, -, hu, hstore⟩, -⟩ := run_without hs
  exact ⟨s, hs, hwallet, ds, u, hu, hstore⟩

/-- **Signed in again.**  The app is closed before the logout has been saved; or a switch is
answered after it. -/
theorem stays_out_iff_sample :
    (∃ w, watched.run (signedIn ++ [.event .logout, .restart]) = some w ∧
      ¬ ∀ fs, fs <+: signedIn ++ [.event .logout, .restart] →
        ∀ t, watched.run fs = some t → StaysOut t) ∧
    ∃ w, watched.run switchedLate = some w ∧
      ¬ ∀ fs, fs <+: switchedLate → ∀ t, watched.run fs = some t → StaysOut t := by
  have hclosed : ¬ watched.Meets StepOk (signedIn ++ [.event .logout, .restart]) := by decide
  have hlate : ¬ watched.Meets StepOk switchedLate := by decide
  exact ⟨⟨_, rfl, fun hall => hclosed ((stays_out_iff rfl).2 hall)⟩,
    _, rfl, fun hall => hlate ((stays_out_iff rfl).2 hall)⟩

end Restarts
