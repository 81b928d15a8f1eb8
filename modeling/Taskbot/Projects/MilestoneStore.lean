import Mathlib
import Taskbot.Async.Machine
import Taskbot.Store.BatchLog
import Taskbot.Projects.ProjectActivity

/-!
# New milestones

The screen `EmpProjectActivity` lists the milestones of the selected freelancer, and new
ones can be added there.  The list `mileStoneData` has three sources: the record of the
proposal, the answers to `activity-amounts`, and the milestones that have just been added,
which are pushed when the server confirms them.

* `Opened`, `Request`, `Reply` — the records, the requests, and the replies under way.
* `State`, `Event`, `step` — the screen and the server, each request served at any time
  after it is sent and each reply handled at any time after it is made.
* `Sound` — **what passes between them**: no key is drawn twice, a confirmation comes once
  and is of milestones stored at its place, and an answer is a snapshot of what is stored.
-/

namespace MilestoneKeys

open Async BatchLog
open ProjectActivity (Milestone Proposal Row entries)

/-! ## Requests and replies -/

/-- An object of milestones. -/
abbrev Milestones : Type := List (String × Milestone)

/-- The keys of the milestones of a proposal. -/
abbrev keys (b : ℕ × Milestones) : List String := batchKeys Prod.fst b

/-- What the screen is opened with, and what the server has stored by then. -/
structure Opened where
  /-- The proposals of the project. -/
  records : List Proposal
  /-- The proposal the screen was opened for. -/
  indexItem : Proposal
  /-- The milestones the server has for a proposal. -/
  stored : ℕ → Milestones
  /-- The keys in use. -/
  known : List String
  indexItem_mem : indexItem ∈ records
  nodup_record : ∀ p ∈ records, ((p.milestone.getD []).map Prod.fst).Nodup
  nodup_stored : ∀ id, ((stored id).map Prod.fst).Nodup
  record_known : ∀ p ∈ records, ∀ k ∈ (p.milestone.getD []).map Prod.fst, k ∈ known
  stored_known : ∀ id, ∀ k ∈ (stored id).map Prod.fst, k ∈ known

/-- The requests. -/
inductive Request where
  /-- `activity-amounts`. -/
  | amounts (proposal_id : ℕ)
  /-- `update-milestone`. -/
  | update (proposal_id : ℕ) (mileStoneObject : Milestones)

/-- The replies, each with what its handler remembers of the request. -/
inductive Reply where
  /-- The answer about a proposal, made when `made` requests had been stored. -/
  | amounts (proposal_id made : ℕ) (mileastone_array : Milestones)
  /-- An answer without a `mileastone_array`. -/
  | noMilestones
  /-- `type == 'success'`: the milestones were stored, at this place. -/
  | updated (place proposal_id : ℕ) (mileStoneObject : Milestones)
  /-- Any other reply to `update-milestone`. -/
  | refused

/-- The milestones that a request stores. -/
def Request.batch : Request → Option (ℕ × Milestones)
  | amounts _ => none
  | update id mileStoneObject => some (id, mileStoneObject)

/-- The place at which the milestones were stored that a reply confirms. -/
def Reply.place : Reply → Option ℕ
  | updated place _ _ => some place
  | amounts _ _ _ | noMilestones | refused => none

/-! ## The screen and the server -/

/-- The state of the screen and of the server. -/
structure State where
  selectedItem : Proposal
  mileStoneData : List Row
  /-- The answer that the list was last filled from, by its proposal and by when it was
  made; none when it was filled from a record. -/
  filled : Option (ℕ × ℕ)
  /-- The keys in use and those drawn so far. -/
  drawn : List String
  requests : List Request
  replies : List Reply
  /-- What the server has stored, in this order. -/
  log : List (ℕ × Milestones)

/-- What can happen. -/
inductive Event where
  /-- A freelancer is selected, or the screen gets the focus back. -/
  | select (p : Proposal)
  /-- A handler asks for the amounts, of the proposal it remembers. -/
  | getUpdatedAmounts (id : ℕ)
  /-- The new milestones are sent, each under the key drawn for it. -/
  | handelAddNewMileStone (mileStoneObject : Milestones)
  /-- The server gets the request at place `i`, and accepts it or not. -/
  | serve (i : ℕ) (accepts : Bool)
  /-- The request at place `i` is lost. -/
  | loseRequest (i : ℕ)
  /-- The reply at place `i` arrives. -/
  | reply (i : ℕ)
  /-- The reply at place `i` is lost. -/
  | loseReply (i : ℕ)

def getUpdatedAmounts (s : State) (id : ℕ) : State :=
  { s with requests := s.requests ++ [.amounts id] }

/-- The effect of a selection or of a focus. -/
def effect (s : State) (p : Proposal) : State :=
  { getUpdatedAmounts s p.proposal_id with
    selectedItem := p, mileStoneData := entries p.milestone, filled := none }

def handelAddNewMileStone (s : State) (mileStoneObject : Milestones) : State :=
  { s with
    drawn := s.drawn ++ mileStoneObject.map Prod.fst
    requests := s.requests ++ [.update s.selectedItem.proposal_id mileStoneObject] }

/-- The server. -/
def serve (o : Opened) (s : State) (accepts : Bool) : Request → State
  | .amounts id =>
    if accepts then
      { s with replies :=
          s.replies ++ [.amounts id s.log.length (BatchLog.stored o.stored s.log id)] }
    else { s with replies := s.replies ++ [.noMilestones] }
  | .update id mileStoneObject =>
    if accepts then
      { s with
        log := s.log ++ [(id, mileStoneObject)]
        replies := s.replies ++ [.updated s.log.length id mileStoneObject] }
    else { s with replies := s.replies ++ [.refused] }

/-- The handlers of the replies.  That of `update-milestone` does not look at which
proposal is selected, nor at what the list holds. -/
def replied (s : State) : Reply → State
  | .amounts id made mileastone_array =>
    { s with mileStoneData := entries (some mileastone_array), filled := some (id, made) }
  | .noMilestones => { s with mileStoneData := entries none, filled := none }
  | .updated _ _ mileStoneObject =>
    { s with mileStoneData := s.mileStoneData ++ entries (some mileStoneObject) }
  | .refused => s

/-- One event. -/
def step (o : Opened) (s : State) : Event → Option State
  | .select p => if p ∈ o.records then some (effect s p) else none
  | .getUpdatedAmounts id => some (getUpdatedAmounts s id)
  | .handelAddNewMileStone mileStoneObject =>
    if (mileStoneObject.map Prod.fst).Nodup ∧ ∀ k ∈ mileStoneObject.map Prod.fst, k ∉ s.drawn then
      some (handelAddNewMileStone s mileStoneObject)
    else none
  | .serve i accepts => s.requests[i]?.map fun q =>
      serve o { s with requests := s.requests.eraseIdx i } accepts q
  | .loseRequest i => s.requests[i]?.map fun _ => { s with requests := s.requests.eraseIdx i }
  | .reply i => s.replies[i]?.map fun r => replied { s with replies := s.replies.eraseIdx i } r
  | .loseReply i => s.replies[i]?.map fun _ => { s with replies := s.replies.eraseIdx i }

/-- The screen just opened. -/
def machine (o : Opened) : Machine State Event where
  init := effect ⟨o.indexItem, [], none, o.known, [], [], []⟩ o.indexItem
  step := step o

/-! ## Where a key can be -/

namespace State

/-- The milestones stored and those that may still be. -/
def batches (s : State) : List (ℕ × Milestones) := s.log ++ s.requests.filterMap Request.batch

/-- Their keys. -/
def sentKeys (s : State) : List String := s.batches.flatMap keys

/-- The places that are still to be confirmed. -/
def places (s : State) : List ℕ := s.replies.filterMap Reply.place

/-- The keys listed. -/
def listed (s : State) : List String := s.mileStoneData.map Row.key

end State

/-- No two keys drawn are the same, and none was in use. -/
structure Fresh (o : Opened) (drawn ks : List String) : Prop where
  nodup : ks.Nodup
  unknown : ∀ k ∈ ks, k ∉ o.known
  known_drawn : ∀ k ∈ o.known, k ∈ drawn
  drawn : ∀ k ∈ ks, k ∈ drawn

theorem Fresh.of_subperm {o : Opened} {drawn ks ks' : List String} (h : Fresh o drawn ks)
    (hsub : ks'.Subperm ks) : Fresh o drawn ks' where
  nodup := by
    obtain ⟨l, hperm, hl⟩ := hsub
    exact hperm.nodup (h.nodup.sublist hl)
  unknown k hk := h.unknown k (hsub.subset hk)
  known_drawn := h.known_drawn
  drawn k hk := h.drawn k (hsub.subset hk)

theorem Fresh.append {o : Opened} {drawn ks new : List String} (h : Fresh o drawn ks)
    (hnew : new.Nodup) (hdrawn : ∀ k ∈ new, k ∉ drawn) :
    Fresh o (drawn ++ new) (ks ++ new) where
  nodup := by
    refine h.nodup.append hnew ?_
    intro k hk hk'
    exact hdrawn k hk' (h.drawn k hk)
  unknown k hk := by
    rcases List.mem_append.1 hk with hk | hk
    · exact h.unknown k hk
    · exact fun hknown => hdrawn k hk (h.known_drawn k hknown)
  known_drawn k hk := List.mem_append_left new (h.known_drawn k hk)
  drawn k hk := by
    rcases List.mem_append.1 hk with hk | hk
    · exact List.mem_append_left new (h.drawn k hk)
    · exact List.mem_append_right drawn hk

/-- The messages between the screen and the server: every confirmation is of milestones
stored at its place, and comes once; every answer is a snapshot of what is stored. -/
structure Sound (o : Opened) (s : State) : Prop where
  fresh : Fresh o s.drawn s.sentKeys
  updated : ∀ n id milestones, .updated n id milestones ∈ s.replies →
    s.log[n]? = some (id, milestones)
  once : s.places.Nodup
  amounts : ∀ id m milestones, .amounts id m milestones ∈ s.replies →
    m ≤ s.log.length ∧ milestones = BatchLog.stored o.stored (s.log.take m) id

section Sound

variable {o : Opened} {s : State}

theorem mem_places {n : ℕ} :
    n ∈ s.places ↔ ∃ id milestones, .updated n id milestones ∈ s.replies := by
  rw [State.places, List.mem_filterMap]
  constructor
  · rintro ⟨r, hr, hn⟩
    cases r with
    | updated m id milestones =>
      cases hn
      exact ⟨id, milestones, hr⟩
    | _ => cases hn
  · rintro ⟨id, milestones, hr⟩
    exact ⟨_, hr, rfl⟩

theorem Sound.lt_of_mem_places (h : Sound o s) {n : ℕ} (hn : n ∈ s.places) : n < s.log.length := by
  obtain ⟨id, milestones, hr⟩ := mem_places.1 hn
  exact (List.getElem?_eq_some_iff.1 (h.updated n id milestones hr)).1

theorem Sound.keys_sublist {l : List Request} (hl : l.Sublist s.requests) :
    ({ s with requests := l } : State).sentKeys.Subperm s.sentKeys :=
  (((hl.filterMap _).append_left s.log).flatMap keys).subperm

/-- A request is lost, or served without being stored. -/
theorem Sound.eraseRequest (h : Sound o s) (i : ℕ) :
    Sound o { s with requests := s.requests.eraseIdx i } where
  fresh := h.fresh.of_subperm (Sound.keys_sublist (List.eraseIdx_sublist _ i))
  updated := h.updated
  once := h.once
  amounts := h.amounts

/-- A reply is handled or lost. -/
theorem Sound.eraseReply (h : Sound o s) (i : ℕ) :
    Sound o { s with replies := s.replies.eraseIdx i } where
  fresh := h.fresh
  updated n id milestones hr := h.updated n id milestones (mem_of_eraseIdx hr)
  once := h.once.sublist ((List.eraseIdx_sublist _ i).filterMap _)
  amounts id m milestones hr := h.amounts id m milestones (mem_of_eraseIdx hr)

/-- The amounts are asked for. -/
theorem Sound.getUpdatedAmounts (h : Sound o s) (id : ℕ) : Sound o (getUpdatedAmounts s id) where
  fresh := by
    have hkeys : (MilestoneKeys.getUpdatedAmounts s id).sentKeys = s.sentKeys := by
      simp [State.sentKeys, State.batches, MilestoneKeys.getUpdatedAmounts, Request.batch]
    exact hkeys ▸ h.fresh
  updated := h.updated
  once := h.once
  amounts := h.amounts

/-- New milestones are sent. -/
theorem Sound.handelAddNewMileStone (h : Sound o s) {milestones : Milestones}
    (hnodup : (milestones.map Prod.fst).Nodup)
    (hdrawn : ∀ k ∈ milestones.map Prod.fst, k ∉ s.drawn) :
    Sound o (handelAddNewMileStone s milestones) where
  fresh := by
    have hkeys : (MilestoneKeys.handelAddNewMileStone s milestones).sentKeys =
        s.sentKeys ++ milestones.map Prod.fst := by
      simp [State.sentKeys, State.batches, MilestoneKeys.handelAddNewMileStone, Request.batch,
        batchKeys]
    exact hkeys ▸ h.fresh.append hnodup hdrawn
  updated := h.updated
  once := h.once
  amounts := h.amounts

/-- A reply that confirms nothing is made. -/
theorem Sound.addReply (h : Sound o s) {r : Reply} (hplace : r.place = none)
    (hamounts : ∀ id m milestones, r = .amounts id m milestones →
      m ≤ s.log.length ∧ milestones = BatchLog.stored o.stored (s.log.take m) id) :
    Sound o { s with replies := s.replies ++ [r] } where
  fresh := h.fresh
  updated n id milestones hr := by
    rcases List.mem_append.1 hr with hr | hr
    · exact h.updated n id milestones hr
    · rw [← List.mem_singleton.1 hr] at hplace
      cases hplace
  once := by
    have hplaces : ({ s with replies := s.replies ++ [r] } : State).places = s.places := by
      simp [State.places, hplace]
    exact hplaces ▸ h.once
  amounts id m milestones hr := by
    rcases List.mem_append.1 hr with hr | hr
    · exact h.amounts id m milestones hr
    · exact hamounts id m milestones (List.mem_singleton.1 hr).symm

/-- A request is served, and its milestones stored. -/
theorem Sound.store (h : Sound o s) {i id : ℕ} {milestones : Milestones}
    (hq : s.requests[i]? = some (.update id milestones)) :
    Sound o { s with
      requests := s.requests.eraseIdx i
      log := s.log ++ [(id, milestones)]
      replies := s.replies ++ [.updated s.log.length id milestones] } where
  fresh := by
    refine h.fresh.of_subperm (List.Perm.subperm (List.Perm.flatMap_right keys ?_))
    have hperm := (perm_cons_eraseIdx hq).filterMap Request.batch
    simp only [List.filterMap_cons, Request.batch] at hperm
    simpa [State.batches] using hperm.append_left s.log
  updated n id' milestones' hr := by
    rcases List.mem_append.1 hr with hr | hr
    · have hn := h.updated n id' milestones' hr
      rwa [List.getElem?_append_left (List.getElem?_eq_some_iff.1 hn).1]
    · cases List.mem_singleton.1 hr
      exact List.getElem?_concat_length
  once := by
    show ((s.replies ++ [_]).filterMap Reply.place).Nodup
    rw [List.filterMap_append]
    refine h.once.append (List.nodup_singleton s.log.length) ?_
    intro n hn hlast
    exact absurd (h.lt_of_mem_places hn) (List.mem_singleton.1 hlast ▸ lt_irrefl _)
  amounts id' m milestones' hr := by
    rcases List.mem_append.1 hr with hr | hr
    · obtain ⟨hm, rfl⟩ := h.amounts id' m milestones' hr
      refine ⟨hm.trans (by simp), ?_⟩
      rw [List.take_append_of_le_length hm]
    · cases List.mem_singleton.1 hr

theorem sound_step {t : State} {e : Event} (h : Sound o s) (hst : step o s e = some t) :
    Sound o t := by
  cases e with
  | select p =>
    obtain ⟨-, ⟨⟩⟩ := Option.ite_none_right_eq_some.1 hst
    have hsent := h.getUpdatedAmounts p.proposal_id
    exact ⟨hsent.fresh, hsent.updated, hsent.once, hsent.amounts⟩
  | getUpdatedAmounts id =>
    cases hst
    exact h.getUpdatedAmounts id
  | handelAddNewMileStone milestones =>
    obtain ⟨⟨hnodup, hdrawn⟩, ⟨⟩⟩ := Option.ite_none_right_eq_some.1 hst
    exact h.handelAddNewMileStone hnodup hdrawn
  | serve i accepts =>
    obtain ⟨q, hq, rfl⟩ := Option.map_eq_some_iff.1 hst
    have herased := h.eraseRequest i
    cases q with
    | amounts id =>
      cases accepts with
      | true =>
        refine herased.addReply rfl ?_
        rintro id' m milestones ⟨⟩
        exact ⟨le_rfl, by rw [List.take_length]⟩
      | false => exact herased.addReply rfl (by rintro id' m milestones ⟨⟩)
    | update id milestones =>
      cases accepts with
      | true => exact h.store hq
      | false => exact herased.addReply rfl (by rintro id' m milestones ⟨⟩)
  | loseRequest i =>
    obtain ⟨-, -, rfl⟩ := Option.map_eq_some_iff.1 hst
    exact h.eraseRequest i
  | reply i =>
    obtain ⟨r, -, rfl⟩ := Option.map_eq_some_iff.1 hst
    have herased := h.eraseReply i
    cases r <;> exact ⟨herased.fresh, herased.updated, herased.once, herased.amounts⟩
  | loseReply i =>
    obtain ⟨-, -, rfl⟩ := Option.map_eq_some_iff.1 hst
    exact h.eraseReply i

end Sound

end MilestoneKeys
