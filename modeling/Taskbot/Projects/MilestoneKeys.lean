import Mathlib
import Taskbot.Projects.MilestoneStore

/-!
# The keys of the milestones listed

No milestone of the selected freelancer is to be listed, and offered to be paid, twice.

* `Listed` — what the keys of the list come from.
* `keys_nodup_iff` — **no key is listed twice, if and only if** a confirmation is never
  handled after an answer for the same proposal that was made later than it.
* `keys_nodup_of_firstOnly` — so it is when the replies arrive in the order in which they
  were made.
-/

namespace MilestoneKeys

open Async BatchLog
open ProjectActivity (Milestone Proposal Row entries)

/-! ## What is listed -/

/-- What the list holds: all of the snapshot it was last filled from; and nothing but keys
that were in use, keys of that snapshot, and keys that are not to be confirmed any more. -/
structure Listed (o : Opened) (s : State) : Prop where
  filled : ∀ id m, s.filled = some (id, m) → m ≤ s.log.length ∧
    ∀ n milestones, n < m → s.log[n]? = some (id, milestones) →
      ∀ k ∈ keys (id, milestones), k ∈ s.listed
  source : ∀ k ∈ s.listed, k ∈ o.known ∨
    ∃ (n : ℕ) (b : ℕ × Milestones), s.log[n]? = some b ∧ k ∈ keys b ∧
      (n ∉ s.places ∨ ∃ m, s.filled = some (b.1, m) ∧ n < m)

section Listed

variable {o : Opened} {s : State}

@[simp] theorem entries_keys (milestones : Option Milestones) :
    (entries milestones).map Row.key = (milestones.getD []).map Prod.fst := by
  simp [entries, Function.comp_def]

theorem mem_places_of_eraseIdx {i n : ℕ}
    (h : n ∈ ({ s with replies := s.replies.eraseIdx i } : State).places) : n ∈ s.places :=
  ((List.eraseIdx_sublist _ i).filterMap _).subset h

/-- The list stays as it is while the server stores more and replies come and go. -/
theorem Listed.mono {t : State} (h : Listed o s) (hlisted : t.listed = s.listed)
    (hfilled : t.filled = s.filled) (hlog : s.log <+: t.log)
    (hplaces : ∀ n, n < s.log.length → n ∈ t.places → n ∈ s.places) : Listed o t where
  filled id m hm := by
    obtain ⟨hle, hall⟩ := h.filled id m (hfilled ▸ hm)
    refine ⟨hle.trans hlog.length_le, fun n milestones hn hstored k hk => ?_⟩
    rw [place_kept hlog (hn.trans_le hle)] at hstored
    exact hlisted ▸ hall n milestones hn hstored k hk
  source k hk := by
    refine (h.source k (hlisted ▸ hk)).imp_right ?_
    rintro ⟨n, b, hb, hkb, hn⟩
    have hlt := (List.getElem?_eq_some_iff.1 hb).1
    refine ⟨n, b, (place_kept hlog hlt).trans hb, hkb, hn.imp ?_ ?_⟩
    · intro hn' hmem
      exact hn' (hplaces n hlt hmem)
    · rintro ⟨m, hm, hnm⟩
      exact ⟨m, hfilled.trans hm, hnm⟩

/-- The list is filled from a record. -/
theorem listed_of_record (hfilled : s.filled = none) (hlisted : ∀ k ∈ s.listed, k ∈ o.known) :
    Listed o s where
  filled id m hm := by
    rw [hfilled] at hm
    cases hm
  source k hk := Or.inl (hlisted k hk)

/-- The list is filled from an answer. -/
theorem listed_of_amounts {id m : ℕ} (hm : m ≤ s.log.length) (hfilled : s.filled = some (id, m))
    (hlisted : s.listed = (BatchLog.stored o.stored (s.log.take m) id).map Prod.fst) :
    Listed o s where
  filled id' m' hm' := by
    cases hfilled.symm.trans hm'
    refine ⟨hm, fun n milestones hn hstored k hk => ?_⟩
    obtain ⟨e, he, rfl⟩ := List.mem_map.1 hk
    rw [hlisted]
    exact List.mem_map_of_mem (mem_stored_take.2 (Or.inr ⟨n, milestones, hn, hstored, he⟩))
  source k hk := by
    rw [hlisted] at hk
    obtain ⟨e, he, rfl⟩ := List.mem_map.1 hk
    rcases mem_stored_take.1 he with hbase | ⟨n, milestones, hn, hstored, he⟩
    · exact Or.inl (o.stored_known id _ (List.mem_map_of_mem hbase))
    · exact Or.inr ⟨n, _, hstored, key_mem_batchKeys he, Or.inr ⟨m, hfilled, hn⟩⟩

/-- A confirmation is handled: its place is not awaited any more. -/
theorem Listed.updated (h : Listed o s) (hs : Sound o s) {i n id : ℕ} {milestones : Milestones}
    (hr : s.replies[i]? = some (.updated n id milestones)) :
    Listed o (replied { s with replies := s.replies.eraseIdx i } (.updated n id milestones)) where
  filled id' m hm := by
    obtain ⟨hle, hall⟩ := h.filled id' m hm
    refine ⟨hle, fun n' milestones' hn hstored k hk => ?_⟩
    have hold := hall n' milestones' hn hstored k hk
    simpa [State.listed, replied] using Or.inl hold
  source k hk := by
    have hperm := (perm_cons_eraseIdx hr).filterMap Reply.place
    simp only [List.filterMap_cons, Reply.place] at hperm
    have hplace := (List.nodup_cons.1 (hperm.symm.nodup hs.once)).1
    have hcases : k ∈ s.listed ∨ k ∈ keys (id, milestones) := by
      simpa [State.listed, replied, batchKeys] using hk
    rcases hcases with hk | hk
    · refine (h.source k hk).imp_right ?_
      rintro ⟨n', b, hb, hkb, hn⟩
      exact ⟨n', b, hb, hkb, hn.imp_left fun hn' hmem => hn' (mem_places_of_eraseIdx hmem)⟩
    · exact Or.inr ⟨n, _, hs.updated n id milestones (List.mem_of_getElem? hr), hk, Or.inl hplace⟩

theorem listed_step {t : State} {e : Event} (hs : Sound o s) (h : Listed o s)
    (hst : step o s e = some t) : Listed o t := by
  cases e with
  | select p =>
    obtain ⟨hp, ⟨⟩⟩ := Option.ite_none_right_eq_some.1 hst
    refine listed_of_record rfl fun k hk => o.record_known p hp k ?_
    simpa [State.listed, effect] using hk
  | getUpdatedAmounts id =>
    cases hst
    exact h.mono rfl rfl List.prefix_rfl fun _ _ hn => hn
  | handelAddNewMileStone milestones =>
    obtain ⟨-, ⟨⟩⟩ := Option.ite_none_right_eq_some.1 hst
    exact h.mono rfl rfl List.prefix_rfl fun _ _ hn => hn
  | serve i accepts =>
    obtain ⟨q, -, rfl⟩ := Option.map_eq_some_iff.1 hst
    cases q with
    | amounts id =>
      cases accepts <;> refine h.mono rfl rfl List.prefix_rfl fun n _ hn => ?_ <;>
        simpa [State.places, serve, Reply.place] using hn
    | update id milestones =>
      cases accepts with
      | true =>
        refine h.mono rfl rfl (List.prefix_append s.log _) fun n hlt hn => ?_
        have hcases : n ∈ s.places ∨ n = s.log.length := by
          simpa [State.places, serve, Reply.place] using hn
        exact hcases.resolve_right hlt.ne
      | false =>
        refine h.mono rfl rfl List.prefix_rfl fun n _ hn => ?_
        simpa [State.places, serve, Reply.place] using hn
  | loseRequest i =>
    obtain ⟨-, -, rfl⟩ := Option.map_eq_some_iff.1 hst
    exact h.mono rfl rfl List.prefix_rfl fun _ _ hn => hn
  | reply i =>
    obtain ⟨r, hr, rfl⟩ := Option.map_eq_some_iff.1 hst
    cases r with
    | amounts id m milestones =>
      obtain ⟨hm, rfl⟩ := hs.amounts id m milestones (List.mem_of_getElem? hr)
      refine listed_of_amounts hm rfl ?_
      simp [State.listed, replied]
    | noMilestones =>
      refine listed_of_record rfl fun k hk => ?_
      simp [State.listed, replied, entries] at hk
    | updated n id milestones => exact h.updated hs hr
    | refused => exact h.mono rfl rfl List.prefix_rfl fun _ _ => mem_places_of_eraseIdx
  | loseReply i =>
    obtain ⟨-, -, rfl⟩ := Option.map_eq_some_iff.1 hst
    exact h.mono rfl rfl List.prefix_rfl fun _ _ => mem_places_of_eraseIdx

end Listed

/-! ## The keys listed -/

/-- What a step must meet: a confirmation is not handled when the list was last filled from
an answer for the same proposal that was made after the milestones were stored. -/
def ReplyOk (s : State) : Reply → Prop
  | .updated place id mileStoneObject =>
    mileStoneObject ≠ [] → ∀ answer ∈ s.filled, answer.1 = id → answer.2 ≤ place
  | .amounts _ _ _ | .noMilestones | .refused => True

def StepOk (s : State) : Event → Prop
  | .reply i => ∀ r ∈ s.replies[i]?, ReplyOk s r
  | _ => True

instance (s : State) : ∀ r, Decidable (ReplyOk s r)
  | .updated place id mileStoneObject => inferInstanceAs (Decidable
      (mileStoneObject ≠ [] → ∀ answer ∈ s.filled, answer.1 = id → answer.2 ≤ place))
  | .amounts _ _ _ | .noMilestones | .refused => isTrue trivial

instance (s : State) : ∀ e, Decidable (StepOk s e)
  | .reply i => inferInstanceAs (Decidable (∀ r ∈ s.replies[i]?, ReplyOk s r))
  | .select _ | .getUpdatedAmounts _ | .handelAddNewMileStone _ | .serve _ _ | .loseRequest _
  | .loseReply _ => isTrue trivial

section Nodup

variable {o : Opened} {s : State}

theorem Sound.log_nodup (h : Sound o s) : (s.log.flatMap keys).Nodup :=
  h.fresh.nodup.sublist ((List.sublist_append_left s.log _).flatMap keys)

theorem Sound.unknown (h : Sound o s) {b : ℕ × Milestones} (hb : b ∈ s.log) {k : String}
    (hk : k ∈ keys b) : k ∉ o.known :=
  h.fresh.unknown k (List.mem_flatMap.2 ⟨b, List.mem_append_left _ hb, hk⟩)

/-- No key is twice in a snapshot. -/
theorem Sound.nodup_amounts (h : Sound o s) (m id : ℕ) :
    ((BatchLog.stored o.stored (s.log.take m) id).map Prod.fst).Nodup := by
  refine nodup_stored (o.nodup_stored id) ?_ fun b hb k hk hstored => ?_
  · exact h.log_nodup.sublist ((List.take_sublist m s.log).flatMap keys)
  · exact h.unknown (List.mem_of_mem_take hb) hk (o.stored_known id k hstored)

/-- **Confirmations.**  The milestones confirmed are listed already exactly when the list was
filled from a later answer. -/
theorem updated_nodup_iff (hs : Sound o s) (h : Listed o s) (hnodup : s.listed.Nodup)
    {n id : ℕ} {milestones : Milestones} (hr : .updated n id milestones ∈ s.replies) :
    ReplyOk s (.updated n id milestones) ↔ (s.listed ++ milestones.map Prod.fst).Nodup := by
  have hn := hs.updated n id milestones hr
  have hb : (id, milestones) ∈ s.log := List.mem_of_getElem? hn
  constructor
  · intro hok
    have hnew : (keys (id, milestones)).Nodup := (List.nodup_flatMap.1 hs.log_nodup).1 _ hb
    refine hnodup.append hnew fun k hk hknew => ?_
    rcases h.source k hk with hknown | ⟨n', b, hb', hkb, hplace⟩
    · exact hs.unknown hb hknew hknown
    obtain rfl := place_eq_of_key_eq hs.log_nodup hb' hn hkb hknew
    cases hn.symm.trans hb'
    rcases hplace with hplace | ⟨m, hm, hlt⟩
    · exact hplace (mem_places.2 ⟨id, milestones, hr⟩)
    · have hne : milestones ≠ [] := by
        rintro rfl
        cases hknew
      exact absurd (hok hne (id, m) hm rfl) (not_le.2 hlt)
  · rintro hall hne ⟨id', m⟩ hm rfl
    by_contra hlt
    obtain ⟨e, he⟩ := List.exists_mem_of_ne_nil milestones hne
    have hkey : e.1 ∈ milestones.map Prod.fst := List.mem_map_of_mem he
    have hold := (h.filled id' m hm).2 n milestones (not_le.1 hlt) hn e.1 hkey
    exact (List.nodup_append'.1 hall).2.2 hold hkey

/-- **One step.** -/
theorem nodup_step_iff {t : State} {e : Event} (hs : Sound o s) (h : Listed o s)
    (hnodup : s.listed.Nodup) (hst : step o s e = some t) : StepOk s e ↔ t.listed.Nodup := by
  cases e with
  | select p =>
    obtain ⟨hp, ⟨⟩⟩ := Option.ite_none_right_eq_some.1 hst
    refine iff_of_true trivial ?_
    simpa [State.listed, effect] using o.nodup_record p hp
  | getUpdatedAmounts id =>
    cases hst
    exact iff_of_true trivial hnodup
  | handelAddNewMileStone milestones =>
    obtain ⟨-, ⟨⟩⟩ := Option.ite_none_right_eq_some.1 hst
    exact iff_of_true trivial hnodup
  | serve i accepts =>
    obtain ⟨q, -, rfl⟩ := Option.map_eq_some_iff.1 hst
    refine iff_of_true trivial ?_
    cases q <;> cases accepts <;> exact hnodup
  | loseRequest i =>
    obtain ⟨-, -, rfl⟩ := Option.map_eq_some_iff.1 hst
    exact iff_of_true trivial hnodup
  | reply i =>
    obtain ⟨r, hr, rfl⟩ := Option.map_eq_some_iff.1 hst
    have hok : StepOk s (.reply i) ↔ ReplyOk s r := by simp [StepOk, hr]
    rw [hok]
    cases r with
    | amounts id m milestones =>
      obtain ⟨-, rfl⟩ := hs.amounts id m milestones (List.mem_of_getElem? hr)
      refine iff_of_true trivial ?_
      simpa [State.listed, replied] using hs.nodup_amounts m id
    | noMilestones => exact iff_of_true trivial List.nodup_nil
    | updated n id milestones =>
      rw [updated_nodup_iff hs h hnodup (List.mem_of_getElem? hr)]
      simp [State.listed, replied]
    | refused => exact iff_of_true trivial hnodup
  | loseReply i =>
    obtain ⟨-, -, rfl⟩ := Option.map_eq_some_iff.1 hst
    exact iff_of_true trivial hnodup

end Nodup

theorem sound_init (o : Opened) : Sound o (machine o).init where
  fresh := ⟨List.nodup_nil, by rintro k ⟨⟩, fun _ hk => hk, by rintro k ⟨⟩⟩
  updated := by rintro n id milestones ⟨⟩
  once := List.nodup_nil
  amounts := by rintro id m milestones ⟨⟩

theorem listed_init (o : Opened) : Listed o (machine o).init := by
  refine listed_of_record rfl fun k hk => o.record_known _ o.indexItem_mem k ?_
  simpa [State.listed, machine, effect] using hk

/-- **The keys.**  Throughout a run no milestone is listed twice, if and only if no
confirmation is handled on top of an answer that was made later than it. -/
theorem keys_nodup_iff (o : Opened) {es : List Event} {s : State}
    (h : (machine o).run es = some s) :
    (machine o).Meets StepOk es ↔
      ∀ fs, fs <+: es → ∀ t, (machine o).run fs = some t → (t.mileStoneData.map Row.key).Nodup := by
  refine (machine o).meets_iff_of_invariant (I := fun _ t => t.listed.Nodup)
    (J := fun t => Sound o t ∧ Listed o t) ?_ ⟨sound_init o, listed_init o⟩ ?_ ?_ h
  · have hinit := o.nodup_record _ o.indexItem_mem
    simpa [State.listed, machine, effect] using hinit
  · rintro s e t ⟨hs, hl⟩ - hst
    exact ⟨sound_step hs hst, listed_step hs hl hst⟩
  · rintro - s e t - ⟨hs, hl⟩ hnodup hst
    exact nodup_step_iff hs hl hnodup hst

/-- A proposal with one milestone. -/
def sampleProposal : Proposal :=
  ⟨7, true, false, false, none, some [("k0", ⟨"Design", "100", .hired⟩)], false⟩

/-- A project with that proposal, and nothing stored but its milestone. -/
def sampleOpened : Opened where
  records := [sampleProposal]
  indexItem := sampleProposal
  stored id := if id = 7 then [("k0", ⟨"Design", "100", .hired⟩)] else []
  known := ["k0"]
  indexItem_mem := List.mem_singleton_self _
  nodup_record := by simp [sampleProposal]
  nodup_stored id := by
    split
    · exact List.nodup_singleton _
    · exact List.nodup_nil
  record_known := by simp [sampleProposal]
  stored_known id k hk := by
    split at hk
    · exact hk
    · cases hk

/-- The amounts are asked for when the screen opens, and answered only after a new milestone
has been stored; its confirmation is `last`. -/
def overtakenRun (last : List Event) : List Event :=
  [.handelAddNewMileStone [("k1", ⟨"Build", "200", .empty⟩)], .serve 1 true, .serve 0 true] ++ last

/-- The confirmation arrives first. -/
theorem keys_nodup_sample : ∃ s, (machine sampleOpened).run (overtakenRun [.reply 0, .reply 0]) =
      some s ∧ (machine sampleOpened).Meets StepOk (overtakenRun [.reply 0, .reply 0]) ∧
    ∀ fs, fs <+: overtakenRun [.reply 0, .reply 0] → ∀ t,
      (machine sampleOpened).run fs = some t → (t.mileStoneData.map Row.key).Nodup :=
  ⟨_, rfl, by decide, (keys_nodup_iff sampleOpened rfl).1 (by decide)⟩

/-- The answer arrives first, and the milestone is listed twice. -/
theorem not_keys_nodup : ¬ ∀ (o : Opened) es s, (machine o).run es = some s →
    (s.mileStoneData.map Row.key).Nodup := by
  intro h
  have hnodup := h sampleOpened (overtakenRun [.reply 1, .reply 0]) _ rfl
  exact absurd hnodup (by decide)

/-! ## Replies in order -/

/-- When an answer about the amounts was made. -/
def Reply.made : Reply → Option ℕ
  | amounts _ made _ => some made
  | noMilestones | updated _ _ _ | refused => none

/-- The replies arrive in the order in which they were made. -/
def FirstOnly (_ : State) : Event → Prop
  | .reply i => i = 0
  | _ => True

/-- No confirmation is on its way behind a later answer. -/
structure InOrder (s : State) : Prop where
  replies : s.replies.Pairwise fun r r' => ∀ m ∈ r.made, ∀ n ∈ r'.place, m ≤ n
  filled : ∀ answer ∈ s.filled, ∀ n ∈ s.places, answer.2 ≤ n

section InOrder

variable {o : Opened} {s : State}

theorem InOrder.sublist {l : List Reply} (h : InOrder s) (hl : l.Sublist s.replies) :
    InOrder { s with replies := l } where
  replies := h.replies.sublist hl
  filled answer ha n hn := h.filled answer ha n ((hl.filterMap _).subset hn)

/-- A reply is made: it confirms nothing that was stored before an earlier answer. -/
theorem InOrder.addReply (h : InOrder s) {r : Reply} (log : List (ℕ × Milestones))
    (hplace : ∀ n ∈ r.place, (∀ r' ∈ s.replies, ∀ m ∈ r'.made, m ≤ n) ∧
      ∀ answer ∈ s.filled, answer.2 ≤ n) :
    InOrder { s with log := log, replies := s.replies ++ [r] } where
  replies := by
    refine List.pairwise_append.2 ⟨h.replies, List.pairwise_singleton _ _, ?_⟩
    intro r' hr' r'' hr'' m hm n hn
    rw [List.mem_singleton.1 hr''] at hn
    exact (hplace n hn).1 r' hr' m hm
  filled answer ha n hn := by
    rw [State.places, List.filterMap_append, List.mem_append] at hn
    rcases hn with hn | hn
    · exact h.filled answer ha n hn
    · refine (hplace n ?_).2 answer ha
      simpa using hn

/-- The first reply is handled. -/
theorem InOrder.first {r : Reply} (h : InOrder s) (hr : s.replies[0]? = some r) :
    InOrder (replied { s with replies := s.replies.eraseIdx 0 } r) := by
  have hrest := h.sublist (List.eraseIdx_sublist s.replies 0)
  cases r with
  | amounts id m milestones =>
    refine ⟨hrest.replies, ?_⟩
    rintro answer ⟨⟩ n hn
    obtain ⟨r', hr', hplace⟩ := List.mem_filterMap.1 hn
    have hcons : s.replies = .amounts id m milestones :: s.replies.eraseIdx 0 := by
      cases hreplies : s.replies with
      | nil => simp [hreplies] at hr
      | cons r rest => simpa [hreplies] using hr
    have hpair := h.replies
    rw [hcons] at hpair
    exact (List.pairwise_cons.1 hpair).1 r' hr' m rfl n hplace
  | noMilestones => exact ⟨hrest.replies, by rintro answer ⟨⟩⟩
  | updated n id milestones => exact ⟨hrest.replies, hrest.filled⟩
  | refused => exact hrest

theorem inOrder_step {t : State} {e : Event} (hs : Sound o s) (hl : Listed o s) (h : InOrder s)
    (he : FirstOnly s e) (hst : step o s e = some t) : InOrder t := by
  cases e with
  | select p =>
    obtain ⟨-, ⟨⟩⟩ := Option.ite_none_right_eq_some.1 hst
    exact ⟨h.replies, by rintro answer ⟨⟩⟩
  | getUpdatedAmounts id =>
    cases hst
    exact ⟨h.replies, h.filled⟩
  | handelAddNewMileStone milestones =>
    obtain ⟨-, ⟨⟩⟩ := Option.ite_none_right_eq_some.1 hst
    exact ⟨h.replies, h.filled⟩
  | serve i accepts =>
    obtain ⟨q, -, rfl⟩ := Option.map_eq_some_iff.1 hst
    have herased : InOrder { s with requests := s.requests.eraseIdx i } := ⟨h.replies, h.filled⟩
    cases q with
    | amounts id => cases accepts <;> exact herased.addReply _ (by rintro n ⟨⟩)
    | update id milestones =>
      cases accepts with
      | true =>
        refine herased.addReply _ ?_
        rintro n ⟨⟩
        refine ⟨fun r hr m hm => ?_, fun answer ha => (hl.filled _ _ ha).1⟩
        cases r with
        | amounts id' m' milestones' =>
          cases hm
          exact (hs.amounts id' _ milestones' hr).1
        | _ => cases hm
      | false => exact herased.addReply _ (by rintro n ⟨⟩)
  | loseRequest i =>
    obtain ⟨-, -, rfl⟩ := Option.map_eq_some_iff.1 hst
    exact ⟨h.replies, h.filled⟩
  | reply i =>
    obtain ⟨r, hr, rfl⟩ := Option.map_eq_some_iff.1 hst
    obtain rfl : i = 0 := he
    exact h.first hr
  | loseReply i =>
    obtain ⟨-, -, rfl⟩ := Option.map_eq_some_iff.1 hst
    exact h.sublist (List.eraseIdx_sublist _ i)

/-- In order, every step is as it must be. -/
theorem InOrder.stepOk (h : InOrder s) (e : Event) : StepOk s e := by
  cases e with
  | reply i =>
    intro r hr
    cases r with
    | updated n id milestones =>
      intro _ answer ha _
      exact h.filled answer ha n (mem_places.2 ⟨id, milestones, List.mem_of_getElem? hr⟩)
    | _ => trivial
  | _ => trivial

end InOrder

/-- It takes a reply that overtakes another one: when they arrive in the order in which they
were made, no milestone is listed twice. -/
theorem keys_nodup_of_firstOnly {o : Opened} {es : List Event} {s : State}
    (hes : (machine o).Meets FirstOnly es) (h : (machine o).run es = some s) :
    (s.mileStoneData.map Row.key).Nodup := by
  have hall : (Sound o s ∧ Listed o s) ∧ InOrder s ∧ s.listed.Nodup := by
    refine (machine o).invariant (I := fun s =>
      (Sound o s ∧ Listed o s) ∧ InOrder s ∧ s.listed.Nodup) ?_ ?_ hes h
    · refine ⟨⟨sound_init o, listed_init o⟩, ⟨List.Pairwise.nil, by rintro answer ⟨⟩⟩, ?_⟩
      simpa [State.listed, machine, effect] using o.nodup_record _ o.indexItem_mem
    · rintro s e t ⟨⟨hs, hl⟩, hin, hnodup⟩ he hst
      exact ⟨⟨sound_step hs hst, listed_step hs hl hst⟩, inOrder_step hs hl hin he hst,
        (nodup_step_iff hs hl hnodup hst).1 (hin.stepOk e)⟩
  exact hall.2.2

end MilestoneKeys
