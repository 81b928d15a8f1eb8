import Mathlib
import Taskbot.Projects.PostProject

/-!
# The id of a project draft

The id of the project being posted lives in `postedItemOne`, and every request of the
wizard reads it from there.

* `Assumed`, `careful` — each save is answered before the next one is sent, and the server
  answers a save with the id it carries, or with a new one when it carries none.
* `Identified` — every request of a draft carries the id returned first for it, and `null`
  before there is one.
* `Inv` — what the store has to do with the draft.
* `identified_iff` — **the requests are identified if and only if** no save is sent over
  an item whose id was not returned for the draft, and no answer to a second step comes to
  another draft.
-/

namespace PostProject

open Async

/-! ## The runs considered -/

/-- How the server answers an accepted save. -/
def ServerAnswers (s : State) (q : Save) (post_id : ℕ) : Prop :=
  match q.project_id with
  | .null => post_id ∉ s.issued.map Prod.snd
  | .undefined => True
  | .id n => post_id = n

/-- Saves are sent one at a time, and the server answers as it should. -/
def Assumed (s : State) : Event → Prop
  | .saveStepOne _ | .saveStepTwo _ => s.inFlight = []
  | .reply i (.success post_id) => ∀ q ∈ s.inFlight[i]?, ServerAnswers s q post_id
  | _ => True

instance (s : State) (q : Save) (post_id : ℕ) : Decidable (ServerAnswers s q post_id) := by
  unfold ServerAnswers
  split <;> infer_instance

instance (s : State) (e : Event) : Decidable (Assumed s e) := by
  unfold Assumed
  split <;> infer_instance

/-- The wizard, in such runs. -/
def careful (entry : Entry) : Machine State Event :=
  ⟨(machine entry).init, fun s e => if Assumed s e then step s e else none⟩

/-! ## The ids that should be sent -/

/-- The marker of a draft: the id returned first for it. -/
def Marker.expected : Option ℕ → Marker
  | none => .null
  | some n => .id n

/-- Every request carries the id returned first for its draft, `null` before there is one,
and no two drafts share one. -/
structure Identified (s : State) : Prop where
  marker : ∀ r ∈ s.sent, r.project_id = .expected r.returned
  own : ∀ r ∈ s.sent, ∀ r' ∈ s.sent, ∀ n, r.project_id = .id n → r'.project_id = .id n →
    r.draft = r'.draft

/-- What a step must meet: a save is sent over nothing, or over an item whose id was
returned for the draft; and an answer to the second step comes to its draft. -/
def StepOk (s : State) : Event → Prop
  | .saveStepOne _ | .saveStepTwo _ =>
    ∀ item ∈ s.postedItemOne, item.ID ≠ none ∧ s.returned ≠ none
  | .reply i (.success _) => ∀ q ∈ s.inFlight[i]?, ∀ item, q.form = .two item → q.draft = s.draft
  | _ => True

instance (s : State) (q : Save) : Decidable (∀ item, q.form = .two item → q.draft = s.draft) :=
  match q.form with
  | .one _ => isTrue (by simp)
  | .two item => decidable_of_iff (q.draft = s.draft) (by simp)

instance (s : State) (e : Event) : Decidable (StepOk s e) := by
  unfold StepOk
  split <;> infer_instance

/-- A save on its way, in a run as it should be. -/
structure Flight (s : State) (q : Save) : Prop where
  draft_le : q.draft ≤ s.draft
  marker_ne : q.project_id ≠ .undefined
  issued : ∀ n, q.project_id = .id n → (q.draft, n) ∈ s.issued
  /-- A save of this draft carries what it should. -/
  marker : q.draft = s.draft → q.project_id = .expected s.returned
  /-- The second step of this draft comes after an id was returned. -/
  two : q.draft = s.draft → ∀ item, q.form = .two item → s.returned ≠ none
  /-- Once an id was returned for this draft, no save of an earlier one is on its way. -/
  own : s.returned ≠ none → q.draft = s.draft

/-- What the store has to do with the draft. -/
structure Inv (s : State) : Prop where
  one : s.inFlight.length ≤ 1
  flight : ∀ q ∈ s.inFlight, Flight s q
  item : ∀ n, s.returned = some n → s.postedItemOne.bind ItemOne.ID = some n
  issued : ∀ n, s.returned = some n → (s.draft, n) ∈ s.issued
  posted : s.step ≠ 0 → s.postedItemOne ≠ none
  last : s.step = 2 → s.returned ≠ none
  unique : ∀ d d' n, (d, n) ∈ s.issued → (d', n) ∈ s.issued → d = d'
  sent : ∀ r ∈ s.sent, ∀ n, r.returned = some n → (r.draft, n) ∈ s.issued

/-! ## What a request says -/

@[simp] theorem expected_none : Marker.expected none = .null := rfl

@[simp] theorem expected_some (n : ℕ) : Marker.expected (some n) = .id n := rfl

theorem ofID_ne_null (o : Option ℕ) : Marker.ofID o ≠ .null := by
  cases o <;> simp [Marker.ofID]

/-- With an id returned for the draft, both readings of the store are that id. -/
theorem ID_eq {s : State} (hs : Inv s) {n : ℕ} (hn : s.returned = some n) : s.ID = .id n := by
  rw [State.ID, hs.item n hn]
  rfl

theorem marker_eq {s : State} (hs : Inv s) {n : ℕ} (hn : s.returned = some n) :
    s.marker = .id n := by
  obtain ⟨item, hitem, hID⟩ := Option.bind_eq_some_iff.1 (hs.item n hn)
  rw [State.marker, hitem]
  simp [hID, Marker.ofID]

/-- The marker of a save is right exactly when the item posted is none, or one whose id
was returned for the draft. -/
theorem marker_eq_expected_iff {s : State} (hs : Inv s) :
    s.marker = .expected s.returned ↔
      ∀ item ∈ s.postedItemOne, item.ID ≠ none ∧ s.returned ≠ none := by
  cases hreturned : s.returned with
  | some n =>
    obtain ⟨item, hitem, hID⟩ := Option.bind_eq_some_iff.1 (hs.item n hreturned)
    rw [marker_eq hs hreturned]
    simp [hitem, hID]
  | none =>
    cases hitem : s.postedItemOne with
    | none => simp [State.marker, hitem]
    | some item => simp [State.marker, hitem, ofID_ne_null]

/-- One more request keeps the others identified; it has to be right itself. -/
theorem marker_record_iff {s : State} (hs : ∀ r ∈ s.sent, r.project_id = .expected r.returned)
    (kind : Kind) (project_id : Marker) :
    (∀ r ∈ (record s kind project_id).sent, r.project_id = .expected r.returned) ↔
      project_id = .expected s.returned := by
  constructor
  · intro h
    exact h ⟨kind, project_id, s.draft, s.returned⟩ (by simp [record])
  · intro h r hr
    rcases List.mem_append.1 hr with hr | hr
    · exact hs r hr
    · rw [List.mem_singleton.1 hr]
      exact h

/-- With right markers, no two drafts share an id. -/
theorem identified_iff_marker {s : State} (hs : Inv s) :
    Identified s ↔ ∀ r ∈ s.sent, r.project_id = .expected r.returned := by
  constructor
  · exact fun h => h.marker
  · intro hmarker
    refine ⟨hmarker, fun r hr r' hr' n hid hid' => ?_⟩
    have hreturned : ∀ q ∈ s.sent, q.project_id = .id n → q.returned = some n := by
      intro q hq hqid
      have hexpected := hmarker q hq
      rw [hqid] at hexpected
      cases hq' : q.returned with
      | none => simp [hq'] at hexpected
      | some m => simpa [hq'] using hexpected.symm
    exact hs.unique _ _ n (hs.sent r hr n (hreturned r hr hid))
      (hs.sent r' hr' n (hreturned r' hr' hid'))

/-! ## Keeping the invariant -/

theorem inv_record {s : State} (hs : Inv s) (kind : Kind) (project_id : Marker) :
    Inv (record s kind project_id) := by
  refine ⟨hs.one, fun q hq => ?_, hs.item, hs.issued, hs.posted, hs.last, hs.unique, ?_⟩
  · obtain ⟨hle, hne, hissued, hmarker, htwo, hown⟩ := hs.flight q hq
    exact ⟨hle, hne, hissued, hmarker, htwo, hown⟩
  · intro r hr n hn
    rcases List.mem_append.1 hr with hr | hr
    · exact hs.sent r hr n hn
    · rw [List.mem_singleton.1 hr] at hn ⊢
      exact hs.issued n hn

theorem inv_mounted {s : State} (hs : Inv s) (m : Mounted) : Inv { s with mounted := m } := by
  refine ⟨hs.one, fun q hq => ?_, hs.item, hs.issued, hs.posted, hs.last, hs.unique, hs.sent⟩
  obtain ⟨hle, hne, hissued, hmarker, htwo, hown⟩ := hs.flight q hq
  exact ⟨hle, hne, hissued, hmarker, htwo, hown⟩

theorem inv_updateStep {s : State} {k : ℕ} (hs : Inv { s with step := k }) :
    Inv (updateStep s k) := by
  unfold updateStep
  split
  · rename_i hk
    subst hk
    exact hs
  · unfold mount
    dsimp only
    split
    · exact inv_record (inv_mounted hs _) _ _
    · exact inv_mounted hs _

theorem inv_enter {s : State} (hs : Inv s) (entry : Entry) : Inv (enter s entry) := by
  refine ⟨hs.one, fun q hq => ?_, fun n hn => (nomatch hn), fun n hn => (nomatch hn),
    fun hne => absurd rfl hne, fun hstep => (nomatch hstep), hs.unique, hs.sent⟩
  obtain ⟨hle, hne, hissued, -, -, -⟩ := hs.flight q hq
  have hold : q.draft ≠ (enter s entry).draft := by
    show q.draft ≠ s.draft + 1
    omega
  exact ⟨hle.trans (Nat.le_succ _), hne, hissued, fun h => absurd h hold,
    fun h => absurd h hold, fun h => absurd rfl h⟩

theorem inv_save {s : State} (hs : Inv s) (hnone : s.inFlight = []) {form : Form}
    (hmarker : s.marker = .expected s.returned)
    (htwo : ∀ item, form = .two item → s.returned ≠ none) : Inv (save s form) := by
  refine inv_record (s := { s with
    mounted := s.mounted.start
    inFlight := s.inFlight ++ [⟨form, s.marker, s.mounted.serial, s.draft⟩] }) ?_ _ _
  refine ⟨by simp [hnone], fun q hq => ?_, hs.item, hs.issued, hs.posted, hs.last, hs.unique,
    hs.sent⟩
  rw [hnone, List.nil_append] at hq
  obtain rfl := List.mem_singleton.1 hq
  refine ⟨Nat.le_refl _, ?_, fun n hn => ?_, fun _ => hmarker, fun _ => htwo, fun _ => rfl⟩
  · show s.marker ≠ .undefined
    rw [hmarker]
    cases s.returned <;> simp
  · refine hs.issued n ?_
    have hid : s.marker = .id n := hn
    rw [hmarker] at hid
    cases hreturned : s.returned with
    | none => simp [hreturned] at hid
    | some m => simpa [hreturned] using hid

/-- A save answered was the only one on its way. -/
theorem inFlight_eraseIdx {s : State} (hs : Inv s) {i : ℕ} {q : Save}
    (hq : s.inFlight[i]? = some q) : s.inFlight.eraseIdx i = [] := by
  have hlen := length_eraseIdx_add_one hq
  have hone := hs.one
  exact (eraseIdx_eq_nil_iff hq).2 (by omega)

/-- The invariant with nothing on its way. -/
theorem inv_answered {s : State} (hs : Inv s) {i : ℕ} {q : Save} (hq : s.inFlight[i]? = some q)
    (m : Mounted) : Inv { s with inFlight := s.inFlight.eraseIdx i, mounted := m } := by
  rw [inFlight_eraseIdx hs hq]
  exact ⟨Nat.zero_le 1, fun q hq => (nomatch hq), hs.item, hs.issued, hs.posted, hs.last,
    hs.unique, hs.sent⟩

/-- **What a success returns** for the draft that is open: the id of its save, for one it
was sent for, and nothing for another. -/
theorem returned_issue {s : State} {q : Save} (hflight : Flight s q) {post_id : ℕ}
    (hserver : ServerAnswers s q post_id) :
    (issue s q.draft post_id).returned = if q.draft = s.draft then some post_id else none := by
  unfold issue
  dsimp only
  split
  · rename_i hdraft
    have hmarker := hflight.marker hdraft
    cases hreturned : s.returned with
    | none => rfl
    | some n =>
      rw [hreturned, expected_some] at hmarker
      rw [ServerAnswers, hmarker] at hserver
      rw [hserver]
      rfl
  · rename_i hdraft
    by_contra hne
    exact hdraft (hflight.own hne)

/-- The id returned is new, or that of the draft already. -/
theorem unique_issue {s : State} (hs : Inv s) {q : Save} (hflight : Flight s q) {post_id : ℕ}
    (hserver : ServerAnswers s q post_id) {d : ℕ} (hd : (d, post_id) ∈ s.issued) :
    d = q.draft := by
  unfold ServerAnswers at hserver
  cases hmarker : q.project_id with
  | undefined => exact absurd hmarker hflight.marker_ne
  | null =>
    rw [hmarker] at hserver
    exact absurd (List.mem_map.2 ⟨_, hd, rfl⟩) hserver
  | id n =>
    rw [hmarker] at hserver
    subst hserver
    exact hs.unique _ _ _ hd (hflight.issued _ hmarker)

/-- The ids returned, with one more. -/
theorem unique_issued {s : State} (hs : Inv s) {q : Save} (hflight : Flight s q) {post_id : ℕ}
    (hserver : ServerAnswers s q post_id) (d d' n : ℕ)
    (hd : (d, n) ∈ (issue s q.draft post_id).issued)
    (hd' : (d', n) ∈ (issue s q.draft post_id).issued) : d = d' := by
  have hcases : ∀ c, (c, n) ∈ (issue s q.draft post_id).issued →
      (c, n) ∈ s.issued ∨ (c = q.draft ∧ n = post_id) := by
    intro c hc
    rcases List.mem_append.1 hc with hc | hc
    · exact Or.inl hc
    · exact Or.inr (Prod.mk.injEq .. ▸ List.mem_singleton.1 hc)
  rcases hcases d hd with hold | ⟨rfl, rfl⟩ <;> rcases hcases d' hd' with hold' | ⟨rfl, hn⟩
  · exact hs.unique _ _ _ hold hold'
  · subst hn
    exact unique_issue hs hflight hserver hold
  · exact (unique_issue hs hflight hserver hold').symm
  · rfl

theorem mem_issued_issue {s : State} {draft post_id : ℕ} {p : ℕ × ℕ} (hp : p ∈ s.issued) :
    p ∈ (issue s draft post_id).issued :=
  List.mem_append_left _ hp

/-- A success of the first step, of this draft or of another. -/
theorem inv_saved_one {s : State} (hs : Inv s) (hnone : s.inFlight = []) {q : Save}
    (hflight : Flight s q) {post_id : ℕ} (hserver : ServerAnswers s q post_id)
    (fields : FieldsOne) : Inv (saved (issue s q.draft post_id) post_id (.one fields)) := by
  have hreturned := returned_issue hflight hserver
  -- what is returned for this draft is what is posted
  have hown : ∀ n, (issue s q.draft post_id).returned = some n → q.draft = s.draft ∧ n = post_id := by
    intro n hn
    rw [hreturned] at hn
    obtain ⟨hdraft, hn⟩ := Option.ite_none_right_eq_some.1 hn
    exact ⟨hdraft, (Option.some.inj hn).symm⟩
  refine inv_updateStep ⟨?_, ?_, ?_, ?_, ?_, ?_, ?_, ?_⟩
  · show s.inFlight.length ≤ 1
    simp [hnone]
  · intro q' hq'
    have hmem : q' ∈ s.inFlight := hq'
    rw [hnone] at hmem
    cases hmem
  · intro n hn
    rw [(hown n hn).2]
    rfl
  · intro n hn
    obtain ⟨hdraft, rfl⟩ := hown n hn
    show (s.draft, n) ∈ (issue s q.draft n).issued
    rw [← hdraft]
    exact List.mem_append_right _ (List.mem_singleton_self _)
  · exact fun _ => Option.some_ne_none _
  · exact fun hstep => (nomatch hstep)
  · exact unique_issued hs hflight hserver
  · exact fun r hr n hn => mem_issued_issue (hs.sent r hr n hn)

/-- A success of the second step of this draft. -/
theorem inv_saved_two {s : State} (hs : Inv s) (hnone : s.inFlight = []) {q : Save}
    (hflight : Flight s q) (hdraft : q.draft = s.draft) {post_id : ℕ}
    (hserver : ServerAnswers s q post_id) {item : ItemTwo} (htwo : q.form = .two item) :
    (issue s q.draft post_id).returned = s.returned ∧
      Inv (saved (issue s q.draft post_id) post_id (.two item)) := by
  have hne := hflight.two hdraft item htwo
  obtain ⟨n, hn⟩ := Option.ne_none_iff_exists'.1 hne
  have hsame : (issue s q.draft post_id).returned = s.returned := by
    rw [issue, if_pos hdraft, hn]
    rfl
  refine ⟨hsame, inv_updateStep ⟨?_, ?_, ?_, ?_, ?_, ?_, ?_, ?_⟩⟩
  · show s.inFlight.length ≤ 1
    simp [hnone]
  · intro q' hq'
    have hmem : q' ∈ s.inFlight := hq'
    rw [hnone] at hmem
    cases hmem
  · intro m hm
    exact hs.item m (hsame.symm.trans hm)
  · intro m hm
    exact mem_issued_issue (hs.issued m (hsame.symm.trans hm))
  · intro _ hitem
    have := hs.item n hn
    rw [show s.postedItemOne = none from hitem] at this
    cases this
  · intro _ hnil
    exact hne (hsame.symm.trans hnil)
  · exact unique_issued hs hflight hserver
  · exact fun r hr m hm => mem_issued_issue (hs.sent r hr m hm)

/-! ## One step -/

/-- Showing a step sends nothing, but for the last one. -/
theorem marker_updateStep_iff {s : State}
    (hs : ∀ r ∈ s.sent, r.project_id = .expected r.returned) (k : ℕ) :
    (∀ r ∈ (updateStep s k).sent, r.project_id = .expected r.returned) ↔
      (k = 2 → s.step ≠ 2 → s.ID = .expected s.returned) := by
  unfold updateStep
  split
  · rename_i hk
    refine iff_of_true hs fun htwo hne => absurd (hk.symm.trans htwo) hne
  · rename_i hk
    unfold mount
    dsimp only
    split
    · rename_i htwo
      refine (marker_record_iff (s := { s with step := k, mounted := s.mounted.replace }) hs
        _ _).trans ?_
      constructor
      · exact fun h _ _ => h
      · intro h
        exact h htwo fun hstep => hk (htwo.trans hstep.symm)
    · rename_i htwo
      exact iff_of_true hs fun hk' => absurd hk' htwo

/-- A success, with the save it answers already taken out. -/
theorem success_iff {s : State} (hs : Inv s) (hnone : s.inFlight = [])
    (hsent : ∀ r ∈ s.sent, r.project_id = .expected r.returned) {q : Save} (hflight : Flight s q)
    {post_id : ℕ} (hserver : ServerAnswers s q post_id) :
    ((∀ item, q.form = .two item → q.draft = s.draft) →
      Inv (saved (issue s q.draft post_id) post_id q.form)) ∧
    ((∀ item, q.form = .two item → q.draft = s.draft) ↔
      ∀ r ∈ (saved (issue s q.draft post_id) post_id q.form).sent,
        r.project_id = .expected r.returned) := by
  cases hform : q.form with
  | one fields =>
    refine ⟨fun _ => inv_saved_one hs hnone hflight hserver fields,
      iff_of_true (fun item hitem => (nomatch hitem)) ?_⟩
    exact (marker_updateStep_iff (s := { issue s q.draft post_id with
      postedItemOne := some ⟨some post_id, fields⟩ }) hsent 1).2 fun h => (nomatch h)
  | two item =>
    have hiff := marker_updateStep_iff (s := { issue s q.draft post_id with
      postedItemTwo := some item }) hsent 2
    refine ⟨fun hok => ?_, fun hok => ?_, fun hall => ?_⟩
    · exact (inv_saved_two hs hnone hflight (hok item rfl) hserver hform).2
    · have hdraft := hok item rfl
      refine hiff.2 fun _ _ => ?_
      obtain ⟨n, hn⟩ := Option.ne_none_iff_exists'.1 (hflight.two hdraft item hform)
      show s.ID = .expected (issue s q.draft post_id).returned
      rw [(inv_saved_two hs hnone hflight hdraft hserver hform).1, hn]
      exact ID_eq hs hn
    · intro _ _
      by_contra hdraft
      -- the wizard has no id for this draft, and its last step asks for freelancers
      have hnil : s.returned = none := by
        by_contra hne
        exact hdraft (hflight.own hne)
      have hreturned : (issue s q.draft post_id).returned = none := by
        rw [returned_issue hflight hserver, if_neg hdraft]
      have hmarker : s.ID = .expected (issue s q.draft post_id).returned :=
        hiff.1 hall rfl fun hstep => hs.last hstep hnil
      rw [hreturned, expected_none] at hmarker
      exact ofID_ne_null _ hmarker

/-- A save, sent with nothing on its way. -/
theorem save_iff {s : State} (hs : Inv s) (hnone : s.inFlight = [])
    (hsent : ∀ r ∈ s.sent, r.project_id = .expected r.returned) {form : Form}
    (hform : ∀ item, form = .two item → s.postedItemOne ≠ none) :
    ((∀ item ∈ s.postedItemOne, item.ID ≠ none ∧ s.returned ≠ none) → Inv (save s form)) ∧
    ((∀ item ∈ s.postedItemOne, item.ID ≠ none ∧ s.returned ≠ none) ↔
      ∀ r ∈ (save s form).sent, r.project_id = .expected r.returned) := by
  have hrecord := marker_record_iff (s := { s with
    mounted := s.mounted.start
    inFlight := s.inFlight ++ [⟨form, s.marker, s.mounted.serial, s.draft⟩] })
    hsent .updateJob s.marker
  refine ⟨fun hok => ?_, (marker_eq_expected_iff hs).symm.trans hrecord.symm⟩
  refine inv_save hs hnone ((marker_eq_expected_iff hs).2 hok) fun item hitem => ?_
  obtain ⟨posted, hposted⟩ := Option.ne_none_iff_exists'.1 (hform item hitem)
  exact (hok posted hposted).2

/-- **One step.**  A step that is as it must be keeps the invariant, and the requests
identified; no other one keeps them identified. -/
theorem step_iff {entry : Entry} {s t : State} {e : Event} (hs : Inv s)
    (hsent : ∀ r ∈ s.sent, r.project_id = .expected r.returned)
    (h : (careful entry).step s e = some t) :
    (StepOk s e → Inv t) ∧
      (StepOk s e ↔ ∀ r ∈ t.sent, r.project_id = .expected r.returned) := by
  obtain ⟨hassumed, hstep⟩ := Option.ite_none_right_eq_some.1 h
  cases e with
  | enter entry =>
    cases hstep
    exact ⟨fun _ => inv_enter hs entry, iff_of_true trivial hsent⟩
  | saveStepOne fields =>
    obtain ⟨-, ⟨⟩⟩ := Option.ite_none_right_eq_some.1 hstep
    exact save_iff hs hassumed hsent fun item hitem => (nomatch hitem)
  | saveStepTwo item =>
    obtain ⟨hone, ⟨⟩⟩ := Option.ite_none_right_eq_some.1 hstep
    exact save_iff hs hassumed hsent fun _ _ => hs.posted (by rw [hone]; exact one_ne_zero)
  | goBack =>
    obtain ⟨-, ⟨⟩⟩ := Option.ite_none_right_eq_some.1 hstep
    refine ⟨fun _ => inv_updateStep ?_, iff_of_true trivial ?_⟩
    · refine ⟨hs.one, fun q hq => ?_, hs.item, hs.issued, fun hne => absurd rfl hne,
        fun htwo => (nomatch htwo), hs.unique, hs.sent⟩
      obtain ⟨hle, hne, hissued, hmarker, htwo, hown⟩ := hs.flight q hq
      exact ⟨hle, hne, hissued, hmarker, htwo, hown⟩
    · exact (marker_updateStep_iff hsent 0).2 fun htwo => (nomatch htwo)
  | loadMoreRecommendedFreelancer =>
    obtain ⟨hlast, ⟨⟩⟩ := Option.ite_none_right_eq_some.1 hstep
    obtain ⟨n, hn⟩ := Option.ne_none_iff_exists'.1 (hs.last hlast)
    refine ⟨fun _ => inv_record hs _ _, iff_of_true trivial ((marker_record_iff hsent _ _).2 ?_)⟩
    rw [hn]
    exact ID_eq hs hn
  | sendInvite =>
    obtain ⟨hlast, ⟨⟩⟩ := Option.ite_none_right_eq_some.1 hstep
    obtain ⟨n, hn⟩ := Option.ne_none_iff_exists'.1 (hs.last hlast)
    refine ⟨fun _ => inv_record hs _ _, iff_of_true trivial ((marker_record_iff hsent _ _).2 ?_)⟩
    rw [hn]
    exact marker_eq hs hn
  | reply i r =>
    obtain ⟨q, hq, ⟨⟩⟩ := Option.map_eq_some_iff.1 hstep
    have hinv := inv_answered hs hq (s.mounted.finish q.component)
    cases r with
    | success post_id =>
      have hserver : ServerAnswers s q post_id := hassumed q hq
      obtain ⟨hle, hne, hissued, hmarker, htwo, hown⟩ := hs.flight q (List.mem_of_getElem? hq)
      have hiff := success_iff hinv (inFlight_eraseIdx hs hq) hsent
        ⟨hle, hne, hissued, hmarker, htwo, hown⟩ hserver
      rw [StepOk]
      simp only [hq, Option.mem_def, Option.some.injEq, forall_eq']
      exact hiff
    | error | other | failure => exact ⟨fun _ => hinv, iff_of_true trivial hsent⟩

/-! ## Runs -/

theorem inv_blank : Inv blank := by
  refine ⟨Nat.zero_le 1, ?_, ?_, ?_, fun hne => absurd rfl hne, ?_, ?_, ?_⟩ <;> simp [blank]

/-- **The id of a draft.**  All along a run every request of a draft carries the id
returned first for it, and `null` before, if and only if no save is sent over an item
whose id was not returned for the draft, and no answer to a second step comes to another
draft. -/
theorem identified_iff {entry : Entry} {es : List Event} {s : State}
    (h : (careful entry).run es = some s) :
    (careful entry).Meets StepOk es ↔
      ∀ fs, fs <+: es → ∀ t, (careful entry).run fs = some t → Identified t := by
  have hinit : Inv (careful entry).init := inv_enter inv_blank entry
  have hnone : ∀ r ∈ (careful entry).init.sent, r.project_id = .expected r.returned := by
    intro r hr
    cases hr
  refine (careful entry).meets_iff_of_invariant (I := fun _ => Identified)
    (J := fun s => Inv s ∧ ∀ r ∈ s.sent, r.project_id = .expected r.returned)
    ((identified_iff_marker hinit).2 hnone) ⟨hinit, hnone⟩ ?_ ?_ h
  · rintro s e t ⟨hs, hsent⟩ hok hstep
    obtain ⟨hinv, hiff⟩ := step_iff hs hsent hstep
    exact ⟨hinv hok, hiff.1 hok⟩
  · rintro _ s e t _ ⟨hs, hsent⟩ _ hstep
    obtain ⟨hinv, hiff⟩ := step_iff hs hsent hstep
    exact ⟨fun hok => (identified_iff_marker (hinv hok)).2 (hiff.1 hok),
      fun ht => hiff.2 ht.marker⟩

/-- A form of the first step. -/
def logo : FieldsOne where
  title := "A logo"
  project_type := "fixed"
  min_price := "10"
  max_price := "50"
  duration := "12"
  categories := "3"
  video_url := ""
  location := "remote"
  zipcode := ""
  country := ""
  is_milestone := ""
  details := ""
  attachments := []

/-- A form of the second step. -/
def oneFreelancer : ItemTwo := ⟨"1", "21", [4, 5], [8]⟩

/-- A template. -/
def logoTemplate : Template where
  title := "A logo"
  project_type := "fixed"
  min_price := "10"
  max_price := "50"
  duration := ["12"]
  product_cat := ["3"]
  video_url := ""
  selected_location := "remote"
  zipcode := none
  country := none
  is_milestone := ""
  description := ""
  downloadable_docs := []
  freelancers := "1"
  expertise_level := ["21"]
  skills := [4, 5]
  languages := [8]

/-- A new project: the first step saved twice, then the second, then an invitation. -/
theorem identified_sample :
    ∃ s, (careful .startNewProject).run [.saveStepOne logo, .reply 0 (.success 7), .goBack,
        .saveStepOne logo, .reply 0 (.success 7), .saveStepTwo oneFreelancer,
        .reply 0 (.success 7), .sendInvite] = some s ∧ Identified s := by
  have hok : (careful .startNewProject).Meets StepOk [.saveStepOne logo, .reply 0 (.success 7),
      .goBack, .saveStepOne logo, .reply 0 (.success 7), .saveStepTwo oneFreelancer,
      .reply 0 (.success 7), .sendInvite] := by decide
  exact ⟨_, rfl, (identified_iff rfl).1 hok _ List.prefix_rfl _ rfl⟩

/-- **A template has no id, and a late answer has another one.**  The first save of a draft
from a template says `undefined`; and a draft entered while the save of an earlier one is
on its way says the id of that one. -/
theorem not_identified_sample :
    (∃ s, (careful (.useThisTemplate logoTemplate)).run [.saveStepOne logo] = some s ∧
      s.sent = [⟨.updateJob, .undefined, 1, none⟩] ∧ ¬ Identified s) ∧
    ∃ s, (careful .startNewProject).run [.saveStepOne logo, .enter .startNewProject,
        .reply 0 (.success 7), .saveStepTwo oneFreelancer] = some s ∧
      s.sent = [⟨.updateJob, .null, 1, none⟩, ⟨.updateJob, .id 7, 2, none⟩] ∧
      ¬ Identified s := by
  refine ⟨⟨_, rfl, rfl, fun hs => ?_⟩, _, rfl, rfl, fun hs => ?_⟩
  · exact absurd (hs.marker ⟨.updateJob, .undefined, 1, none⟩ (by decide)) (by decide)
  · exact absurd (hs.marker ⟨.updateJob, .id 7, 2, none⟩ (by decide)) (by decide)

end PostProject
