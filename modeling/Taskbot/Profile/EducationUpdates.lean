import Mathlib
import Taskbot.Async.Machine
import Taskbot.Js.Heap
import Taskbot.Profile.EducationList

/-!
# Updates of the education list

`updateEducationData` and `deleteEducation` change the list of educations first and send it
then.  What comes back changes the list no more, whatever it is.

* `applied` — the list after an edit; `applied_eq_self_iff`: the edits that leave it alone.
* `Sent` — a request that is not answered, with the list before its edit and the edits
  since.
* `tracks_step` — **the list is always what these edits have made of it.**
* `restored_of_meets` — the list is back at what it was whenever a request fails, when this
  happens only to edits that change nothing.
-/

namespace ProfileSetting

/-! ## One edit -/

/-- The list after an edit: what is posted is the list itself.  Nothing is changed when
nothing is posted. -/
def applied (education : List Education) (edit : Edit) : List Education :=
  (posted education edit).getD education

/-- All the fields that are asked for are filled in. -/
def Education.Complete (e : Education) : Prop :=
  e.title ≠ "" ∧ e.institute ≠ "" ∧ e.description ≠ ""

instance (e : Education) : Decidable e.Complete := inferInstanceAs (Decidable (_ ∧ _))

/-- When an edit leaves the list alone: an entry that is not complete, an index where there
is none, or an entry that is there already. -/
def Idle (education : List Education) : Edit → Prop
  | .update entry none => ¬ entry.Complete
  | .update entry (some i) => entry.Complete → ∀ e ∈ education[i]?, e = entry
  | .delete index => education.length ≤ index

instance (education : List Education) (edit : Edit) : Decidable (Idle education edit) := by
  unfold Idle
  split <;> infer_instance

/-- **The edits that change nothing.** -/
theorem applied_eq_self_iff (education : List Education) (edit : Edit) :
    applied education edit = education ↔ Idle education edit := by
  cases edit with
  | update entry educationIndex =>
    have hposted : entry.Complete ↔ entry.title ≠ "" ∧ entry.institute ≠ "" ∧
      entry.description ≠ "" := Iff.rfl
    by_cases hcomplete : entry.Complete
    · cases educationIndex with
      | none =>
        have happlied : applied education (.update entry none) = education ++ [entry] := by
          rw [applied, posted, if_pos (hposted.1 hcomplete)]
          rfl
        rw [happlied, Idle]
        exact iff_of_false (Js.append_singleton_ne_self education entry) (not_not.2 hcomplete)
      | some i =>
        rw [applied, posted, if_pos (hposted.1 hcomplete), Idle]
        simp only [hcomplete, forall_true_left]
        by_cases hi : i < education.length
        · rw [if_pos hi, Option.getD_some, List.set_eq_modify, Js.modify_eq_self_iff]
          exact forall₂_congr fun _ _ => eq_comm
        · rw [if_neg hi, List.getElem?_eq_none (not_lt.1 hi)]
          simp
    · have happlied : applied education (.update entry educationIndex) = education := by
        rw [applied, posted.eq_def]
        simp only [if_neg (mt hposted.2 hcomplete), Option.getD_none]
      rw [happlied]
      refine iff_of_true rfl ?_
      cases educationIndex with
      | none => exact hcomplete
      | some i => exact fun h => absurd h hcomplete
  | delete index =>
    show education.eraseIdx index = education ↔ education.length ≤ index
    constructor
    · intro h
      by_contra hlt
      exact Js.eraseIdx_ne_self (not_le.1 hlt) h
    · exact List.eraseIdx_of_length_le

/-! ## The requests -/

/-- A request `update-education` that is not answered.  Its fields are a history for the
statements only: the list before its edit, and the edits that were posted since, its own
among them. -/
structure Sent where
  before : List Education
  edits : List Edit
  deriving DecidableEq

/-- The answer to a request. -/
inductive UpdateReply where
  | success
  | error
  | failure
  deriving DecidableEq

/-- The list, and the requests. -/
structure Updates where
  education : List Education
  inFlight : List Sent
  deriving DecidableEq

/-- What can happen. -/
inductive UpdateEvent where
  /-- `updateEducationData` or `deleteEducation`. -/
  | operate (edit : Edit)
  /-- The request at place `i` of those in flight is answered, or it fails. -/
  | reply (i : ℕ) (r : UpdateReply)
  deriving DecidableEq

/-- An edit: the list is changed, and sent. -/
def operate (s : Updates) (edit : Edit) : Updates :=
  match posted s.education edit with
  | none => s
  | some education =>
    { education
      inFlight := s.inFlight.map (fun q => { q with edits := q.edits ++ [edit] }) ++
        [⟨s.education, [edit]⟩] }

/-- One event.  The handlers of the answers close the sheet and empty its fields, or show an
alert; the list is left as it is. -/
def updateStep (s : Updates) : UpdateEvent → Option Updates
  | .operate edit => some (operate s edit)
  | .reply i _ => s.inFlight[i]?.map fun _ => { s with inFlight := s.inFlight.eraseIdx i }

/-- The screen with a list that has been loaded. -/
def updateMachine (education : List Education) : Async.Machine Updates UpdateEvent :=
  ⟨⟨education, []⟩, updateStep⟩

/-! ## What the list is -/

/-- The list is what the edits since a request was sent have made of the list before. -/
def Tracks (s : Updates) : Prop :=
  ∀ q ∈ s.inFlight, s.education = q.edits.foldl applied q.before

theorem tracks_init (education : List Education) : Tracks (updateMachine education).init :=
  fun _ hq => absurd hq List.not_mem_nil

theorem tracks_operate {s : Updates} (hs : Tracks s) (edit : Edit) : Tracks (operate s edit) := by
  unfold operate
  cases hposted : posted s.education edit with
  | none => exact hs
  | some education =>
    have happlied : education = applied s.education edit := by
      rw [applied, hposted, Option.getD_some]
    intro q hq
    show education = _
    rcases List.mem_append.1 hq with hq | hq
    · obtain ⟨p, hp, rfl⟩ := List.mem_map.1 hq
      rw [List.foldl_concat, ← hs p hp, happlied]
    · obtain rfl := List.mem_singleton.1 hq
      exact happlied

/-- **What the edits have made.** -/
theorem tracks_step {s t : Updates} {e : UpdateEvent} (hs : Tracks s)
    (h : updateStep s e = some t) : Tracks t := by
  cases e with
  | operate edit =>
    cases h
    exact tracks_operate hs edit
  | reply i r =>
    obtain ⟨q, -, rfl⟩ := Option.map_eq_some_iff.1 h
    exact fun p hp => hs p (List.mem_of_mem_eraseIdx hp)

/-! ## When a failure leaves no trace -/

/-- Edits that change nothing in a list, one after another. -/
theorem foldl_applied_of_idle {education : List Education} {edits : List Edit}
    (h : ∀ edit ∈ edits, Idle education edit) : edits.foldl applied education = education := by
  induction edits with
  | nil => rfl
  | cons edit edits ih =>
    rw [List.foldl_cons, (applied_eq_self_iff education edit).2 (h edit List.mem_cons_self)]
    exact ih fun edit hedit => h edit (List.mem_cons_of_mem _ hedit)

/-- What a step must meet: a request fails only when its own edit, and each one posted since,
changes nothing in the list it found: it writes an entry as this is already, or deletes one
where there is none.  An addition that has been posted is never one of these. -/
def UpdateOk (s : Updates) : UpdateEvent → Prop
  | .operate _ => True
  | .reply i r => r ≠ .success → ∀ q ∈ s.inFlight[i]?, ∀ edit ∈ q.edits, Idle q.before edit

instance (s : Updates) (e : UpdateEvent) : Decidable (UpdateOk s e) := by
  cases e <;> unfold UpdateOk <;> infer_instance

/-- The list is back at what it was when the request at place `i` has been answered. -/
def Restored (i : ℕ) (s t : Updates) : Prop :=
  ∀ q ∈ s.inFlight[i]?, t.education = q.before

/-- Nothing has been posted since the request at place `i`. -/
def Latest (i : ℕ) (s : Updates) : Prop :=
  ∀ q ∈ s.inFlight[i]?, q.edits.length = 1

/-- A failure that meets the condition leaves no trace. -/
theorem restored_of_updateOk {s t : Updates} {i : ℕ} {r : UpdateReply} (hs : Tracks s)
    (h : updateStep s (.reply i r) = some t) (hr : r ≠ .success)
    (hok : UpdateOk s (.reply i r)) : Restored i s t := by
  obtain ⟨p, hp, rfl⟩ := Option.map_eq_some_iff.1 h
  intro q hq
  have hidle : ∀ edit ∈ q.edits, Idle q.before edit := hok hr q hq
  calc s.education = q.edits.foldl applied q.before := hs q (List.mem_of_getElem? hq)
    _ = q.before := foldl_applied_of_idle hidle

/-- Of the request that was posted last, no other failure does. -/
theorem updateOk_of_restored {s t : Updates} {i : ℕ} {r : UpdateReply} (hs : Tracks s)
    (h : updateStep s (.reply i r) = some t) (hlatest : Latest i s) (hrestored : Restored i s t) :
    UpdateOk s (.reply i r) := by
  obtain ⟨p, hp, rfl⟩ := Option.map_eq_some_iff.1 h
  intro _ q hq
  obtain ⟨edit, hedits⟩ := List.length_eq_one_iff.1 (hlatest q hq)
  have hlist : s.education = q.edits.foldl applied q.before := hs q (List.mem_of_getElem? hq)
  have happlied : applied q.before edit = q.before := by
    rw [hedits, List.foldl_cons, List.foldl_nil] at hlist
    exact hlist.symm.trans (hrestored q hq)
  rw [hedits]
  simpa using (applied_eq_self_iff q.before edit).1 happlied

/-- **When updates are atomic.**  For every list, in a run of additions, edits, deletions
and answers in any order in which a request fails only when neither its operation nor one
posted since changes anything, the list is what it was before an operation whenever this is
answered with an error or fails.  Of an operation that was posted last nothing less will
do. -/
theorem restored_of_meets (education : List Education) (es : List UpdateEvent) :
    ((updateMachine education).Meets UpdateOk es →
      ∀ fs i r, fs ++ [.reply i r] <+: es → r ≠ .success → ∀ t u,
        (updateMachine education).run fs = some t →
          (updateMachine education).run (fs ++ [.reply i r]) = some u → Restored i t u) ∧
    ∀ i r, r ≠ .success → ∀ t u, (updateMachine education).run es = some t →
      (updateMachine education).run (es ++ [.reply i r]) = some u →
        Latest i t → (Restored i t u ↔ UpdateOk t (.reply i r)) := by
  have htracks : ∀ {fs : List UpdateEvent} {t : Updates},
      (updateMachine education).run fs = some t → Tracks t :=
    fun hfs => (updateMachine education).invariant_run (tracks_init education)
      (fun _ _ _ => tracks_step) hfs
  have hlast : ∀ {fs : List UpdateEvent} {e : UpdateEvent} {t u : Updates},
      (updateMachine education).run fs = some t →
        (updateMachine education).run (fs ++ [e]) = some u → updateStep t e = some u := by
    intro fs e t u ht hu
    obtain ⟨t', ht', htu⟩ := (updateMachine education).run_concat_eq_some.1 hu
    cases ht.symm.trans ht'
    exact htu
  constructor
  · intro hok fs i r hfs hr t u ht hu
    have hreply : UpdateOk t (.reply i r) :=
      (updateMachine education).meets_iff_forall.1 hok fs _ hfs t ht
    exact restored_of_updateOk (htracks ht) (hlast ht hu) hr hreply
  · intro i r hr t u ht hu hlatest
    exact ⟨updateOk_of_restored (htracks ht) (hlast ht hu) hlatest,
      restored_of_updateOk (htracks ht) (hlast ht hu) hr⟩

/-- An education. -/
def mathematics : Education := ⟨"Mathematics", "Home", "1828-01-01", "1834-01-01", "Tutored"⟩

/-- An edit that writes what is there fails, and an addition succeeds. -/
theorem restored_of_meets_sample :
    ∃ t u, (updateMachine [mathematics]).run [.operate (.update mathematics (some 0))] = some t ∧
      (updateMachine [mathematics]).run
        [.operate (.update mathematics (some 0)), .reply 0 .failure] = some u ∧
      Restored 0 t u := by
  have hok : (updateMachine [mathematics]).Meets UpdateOk
      [.operate (.update mathematics (some 0)), .reply 0 .failure,
        .operate (.update mathematics none), .reply 0 .success] := by decide
  refine ⟨_, _, rfl, rfl, ?_⟩
  have hprefix : ([.operate (.update mathematics (some 0))] : List UpdateEvent) ++
      [.reply 0 .failure] <+: [.operate (.update mathematics (some 0)), .reply 0 .failure,
        .operate (.update mathematics none), .reply 0 .success] :=
    ⟨[.operate (.update mathematics none), .reply 0 .success], rfl⟩
  exact (restored_of_meets _ _).1 hok _ 0 .failure hprefix (by decide) _ _ rfl rfl

/-- **An education twice.**  An addition fails, and is made again: the list has the new
education twice, and so does what is sent. -/
theorem added_twice :
    ∃ s, (updateMachine []).run [.operate (.update mathematics none), .reply 0 .error] = some s ∧
      s.education = [mathematics] ∧
      posted s.education (.update mathematics none) = some [mathematics, mathematics] :=
  ⟨_, rfl, rfl, rfl⟩

end ProfileSetting
