import Mathlib
import Taskbot.Async.Machine
import Taskbot.Async.SharedText

/-!
# The thread of a dispute

The list of the disputes is loaded once, and a dispute is opened with the object of the list
itself: an accepted reply is pushed onto its comments, which list and page then share.  The
page has one sheet for a reply, a refund and a refusal, and one text for all three.

* `Dispute`, `State`, `step` — the list, the page that is open, its sheet, and the requests.
* `taskPostReply`, `postReply` — the handlers of the answers: for a project the reply is
  pushed, when the page is still there; for a task it is not.
* `Thread`, `thread_iff` — **the comments are those that were loaded and the replies that
  were accepted since, exactly when every reply is accepted for a project and on the page it
  was sent from.**
* `shares`, `drafts_iff` — **each request sends what was typed for it exactly when** nothing
  else was typed into the text since.
-/

namespace Disputes

open Async SharedText

/-! ## The disputes -/

/-- A comment on a dispute. -/
structure Comment where
  message : String
  author_name : String
  author_user_type : String
  avatar : String
  deriving DecidableEq

/-- A dispute of the list. -/
structure Dispute where
  dispute_id : ℕ
  status : String
  /-- `dispute_type`: `project`, or a task. -/
  dispute_type : String
  dispute_comments : List Comment
  deriving DecidableEq

/-- The user: `userInfo` and `profileImage` of the store. -/
structure User where
  user_name : String
  user_type : String
  profileImage : String
  deriving DecidableEq

/-- The buttons that open the sheet; `selectedReply`. -/
inductive ActionType where
  | reply
  | refund
  | decline
  deriving DecidableEq

/-- Is the dispute still open?  Else there are no buttons. -/
def Dispute.isOpen (d : Dispute) : Prop :=
  d.status ≠ "refunded" ∧ d.status ≠ "cancelled" ∧ d.status ≠ "disputed" ∧ d.status ≠ "declined"

instance : DecidablePred Dispute.isOpen := fun d => by
  unfold Dispute.isOpen
  infer_instance

/-- A request on its way.  The last two fields are for the statements and for telling
whether the page is still there. -/
structure Request where
  /-- `project-refund-dispute-reply`, or `update-dispute-comments` for a task. -/
  project : Bool
  dispute_id : ℕ
  comment : Comment
  action_type : ActionType
  /-- The place of the dispute in the list. -/
  dispute : ℕ
  /-- The visit to the page it was sent from. -/
  visit : ℕ
  deriving DecidableEq

/-- What comes back for a request. -/
inductive Reply where
  | success
  | error
  /-- Any other `type`, or the `catch` branch. -/
  | failure
  deriving DecidableEq

/-- A text of the sheet: of a visit to a page, and of a button. -/
abbrev Draft := ℕ × ActionType

/-- The list and the page that is open.  `responseJson` and `accepted`, the replies that were
accepted, with the place of their dispute, are for the statements. -/
structure State where
  disputesList : List Dispute
  emptyDisputeList : Bool
  /-- Has the list been loaded? -/
  loaded : Bool
  /-- The place of the dispute whose page is open. -/
  page : Option ℕ
  /-- How many pages have been opened. -/
  visit : ℕ
  description : SharedText Draft String
  selectedReply : Option ActionType
  sheet : Bool
  loading : Bool
  /-- The `dispute_id` of each order in `availableTaskList`. -/
  availableTaskList : List ℕ
  inFlight : List Request
  responseJson : List Dispute
  accepted : List (ℕ × Comment)

/-- What can happen. -/
inductive Event where
  /-- The reply to `getDisputes`, which is asked for once. -/
  | getDisputes (responseJson : List Dispute)
  /-- A tap on "details". -/
  | openPage (index : ℕ)
  | goBack
  /-- The reply to `getAvailableTask`, on the page that has asked for it. -/
  | getAvailableTask (dispute_ids : List ℕ)
  /-- One of the three buttons. -/
  | openSheet (action_type : ActionType)
  | closeSheet
  | setDescription (body : String)
  /-- The button on the sheet. -/
  | post
  /-- The request at place `i` of those in flight is answered. -/
  | answer (i : ℕ) (r : Reply)

/-- The reply to `getDisputes`. -/
def getDisputes (s : State) (responseJson : List Dispute) : State :=
  if responseJson.length = 0 then { s with emptyDisputeList := true, loaded := true }
  else { s with disputesList := responseJson, responseJson := responseJson, loaded := true }

/-- The page is mounted: its hooks are as at the start. -/
def openPage (s : State) (index : ℕ) : State :=
  { s with
    page := some index
    visit := s.visit + 1
    description := s.description.write (s.visit + 1, .reply) ""
    selectedReply := none
    sheet := false
    loading := false
    availableTaskList := [] }

/-- The three buttons: only "reply" empties the text. -/
def openSheet (s : State) (action_type : ActionType) : State :=
  { s with
    sheet := true
    selectedReply := some action_type
    description :=
      if action_type = .reply then s.description.write (s.visit, .reply) "" else s.description }

/-- The comment that is pushed when a request is accepted. -/
def commentOf (user : User) (description : String) : Comment where
  message := description
  author_name := user.user_name
  author_user_type := user.user_type
  avatar := user.profileImage

/-- A request is sent. -/
def send (user : User) (s : State) (index : ℕ) (project : Bool) (dispute_id : ℕ)
    (action_type : ActionType) : State :=
  { s with
    loading := true
    description := s.description.send (s.visit, action_type)
    inFlight := s.inFlight ++
      [⟨project, dispute_id, commentOf user s.description.text, action_type, index, s.visit⟩] }

/-- `taskPostReply` for a project, and `postReply` for a task, which needs the order. -/
def post (user : User) (s : State) (index : ℕ) (d : Dispute) (action_type : ActionType) : State :=
  if d.dispute_type = "project" then send user s index true d.dispute_id action_type
  else
    match s.availableTaskList with
    | [] => s
    | dispute_id :: _ => send user s index false dispute_id action_type

/-- `dispute_comments.push(…)`, on the object that list and page share. -/
def pushComment (s : State) (index : ℕ) (comment : Comment) : State :=
  { s with
    disputesList := s.disputesList.modify index fun d =>
      { d with dispute_comments := d.dispute_comments ++ [comment] } }

/-- Is the page still there that a request was sent from? -/
def State.Shows (s : State) (q : Request) : Prop := s.page = some q.dispute ∧ s.visit = q.visit

instance (s : State) (q : Request) : Decidable (s.Shows q) := by
  unfold State.Shows
  infer_instance

/-- The handlers of an answer.  When the page is gone, its hooks are too, and
`RBSheetReply.current.close()` is an exception that is caught. -/
def answered (s : State) (q : Request) (r : Reply) : State :=
  if s.Shows q then
    match r with
    | .success =>
      let s := { s with loading := false, sheet := false }
      if q.project then pushComment s q.dispute q.comment else s
    | .error | .failure => { s with loading := false }
  else s

/-- A reply that is accepted is recorded. -/
def record (s : State) (q : Request) (r : Reply) : State :=
  if r = .success then { s with accepted := s.accepted ++ [(q.dispute, q.comment)] } else s

/-- One event.  What is below an open sheet cannot be tapped. -/
def step (user : User) (s : State) : Event → Option State
  | .getDisputes responseJson => if s.loaded then none else some (getDisputes s responseJson)
  | .openPage index =>
    if s.page = none ∧ index < s.disputesList.length then some (openPage s index) else none
  | .goBack =>
    if s.page ≠ none ∧ s.sheet = false then some { s with page := none } else none
  | .getAvailableTask dispute_ids =>
    if s.page = none then none else some { s with availableTaskList := dispute_ids }
  | .openSheet action_type =>
    match s.page.bind fun index => s.disputesList[index]? with
    | none => none
    | some d =>
      if s.sheet = false ∧ d.isOpen ∧ (action_type ≠ .reply → user.user_type = "sellers") then
        some (openSheet s action_type)
      else none
  | .closeSheet => if s.sheet then some { s with sheet := false } else none
  | .setDescription body =>
    match s.selectedReply with
    | none => none
    | some action_type =>
      if s.sheet then
        some { s with description := s.description.write (s.visit, action_type) body }
      else none
  | .post =>
    match s.page, s.page.bind fun index => s.disputesList[index]?, s.selectedReply with
    | some index, some d, some action_type =>
      if s.sheet then some (post user s index d action_type) else none
    | _, _, _ => none
  | .answer i r =>
    s.inFlight[i]?.map fun q =>
      record (answered { s with inFlight := s.inFlight.eraseIdx i } q r) q r

/-- The list, just opened. -/
def machine (user : User) : Machine State Event where
  init :=
    { disputesList := []
      emptyDisputeList := false
      loaded := false
      page := none
      visit := 0
      description := ⟨"", []⟩
      selectedReply := none
      sheet := false
      loading := false
      availableTaskList := []
      inFlight := []
      responseJson := []
      accepted := [] }
  step := step user

/-! ## The thread -/

/-- The replies to a dispute that were accepted. -/
def acceptedFor (accepted : List (ℕ × Comment)) (index : ℕ) : List Comment :=
  (accepted.filter fun p => p.1 = index).map Prod.snd

/-- Each dispute has the comments it was loaded with and the accepted replies to it, in
order. -/
def Thread (s : State) : Prop :=
  ∀ index : ℕ, (s.disputesList[index]?).map Dispute.dispute_comments =
    (s.responseJson[index]?).map fun d => d.dispute_comments ++ acceptedFor s.accepted index

/-- What an event must meet: a reply is accepted for a project, and on the page it was sent
from. -/
def ThreadOk (s : State) : Event → Prop
  | .answer i .success => ∀ q ∈ s.inFlight[i]?, q.project = true ∧ s.Shows q
  | _ => True

instance (s : State) : (e : Event) → Decidable (ThreadOk s e)
  | .answer i .success => inferInstanceAs (Decidable (∀ q ∈ s.inFlight[i]?, _ ∧ _))
  | .answer _ .error | .answer _ .failure | .getDisputes _ | .openPage _ | .goBack
  | .getAvailableTask _ | .openSheet _ | .closeSheet | .setDescription _ | .post => isTrue trivial

/-- The requests name disputes of the list, and before there is one nothing has been
accepted. -/
structure Inv (s : State) : Prop where
  inFlight : ∀ q ∈ s.inFlight, q.dispute < s.disputesList.length
  unloaded : s.loaded = false → s.disputesList = [] ∧ s.accepted = []

/-- The comments, those they were loaded with, and the replies, are the same in both. -/
structure SameThread (s t : State) : Prop where
  disputesList : t.disputesList = s.disputesList
  responseJson : t.responseJson = s.responseJson
  accepted : t.accepted = s.accepted
  loaded : t.loaded = s.loaded

theorem SameThread.iff_thread {s t : State} (h : SameThread s t) : Thread t ↔ Thread s := by
  rw [Thread, Thread, h.disputesList, h.responseJson, h.accepted]

theorem SameThread.inv {s t : State} (h : SameThread s t) (hs : Inv s)
    (hflight : ∀ q ∈ t.inFlight, q ∈ s.inFlight ∨ q.dispute < s.disputesList.length) : Inv t where
  inFlight := by
    intro q hq
    rw [h.disputesList]
    exact (hflight q hq).elim (hs.inFlight q) id
  unloaded := by
    rw [h.loaded, h.disputesList, h.accepted]
    exact hs.unloaded

/-- **Events.**  The list is loaded, a request is answered, or the threads stay as they are
and at most a request for the dispute of the page is sent. -/
theorem step_cases {user : User} {s t : State} {e : Event} (h : step user s e = some t) :
    (∃ responseJson, e = .getDisputes responseJson ∧ s.loaded = false ∧
      t = getDisputes s responseJson) ∨
    (∃ i r q, e = .answer i r ∧ s.inFlight[i]? = some q ∧
      t = record (answered { s with inFlight := s.inFlight.eraseIdx i } q r) q r) ∨
    ((∀ u, ThreadOk u e) ∧ SameThread s t ∧
      ∀ q ∈ t.inFlight, q ∈ s.inFlight ∨ q.dispute < s.disputesList.length) := by
  cases e with
  | getDisputes responseJson =>
    obtain ⟨hloaded, ⟨⟩⟩ := Option.ite_none_left_eq_some.1 h
    exact Or.inl ⟨_, rfl, by simpa using hloaded, rfl⟩
  | answer i r =>
    obtain ⟨q, hq, rfl⟩ := Option.map_eq_some_iff.1 h
    exact Or.inr (Or.inl ⟨i, r, q, rfl, hq, rfl⟩)
  | openPage index =>
    obtain ⟨-, ⟨⟩⟩ := Option.ite_none_right_eq_some.1 h
    exact Or.inr (Or.inr ⟨fun _ => trivial, ⟨rfl, rfl, rfl, rfl⟩, fun _ => Or.inl⟩)
  | goBack =>
    obtain ⟨-, ⟨⟩⟩ := Option.ite_none_right_eq_some.1 h
    exact Or.inr (Or.inr ⟨fun _ => trivial, ⟨rfl, rfl, rfl, rfl⟩, fun _ => Or.inl⟩)
  | getAvailableTask dispute_ids =>
    obtain ⟨-, ⟨⟩⟩ := Option.ite_none_left_eq_some.1 h
    exact Or.inr (Or.inr ⟨fun _ => trivial, ⟨rfl, rfl, rfl, rfl⟩, fun _ => Or.inl⟩)
  | closeSheet =>
    obtain ⟨-, ⟨⟩⟩ := Option.ite_none_right_eq_some.1 h
    exact Or.inr (Or.inr ⟨fun _ => trivial, ⟨rfl, rfl, rfl, rfl⟩, fun _ => Or.inl⟩)
  | openSheet action_type =>
    rw [step] at h
    split at h
    · cases h
    · obtain ⟨-, ⟨⟩⟩ := Option.ite_none_right_eq_some.1 h
      exact Or.inr (Or.inr ⟨fun _ => trivial, ⟨rfl, rfl, rfl, rfl⟩, fun _ => Or.inl⟩)
  | setDescription body =>
    rw [step] at h
    split at h
    · cases h
    · obtain ⟨-, ⟨⟩⟩ := Option.ite_none_right_eq_some.1 h
      exact Or.inr (Or.inr ⟨fun _ => trivial, ⟨rfl, rfl, rfl, rfl⟩, fun _ => Or.inl⟩)
  | post =>
    rw [step] at h
    split at h
    · rename_i index d action_type hpage hd _
      obtain ⟨-, ⟨⟩⟩ := Option.ite_none_right_eq_some.1 h
      rw [hpage, Option.bind_some] at hd
      have hlt := (List.getElem?_eq_some_iff.1 hd).1
      refine Or.inr (Or.inr ⟨fun _ => trivial, ?_⟩)
      unfold post
      split
      · refine ⟨⟨rfl, rfl, rfl, rfl⟩, fun q hq => ?_⟩
        rcases List.mem_append.1 hq with hq | hq
        · exact Or.inl hq
        · exact Or.inr (List.mem_singleton.1 hq ▸ hlt)
      · split
        · exact ⟨⟨rfl, rfl, rfl, rfl⟩, fun _ => Or.inl⟩
        · refine ⟨⟨rfl, rfl, rfl, rfl⟩, fun q hq => ?_⟩
          rcases List.mem_append.1 hq with hq | hq
          · exact Or.inl hq
          · exact Or.inr (List.mem_singleton.1 hq ▸ hlt)
    · cases h

/-- What an answer does: a comment is pushed on the page that is still there. -/
theorem answered_disputesList (s : State) (q : Request) (r : Reply) :
    (answered s q r).disputesList =
      if s.Shows q ∧ r = .success ∧ q.project = true then
        (pushComment s q.dispute q.comment).disputesList
      else s.disputesList := by
  unfold answered
  by_cases hshows : s.Shows q
  · cases r with
    | success => cases hproject : q.project <;> simp [hshows, pushComment]
    | error | failure => simp [hshows]
  · simp [hshows]

theorem answered_frame (s : State) (q : Request) (r : Reply) :
    (answered s q r).responseJson = s.responseJson ∧ (answered s q r).accepted = s.accepted ∧
      (answered s q r).loaded = s.loaded ∧ (answered s q r).inFlight = s.inFlight := by
  unfold answered
  split
  · cases r with
    | success => cases q.project <;> exact ⟨rfl, rfl, rfl, rfl⟩
    | error | failure => exact ⟨rfl, rfl, rfl, rfl⟩
  · exact ⟨rfl, rfl, rfl, rfl⟩

@[simp] theorem length_pushComment (s : State) (index : ℕ) (comment : Comment) :
    (pushComment s index comment).disputesList.length = s.disputesList.length := by
  simp [pushComment]

theorem record_of_success (s : State) (q : Request) :
    record s q .success = { s with accepted := s.accepted ++ [(q.dispute, q.comment)] } := rfl

theorem record_of_ne {r : Reply} (h : r ≠ .success) (s : State) (q : Request) :
    record s q r = s := if_neg h

theorem inv_step {user : User} {s t : State} {e : Event} (hs : Inv s)
    (h : step user s e = some t) : Inv t := by
  rcases step_cases h with ⟨responseJson, -, hloaded, rfl⟩ | ⟨i, r, q, -, hq, rfl⟩ |
    ⟨-, hsame, hflight⟩
  · -- nothing was loaded, so nothing is in flight
    have hnil : ∀ q, q ∉ s.inFlight := by
      intro q hq
      have hlt := hs.inFlight q hq
      simp [(hs.unloaded hloaded).1] at hlt
    unfold getDisputes
    split
    · exact ⟨fun q hq => absurd hq (hnil q), nofun⟩
    · exact ⟨fun q hq => absurd hq (hnil q), nofun⟩
  · obtain ⟨-, haccepted, hloaded, hrest⟩ :=
      answered_frame { s with inFlight := s.inFlight.eraseIdx i } q r
    have hlist := answered_disputesList { s with inFlight := s.inFlight.eraseIdx i } q r
    have hlength : (answered { s with inFlight := s.inFlight.eraseIdx i } q r).disputesList.length =
        s.disputesList.length := by
      rw [hlist]
      split <;> simp
    have hpos := hs.inFlight q (List.mem_of_getElem? hq)
    have hin : ∀ p ∈ (answered { s with inFlight := s.inFlight.eraseIdx i } q r).inFlight,
        p.dispute <
          (answered { s with inFlight := s.inFlight.eraseIdx i } q r).disputesList.length := by
      intro p hp
      rw [hrest] at hp
      rw [hlength]
      exact hs.inFlight p (Async.mem_of_eraseIdx hp)
    have hun : (answered { s with inFlight := s.inFlight.eraseIdx i } q r).loaded ≠ false := by
      intro hfalse
      rw [hloaded] at hfalse
      simp [(hs.unloaded hfalse).1] at hpos
    unfold record
    split
    · exact ⟨hin, fun hfalse => absurd hfalse hun⟩
    · exact ⟨hin, fun hfalse => absurd hfalse hun⟩
  · exact hsame.inv hs hflight

theorem acceptedFor_concat (accepted : List (ℕ × Comment)) (index index' : ℕ) (c : Comment) :
    acceptedFor (accepted ++ [(index', c)]) index =
      acceptedFor accepted index ++ if index' = index then [c] else [] := by
  by_cases h : index' = index <;> simp [acceptedFor, h]

/-- **An accepted reply** keeps the thread exactly when it is pushed. -/
theorem thread_success_iff {s : State} {q : Request} (hs : Thread s)
    (hq : q.dispute < s.disputesList.length) :
    q.project = true ∧ s.Shows q ↔ Thread (record (answered s q .success) q .success) := by
  obtain ⟨hjson, haccepted, -, -⟩ := answered_frame s q .success
  have hlist := answered_disputesList s q .success
  have hdef : Thread (record (answered s q .success) q .success) ↔ ∀ index : ℕ,
      ((answered s q .success).disputesList[index]?).map Dispute.dispute_comments =
        (s.responseJson[index]?).map fun d =>
          d.dispute_comments ++ acceptedFor (s.accepted ++ [(q.dispute, q.comment)]) index := by
    rw [record_of_success]
    simp only [Thread, hjson, haccepted]
  rw [hdef, hlist]
  by_cases hpush : s.Shows q ∧ q.project = true
  · refine iff_of_true ⟨hpush.2, hpush.1⟩ fun index => ?_
    rw [if_pos ⟨hpush.1, rfl, hpush.2⟩, acceptedFor_concat, pushComment, List.getElem?_modify]
    have hbefore := hs index
    by_cases hindex : q.dispute = index
    · cases hd : s.disputesList[index]? with
      | none => simpa [hd, hindex] using hbefore
      | some d =>
        cases hjson : s.responseJson[index]? with
        | none => simp [hd, hjson] at hbefore
        | some d' =>
          have hcomments : d.dispute_comments =
              d'.dispute_comments ++ acceptedFor s.accepted index := by
            simpa [hd, hjson] using hbefore
          simp [hindex, hcomments]
    · simpa [hindex] using hbefore
  · refine iff_of_false (fun h => hpush ⟨h.2, h.1⟩) fun ht => ?_
    have hnot : ¬ (s.Shows q ∧ Reply.success = .success ∧ q.project = true) := by
      simpa using hpush
    have hafter := ht q.dispute
    rw [if_neg hnot, hs q.dispute, acceptedFor_concat] at hafter
    obtain ⟨d, hd⟩ : ∃ d, s.responseJson[q.dispute]? = some d := by
      have hbefore := hs q.dispute
      rw [List.getElem?_eq_getElem hq] at hbefore
      cases hjson : s.responseJson[q.dispute]? with
      | none => simp [hjson] at hbefore
      | some d => exact ⟨d, rfl⟩
    simp [hd] at hafter

/-- Any other answer pushes nothing. -/
theorem thread_of_ne_success {s : State} {q : Request} {r : Reply} (hs : Thread s)
    (hr : r ≠ .success) : Thread (record (answered s q r) q r) := by
  obtain ⟨hjson, haccepted, -, -⟩ := answered_frame s q r
  have hlist := answered_disputesList s q r
  rw [if_neg fun hpush => hr hpush.2.1] at hlist
  rw [record_of_ne hr, Thread, hjson, haccepted, hlist]
  exact hs

/-- **One event.** -/
theorem threadOk_iff {user : User} {s t : State} {e : Event} (hinv : Inv s) (hs : Thread s)
    (h : step user s e = some t) : ThreadOk s e ↔ Thread t := by
  rcases step_cases h with ⟨responseJson, rfl, hloaded, rfl⟩ | ⟨i, r, q, rfl, hq, rfl⟩ |
    ⟨hok, hsame, -⟩
  · refine iff_of_true trivial fun index => ?_
    obtain ⟨hlist, haccepted⟩ := hinv.unloaded hloaded
    unfold getDisputes
    split
    · exact hs index
    · simp [haccepted, acceptedFor]
  · have hpos := hinv.inFlight q (List.mem_of_getElem? hq)
    cases r with
    | success =>
      rw [ThreadOk, hq]
      simp only [Option.mem_def, Option.some.injEq, forall_eq']
      exact thread_success_iff (s := { s with inFlight := s.inFlight.eraseIdx i }) hs hpos
    | error =>
      exact iff_of_true trivial (thread_of_ne_success
        (s := { s with inFlight := s.inFlight.eraseIdx i }) hs (by decide))
    | failure =>
      exact iff_of_true trivial (thread_of_ne_success
        (s := { s with inFlight := s.inFlight.eraseIdx i }) hs (by decide))
  · exact iff_of_true (hok s) (hsame.iff_thread.2 hs)

/-- **The thread.**  Throughout a run every dispute has the comments it was loaded with and,
after them and in order, the replies to it that were accepted, in the list as on its page,
exactly when every accepted reply is one to a project dispute and is answered while the page
it was sent from is still there. -/
theorem thread_iff {user : User} {es : List Event} {s : State}
    (h : (machine user).run es = some s) :
    (machine user).Meets ThreadOk es ↔
      ∀ fs, fs <+: es → ∀ t, (machine user).run fs = some t → Thread t :=
  (machine user).meets_iff_of_invariant (I := fun _ => Thread) (J := Inv) (fun _ => rfl)
    ⟨nofun, fun _ => ⟨rfl, rfl⟩⟩ (fun _ _ _ hs _ hst => inv_step hs hst)
    (fun _ _ _ _ _ hJ hs hst => threadOk_iff hJ hs hst) h

/-! ## The drafts -/

/-- A dispute, and a request, but for the texts. -/
def Dispute.blank (d : Dispute) : Dispute := { d with dispute_comments := [] }

def Request.blank (q : Request) : Request := { q with comment := ⟨"", "", "", ""⟩ }

/-- The state but for the texts. -/
def blank (s : State) : State :=
  { s with
    disputesList := s.disputesList.map Dispute.blank
    description := ⟨"", []⟩
    inFlight := s.inFlight.map Request.blank
    responseJson := []
    accepted := [] }

/-- What an event does to the text. -/
def act (k : State) : Event → Option (SharedText.Action Draft String)
  | .openPage _ => some (.write (k.visit + 1, .reply) "")
  | .openSheet .reply => some (.write (k.visit, .reply) "")
  | .setDescription body =>
    k.selectedReply.map fun action_type => .write (k.visit, action_type) body
  | .post =>
    match k.page, k.page.bind fun index => k.disputesList[index]?, k.selectedReply with
    | some _, some d, some action_type =>
      if d.dispute_type = "project" ∨ k.availableTaskList ≠ [] then
        some (.send (k.visit, action_type))
      else none
    | _, _, _ => none
  | .openSheet .refund | .openSheet .decline | .getDisputes _ | .goBack | .getAvailableTask _
  | .closeSheet | .answer _ _ => none

/-- What an event does to the rest. -/
def next (user : User) (k : State) (e : Event) : Option State := (step user k e).map blank

theorem getElem?_blank (s : State) (page : Option ℕ) :
    (page.bind fun index => (blank s).disputesList[index]?) =
      (page.bind fun index => s.disputesList[index]?).map Dispute.blank := by
  cases page <;> simp [blank]

/-- Pushing a comment leaves the rest as it is. -/
theorem blank_pushComment (s : State) (index : ℕ) (c : Comment) :
    blank (pushComment s index c) = blank s := by
  have hmap : (s.disputesList.modify index fun d =>
      { d with dispute_comments := d.dispute_comments ++ [c] }).map Dispute.blank =
        s.disputesList.map Dispute.blank := by
    refine List.ext_getElem (by simp) fun j _ _ => ?_
    rw [List.getElem_map, List.getElem_map, List.getElem_modify]
    split <;> rfl
  simp only [blank, pushComment, hmap]

@[simp] theorem blank_blank (s : State) : blank (blank s) = blank s := by
  simp [blank, Function.comp_def, Dispute.blank, Request.blank]

/-- An answer does the same to the rest, whatever the texts. -/
theorem blank_answered (s : State) (q : Request) (r : Reply) :
    blank (answered (blank s) q.blank r) = blank (answered s q r) := by
  have hshows : (blank s).Shows q.blank ↔ s.Shows q := Iff.rfl
  unfold answered
  by_cases hs : s.Shows q
  · rw [if_pos hs, if_pos (hshows.2 hs)]
    cases r with
    | success =>
      cases hproject : q.project with
      | true =>
        have hblank : q.blank.project = true := hproject
        simp only [hblank, if_true, blank_pushComment]
        exact blank_blank { s with loading := false, sheet := false }
      | false =>
        have hblank : q.blank.project = false := hproject
        simp only [hblank, Bool.false_eq_true, if_false]
        exact blank_blank { s with loading := false, sheet := false }
    | error | failure => exact blank_blank { s with loading := false }
  · rw [if_neg hs, if_neg (hs ∘ hshows.1)]
    exact blank_blank s

theorem blank_record (s : State) (q : Request) (r : Reply) : blank (record s q r) = blank s := by
  unfold record
  split <;> rfl

/-- A request is sent all the same. -/
theorem blank_post (user : User) (s : State) (index : ℕ) (d : Dispute) (action_type : ActionType) :
    blank (post user (blank s) index d.blank action_type) =
      blank (post user s index d action_type) := by
  have hsend : ∀ project dispute_id,
      blank (send user (blank s) index project dispute_id action_type) =
        blank (send user s index project dispute_id action_type) := by
    intro project dispute_id
    simp [blank, send, Function.comp_def, Dispute.blank, Request.blank]
  have htype : d.blank.dispute_type = d.dispute_type := rfl
  have hid : d.blank.dispute_id = d.dispute_id := rfl
  have horders : (blank s).availableTaskList = s.availableTaskList := rfl
  unfold post
  rw [htype, hid, horders]
  split
  · exact hsend _ _
  · split
    · exact blank_blank s
    · exact hsend _ _

/-- The rest does not depend on the texts. -/
theorem step_blank (user : User) (s : State) (e : Event) :
    (step user (blank s) e).map blank = (step user s e).map blank := by
  cases e with
  | getDisputes responseJson =>
    have hloaded : (blank s).loaded = s.loaded := rfl
    simp only [step, hloaded]
    split
    · rfl
    · unfold getDisputes
      split <;> simp [blank, Function.comp_def, Dispute.blank, Request.blank]
  | openPage index =>
    have hguard : ((blank s).page = none ∧ index < (blank s).disputesList.length) ↔
        (s.page = none ∧ index < s.disputesList.length) := by simp [blank]
    simp only [step, hguard]
    split
    · exact congrArg some (blank_blank (openPage s index))
    · rfl
  | goBack =>
    have hguard : ((blank s).page ≠ none ∧ (blank s).sheet = false) ↔
        (s.page ≠ none ∧ s.sheet = false) := Iff.rfl
    simp only [step, hguard]
    split
    · exact congrArg some (blank_blank { s with page := none })
    · rfl
  | getAvailableTask dispute_ids =>
    have hpage : (blank s).page = s.page := rfl
    simp only [step, hpage]
    split
    · rfl
    · exact congrArg some (blank_blank { s with availableTaskList := dispute_ids })
  | closeSheet =>
    have hsheet : (blank s).sheet = s.sheet := rfl
    simp only [step, hsheet]
    split
    · exact congrArg some (blank_blank { s with sheet := false })
    · rfl
  | setDescription body =>
    have hselected : (blank s).selectedReply = s.selectedReply := rfl
    have hsheet : (blank s).sheet = s.sheet := rfl
    simp only [step, hselected, hsheet]
    split
    · rfl
    · split
      · exact congrArg some (blank_blank s)
      · rfl
  | openSheet action_type =>
    have hpage : (blank s).page = s.page := rfl
    simp only [step, hpage, getElem?_blank]
    cases s.page.bind fun index => s.disputesList[index]? with
    | none => rfl
    | some d =>
      have hguard : ((blank s).sheet = false ∧ d.blank.isOpen ∧
          (action_type ≠ .reply → user.user_type = "sellers")) ↔
          (s.sheet = false ∧ d.isOpen ∧ (action_type ≠ .reply → user.user_type = "sellers")) :=
        Iff.rfl
      simp only [Option.map_some, hguard]
      split
      · exact congrArg some
          (blank_blank { s with sheet := true, selectedReply := some action_type })
      · rfl
  | post =>
    have hpage : (blank s).page = s.page := rfl
    have hselected : (blank s).selectedReply = s.selectedReply := rfl
    have hsheet : (blank s).sheet = s.sheet := rfl
    simp only [step, hpage, hselected, hsheet, getElem?_blank]
    cases hp : s.page with
    | none => rfl
    | some index =>
      cases hd : (some index).bind fun index => s.disputesList[index]? with
      | none => rfl
      | some d =>
        cases hr : s.selectedReply with
        | none => rfl
        | some action_type =>
          simp only [Option.map_some]
          split
          · exact congrArg some (blank_post user s index d action_type)
          · rfl
  | answer i r =>
    have hflight : (blank s).inFlight[i]? = (s.inFlight[i]?).map Request.blank := by
      simp [blank]
    simp only [step, hflight]
    cases s.inFlight[i]? with
    | none => rfl
    | some q =>
      have hrest : { blank s with inFlight := (blank s).inFlight.eraseIdx i } =
          blank { s with inFlight := s.inFlight.eraseIdx i } := by
        simp [blank, List.eraseIdx_map]
      simp only [Option.map_some, blank_record, hrest, blank_answered]

/-- An answer leaves the text as it is. -/
theorem description_record (s : State) (q : Request) (r : Reply) :
    (record (answered s q r) q r).description = s.description := by
  have hanswered : (answered s q r).description = s.description := by
    unfold answered
    split
    · cases r with
      | success => cases q.project <;> rfl
      | error | failure => rfl
    · rfl
  unfold record
  split <;> exact hanswered

theorem description_post (user : User) (s : State) (index : ℕ) (d : Dispute)
    (action_type : ActionType) :
    (post user s index d action_type).description =
      if d.dispute_type = "project" ∨ s.availableTaskList ≠ [] then
        s.description.send (s.visit, action_type)
      else s.description := by
  unfold post
  by_cases hproject : d.dispute_type = "project"
  · rw [if_pos hproject, if_pos (Or.inl hproject)]
    rfl
  · rw [if_neg hproject]
    cases horders : s.availableTaskList with
    | nil => simp [hproject]
    | cons dispute_id rest => simp [send]

/-- What is done to the text. -/
theorem description_step {user : User} {s t : State} {e : Event} (h : step user s e = some t) :
    t.description = s.description.perform (act (blank s) e) := by
  cases e with
  | getDisputes responseJson =>
    obtain ⟨-, ⟨⟩⟩ := Option.ite_none_left_eq_some.1 h
    unfold getDisputes
    split <;> rfl
  | openPage index =>
    obtain ⟨-, ⟨⟩⟩ := Option.ite_none_right_eq_some.1 h
    rfl
  | goBack =>
    obtain ⟨-, ⟨⟩⟩ := Option.ite_none_right_eq_some.1 h
    rfl
  | getAvailableTask dispute_ids =>
    obtain ⟨-, ⟨⟩⟩ := Option.ite_none_left_eq_some.1 h
    rfl
  | closeSheet =>
    obtain ⟨-, ⟨⟩⟩ := Option.ite_none_right_eq_some.1 h
    rfl
  | setDescription body =>
    have hselected : (blank s).selectedReply = s.selectedReply := rfl
    rw [step] at h
    split at h
    · cases h
    · rename_i action_type hreply
      obtain ⟨-, ⟨⟩⟩ := Option.ite_none_right_eq_some.1 h
      rw [act, hselected, hreply]
      rfl
  | openSheet action_type =>
    rw [step] at h
    split at h
    · cases h
    · obtain ⟨-, ⟨⟩⟩ := Option.ite_none_right_eq_some.1 h
      cases action_type <;> rfl
  | post =>
    have hpage : (blank s).page = s.page := rfl
    have hselected : (blank s).selectedReply = s.selectedReply := rfl
    rw [step] at h
    split at h
    · rename_i index d action_type hp hd hr
      obtain ⟨-, ⟨⟩⟩ := Option.ite_none_right_eq_some.1 h
      have hd' : ((blank s).page.bind fun index => (blank s).disputesList[index]?) =
          some d.blank := by
        rw [getElem?_blank, hpage, hd]
        rfl
      rw [description_post, act, hd', hpage, hselected, hp, hr]
      have hguard : (d.blank.dispute_type = "project" ∨ (blank s).availableTaskList ≠ []) ↔
          (d.dispute_type = "project" ∨ s.availableTaskList ≠ []) := Iff.rfl
      simp only [hguard]
      split <;> rfl
    · cases h
  | answer i r =>
    obtain ⟨q, -, rfl⟩ := Option.map_eq_some_iff.1 h
    exact description_record _ q r

/-- The three buttons, and all visits, share the text. -/
theorem shares (user : User) :
    Shares (machine user) State.description blank act (next user) "" where
  init := rfl
  step := by
    intro s e t h
    have hstep : step user s e = some t := h
    refine ⟨?_, description_step hstep⟩
    rw [next, step_blank, hstep]
    rfl
  enabled := by
    intro s e h
    have hstep : step user s e = none := h
    rw [next, step_blank, hstep]
    rfl

/-- What an event must meet: nothing has disturbed the draft that is sent. -/
def DraftOk (s : State) (e : Event) : Prop :=
  ∀ o, act (blank s) e = some (.send o) → Undisturbed "" o s.description.log

instance (s : State) (e : Event) : Decidable (DraftOk s e) := by
  unfold DraftOk
  infer_instance

/-- **The drafts.**  In every run each reply, refund or refusal is sent with what was typed
for it on this visit to the page exactly when, each time one is sent, the text was typed into
for it last, or has become the same again. -/
theorem drafts_iff {user : User} {es : List Event} {s : State}
    (h : (machine user).run es = some s) :
    (machine user).Meets DraftOk es ↔ Isolated "" s.description.log :=
  (shares user).isolated_iff h

/-! ## One dispute -/

/-- A seller, and a dispute about a project. -/
def seller : User := ⟨"Ann", "sellers", "ann.png"⟩

def projectDispute : Dispute := ⟨7, "publish", "project", []⟩

/-- A reply is typed and accepted. -/
def replied : List Event :=
  [.getDisputes [projectDispute], .openPage 0, .openSheet .reply, .setDescription "Sorry", .post,
    .answer 0 .success]

/-- It is added to the comments. -/
theorem thread_iff_sample :
    ∃ s, (machine seller).run replied = some s ∧ Thread s ∧ s.accepted.length = 1 := by
  obtain ⟨s, hs, hone⟩ :
      ∃ s, (machine seller).run replied = some s ∧ s.accepted.length = 1 := ⟨_, rfl, rfl⟩
  exact ⟨s, hs, (thread_iff hs).1 (by decide) _ List.prefix_rfl s hs, hone⟩

/-- And it is what was typed. -/
theorem drafts_iff_sample :
    ∃ s, (machine seller).run replied = some s ∧ Isolated "" s.description.log := by
  obtain ⟨s, hs⟩ : ∃ s, (machine seller).run replied = some s := ⟨_, rfl⟩
  exact ⟨s, hs, (drafts_iff hs).1 (by decide)⟩

/-- **What was not typed for it.**  A reply is typed and the sheet closed; the refusal is
then sent with the text of the reply. -/
example :
    ∃ s, (machine seller).run
        [.getDisputes [projectDispute], .openPage 0, .openSheet .reply, .setDescription "Sorry",
          .closeSheet, .openSheet .decline, .post] = some s ∧
      (s.inFlight.map fun q => (q.action_type, q.comment.message)) = [(.decline, "Sorry")] ∧
      own "" (1, ActionType.decline) s.description.log = "" :=
  ⟨_, rfl, rfl, rfl⟩

end Disputes
