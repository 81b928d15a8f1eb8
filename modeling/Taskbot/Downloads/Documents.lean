import Mathlib
import Taskbot.Async.Machine
import Taskbot.Js.Calendar

/-!
# Downloaded documents

Invoices and attachments are downloaded from four screens, each with its own copy of
`checkPermission` and `downloadMedia`.  A document is asked for, the server answers with its
address, on Android the user is asked for the permission to write, and the document is then
saved under a name made from the clock.

* `fileNumber`, `path` — the name: milliseconds, and half the seconds that the clock shows.
* `fileNumber_eq_iff` — **two names are the same exactly when the times are, or when they are
  29 milliseconds apart with the turn of a minute between them.**
* `Screen`, `State`, `step` — the downloads of all screens, in any order.
* `accounted_run` — **every document that the server hands over is, once, waiting for the
  permission, being downloaded, saved or given up**; the ones saved from two of the screens,
  and no others, are asked to be removed.
* `names_iff` — **no two downloads are written to one place exactly when each begins at another
  number than those before it.**
-/

namespace Downloads

open Js.Calendar

/-! ## Names -/

/-- `getSeconds()` of a time, in milliseconds since 1 January 1970: what the clock shows. -/
def getSeconds (z : Zone) (t : ℕ) : ℤ := (t + z.offset) / 1000 % 60

/-- `Math.floor(date.getTime() + date.getSeconds() / 2)`; before the year 140000 neither the
half nor the sum is rounded. -/
def fileNumber (z : Zone) (t : ℕ) : ℤ := ⌊(t : ℚ) + getSeconds z t / 2⌋

theorem fileNumber_eq (z : Zone) (t : ℕ) : fileNumber z t = t + getSeconds z t / 2 := by
  have hhalf : ⌊(getSeconds z t : ℚ) / 2⌋ = getSeconds z t / 2 := by
    exact_mod_cast Rat.floor_intCast_div_natCast (getSeconds z t) 2
  rw [fileNumber, add_comm, Int.floor_add_natCast, hhalf, add_comm]

/-- The first time is 29 milliseconds before the second, in the minute before. -/
def TurnOfMinute (z : Zone) (t t' : ℕ) : Prop :=
  t' = t + 29 ∧ 59971 ≤ (t + z.offset) % 60000

instance (z : Zone) (t t' : ℕ) : Decidable (TurnOfMinute z t t') :=
  inferInstanceAs (Decidable (_ ∧ _))

/-- Half the seconds of a minute make up for at most 29 milliseconds, and only from its last
second to the first one of the next. -/
theorem seconds_of_eq {x y : ℤ} (hlt : x < y)
    (h : x + x / 1000 % 60 / 2 = y + y / 1000 % 60 / 2) :
    y = x + 29 ∧ x / 1000 % 60 = 59 ∧ y / 1000 = x / 1000 + 1 := by
  have hnear : y / 1000 = x / 1000 ∨ y / 1000 = x / 1000 + 1 := by omega
  rcases hnear with hsame | hnext
  · rw [hsame] at h
    omega
  · rw [hnext] at h
    by_cases hlast : x / 1000 % 60 = 59
    · have hfirst : (x / 1000 + 1) % 60 = 0 := by omega
      rw [hlast, hfirst] at h
      exact ⟨by omega, hlast, hnext⟩
    · have hsucc : (x / 1000 + 1) % 60 = x / 1000 % 60 + 1 := by omega
      rw [hsucc] at h
      omega

theorem fileNumber_eq_of_lt {z : Zone} {t t' : ℕ} (hlt : t < t') :
    fileNumber z t = fileNumber z t' ↔ TurnOfMinute z t t' := by
  rw [fileNumber_eq, fileNumber_eq]
  unfold TurnOfMinute getSeconds
  constructor
  · intro h
    obtain ⟨hdiff, hlast, hnext⟩ :=
      @seconds_of_eq (t + z.offset) (t' + z.offset) (by omega) (by omega)
    omega
  · rintro ⟨rfl, hlast⟩
    have hminute : (t + z.offset) / 1000 % 60 = 59 := by omega
    have hturn : ((t + 29 : ℕ) + z.offset) / 1000 % 60 = 0 := by omega
    rw [hminute, hturn]
    omega

/-- **When two names are the same.** -/
theorem fileNumber_eq_iff (z : Zone) (t t' : ℕ) :
    fileNumber z t = fileNumber z t' ↔
      t = t' ∨ TurnOfMinute z t t' ∨ TurnOfMinute z t' t := by
  have hback : ∀ {t t'}, t < t' → ¬ TurnOfMinute z t' t := fun hlt h => by
    rw [TurnOfMinute] at h
    omega
  rcases lt_trichotomy t t' with hlt | rfl | hlt
  · simp [fileNumber_eq_of_lt hlt, hlt.ne, hback hlt]
  · simp
  · rw [eq_comm, fileNumber_eq_of_lt hlt]
    simp [hlt.ne', hback hlt]

/-! ## Screens and requests -/

/-- The screens with a button to download something. -/
inductive Screen where
  | invoice
  | projectDetails
  | projectActivity
  | availableTaskDetail
  deriving DecidableEq

/-- What can be asked for: `get-invoice`, `get-attachments`. -/
inductive Source where
  | invoice
  | attachments
  deriving DecidableEq

/-- What a screen asks for. -/
def Screen.asks : Screen → Source → Bool
  | invoice, .invoice | projectDetails, .attachments | availableTaskDetail, .attachments => true
  | projectActivity, _ => true
  | invoice, .attachments | projectDetails, .invoice | availableTaskDetail, .invoice => false

/-- `ext`; an invoice downloaded from the activity of a project is a `.zip` as well. -/
def Screen.ext : Screen → String
  | invoice => ".pdf"
  | projectDetails | projectActivity | availableTaskDetail => ".zip"

/-- Does `downloadMedia` call `removeInvoicePDF` when the document is saved? -/
def Screen.removes : Screen → Bool
  | invoice | projectDetails => true
  | projectActivity | availableTaskDetail => false

/-- A request of a screen that makes it. -/
structure Request where
  screen : Screen
  source : Source
  asks : screen.asks source = true
  deriving DecidableEq

/-- A document that the server has handed over. -/
inductive Content where
  | invoice (file_url file_path : String)
  | attachment (link : Option String)
  deriving DecidableEq

/-- What was asked for to get it. -/
def Content.source : Content → Source
  | invoice _ _ => .invoice
  | attachment _ => .attachments

/-- The path that `checkPermission` is given, of the file on the server. -/
def Content.path : Content → Option String
  | invoice _ file_path => some file_path
  | attachment _ => none

/-- A document on the way to a screen that asked for it. -/
structure Document where
  screen : Screen
  content : Content
  asks : screen.asks content.source = true
  deriving DecidableEq

/-- The document that a reply to a request hands over: an invoice when `type == 'success'`, an
attachment, which may be `undefined`, from any object there is. -/
def Request.document (q : Request) : Option Content → Option Document
  | none => none
  | some content =>
    if h : content.source = q.source then some ⟨q.screen, content, h ▸ q.asks⟩ else none

/-- `removeInvoicePDF(path)`: the path is written into the address whatever it is. -/
def Document.removal (d : Document) : Option (Screen × String) :=
  if d.screen.removes then some (d.screen, d.content.path.getD "undefined") else none

/-- Where it is called from, and with what. -/
theorem removal_cases {d : Document} {screen : Screen} {path : String}
    (h : d.removal = some (screen, path)) :
    (screen = .invoice ∧ d.screen = .invoice ∧ d.content.path = some path) ∨
      (screen = .projectDetails ∧ path = "undefined") := by
  obtain ⟨from_screen, content, hasks⟩ := d
  cases from_screen with
  | invoice =>
    cases content with
    | invoice file_url file_path =>
      cases h
      exact Or.inl ⟨rfl, rfl, rfl⟩
    | attachment link => cases hasks
  | projectDetails =>
    cases content with
    | invoice file_url file_path => cases hasks
    | attachment link =>
      cases h
      exact Or.inr ⟨rfl, rfl⟩
  | projectActivity => cases h
  | availableTaskDetail => cases h

/-! ## States and steps -/

/-- The downloads.  `handed` is a history of the documents handed over, `begun` one of the
downloads begun, each by its screen and the time. -/
structure State where
  asked : List Request
  /-- Waiting for the permission. -/
  permission : List Document
  downloading : List Document
  saved : List Document
  /-- The permission was refused, or the download has failed. -/
  abandoned : List Document
  /-- The requests to remove a file, each with the screen that made it. -/
  removals : List (Screen × String)
  handed : List Document
  begun : List (Screen × ℕ)
  deriving DecidableEq

/-- What can happen; `now` is the time. -/
inductive Event where
  | tap (q : Request)
  /-- The request at place `i` is answered, or refused, or it fails. -/
  | reply (i : ℕ) (answer : Option Content) (now : ℕ)
  /-- The user answers the dialog at place `i`. -/
  | permission (i : ℕ) (granted : Bool) (now : ℕ)
  | downloaded (i : ℕ)
  | failed (i : ℕ)

def downloadMedia (s : State) (d : Document) (now : ℕ) : State :=
  { s with downloading := s.downloading ++ [d], begun := s.begun ++ [(d.screen, now)] }

/-- On iOS no permission is needed. -/
def checkPermission (ios : Bool) (s : State) (d : Document) (now : ℕ) : State :=
  if ios then downloadMedia s d now else { s with permission := s.permission ++ [d] }

/-- The handler of a reply. -/
def replied (ios : Bool) (s : State) (now : ℕ) : Option Document → State
  | none => s
  | some d => checkPermission ios { s with handed := s.handed ++ [d] } d now

/-- The rest of `checkPermission`, once the user has answered. -/
def permitted (s : State) (d : Document) (now : ℕ) (granted : Bool) : State :=
  if granted then downloadMedia s d now else { s with abandoned := s.abandoned ++ [d] }

/-- The rest of `downloadMedia`, once the document is there. -/
def finish (s : State) (d : Document) : State :=
  { s with saved := s.saved ++ [d], removals := s.removals ++ d.removal.toList }

/-- One event. -/
def step (ios : Bool) (s : State) : Event → Option State
  | .tap q => some { s with asked := s.asked ++ [q] }
  | .reply i answer now => s.asked[i]?.map fun q =>
      replied ios { s with asked := s.asked.eraseIdx i } now (q.document answer)
  | .permission i granted now => s.permission[i]?.map fun d =>
      permitted { s with permission := s.permission.eraseIdx i } d now granted
  | .downloaded i => s.downloading[i]?.map fun d =>
      finish { s with downloading := s.downloading.eraseIdx i } d
  | .failed i => s.downloading[i]?.map fun d =>
      { s with downloading := s.downloading.eraseIdx i, abandoned := s.abandoned ++ [d] }

/-- The app on one of the two platforms. -/
def machine (ios : Bool) : Async.Machine State Event :=
  ⟨⟨[], [], [], [], [], [], [], []⟩, step ios⟩

/-! ## Every document, once -/

/-- How often a document is at one of the four stages. -/
def State.count (s : State) (d : Document) : ℕ :=
  s.permission.count d + s.downloading.count d + s.saved.count d + s.abandoned.count d

/-- What is handed over is at some stage, and what is saved is removed. -/
structure Inv (s : State) : Prop where
  handed : ∀ d, s.handed.count d = s.count d
  removals : s.removals = s.saved.filterMap Document.removal

section Inv

variable {s : State} {d : Document}

theorem count_eraseIdx {l : List Document} {i : ℕ} (h : l[i]? = some d) (x : Document) :
    l.count x = (l.eraseIdx i).count x + [d].count x := by
  rw [← (Async.perm_cons_eraseIdx h).count_eq x, List.count_cons, List.count_singleton]

theorem inv_downloadMedia {s₀ : State} {now : ℕ}
    (hhanded : ∀ x, s₀.handed.count x = s₀.count x + [d].count x)
    (hremovals : s₀.removals = s₀.saved.filterMap Document.removal) :
    Inv (downloadMedia s₀ d now) := by
  refine ⟨fun x => ?_, hremovals⟩
  have hx := hhanded x
  simp only [State.count, downloadMedia, List.count_append] at hx ⊢
  omega

theorem inv_replied (ios : Bool) (hs : Inv s) (now : ℕ) (given : Option Document) :
    Inv (replied ios s now given) := by
  cases given with
  | none => exact hs
  | some d =>
    have hhanded : ∀ x, (s.handed ++ [d]).count x = s.count x + [d].count x := fun x => by
      rw [List.count_append, hs.handed]
    unfold replied checkPermission
    dsimp only
    split
    · exact inv_downloadMedia hhanded hs.removals
    · refine ⟨fun x => ?_, hs.removals⟩
      have hx := hhanded x
      simp only [State.count, List.count_append] at hx ⊢
      omega

theorem inv_permission (hs : Inv s) {i : ℕ} (hd : s.permission[i]? = some d) (now : ℕ)
    (granted : Bool) :
    Inv (permitted { s with permission := s.permission.eraseIdx i } d now granted) := by
  have hhanded : ∀ x, s.handed.count x =
      ({ s with permission := s.permission.eraseIdx i } : State).count x + [d].count x := by
    intro x
    have hx := hs.handed x
    rw [State.count, count_eraseIdx hd x] at hx
    simp only [State.count]
    omega
  unfold permitted
  split
  · exact inv_downloadMedia hhanded hs.removals
  · refine ⟨fun x => ?_, hs.removals⟩
    have hx := hhanded x
    simp only [State.count, List.count_append] at hx ⊢
    omega

theorem inv_downloaded (hs : Inv s) {i : ℕ} (hd : s.downloading[i]? = some d) :
    Inv (finish { s with downloading := s.downloading.eraseIdx i } d) := by
  refine ⟨fun x => ?_, ?_⟩
  · have hx := hs.handed x
    rw [State.count, count_eraseIdx hd x] at hx
    simp only [State.count, finish, List.count_append]
    omega
  · simp only [finish, hs.removals, List.filterMap_append]
    cases hremoval : d.removal <;> simp [hremoval]

theorem inv_failed (hs : Inv s) {i : ℕ} (hd : s.downloading[i]? = some d) :
    Inv { s with
      downloading := s.downloading.eraseIdx i, abandoned := s.abandoned ++ [d] } := by
  refine ⟨fun x => ?_, hs.removals⟩
  have hx := hs.handed x
  rw [State.count, count_eraseIdx hd x] at hx
  simp only [State.count, List.count_append]
  omega

theorem inv_step {ios : Bool} {t : State} {e : Event} (hs : Inv s)
    (h : step ios s e = some t) : Inv t := by
  cases e with
  | tap q =>
    cases h
    exact ⟨hs.handed, hs.removals⟩
  | reply i answer now =>
    obtain ⟨q, -, rfl⟩ := Option.map_eq_some_iff.1 h
    have hasked : Inv { s with asked := s.asked.eraseIdx i } := ⟨hs.handed, hs.removals⟩
    exact inv_replied ios hasked now (q.document answer)
  | permission i granted now =>
    obtain ⟨d, hd, rfl⟩ := Option.map_eq_some_iff.1 h
    exact inv_permission hs hd now granted
  | downloaded i =>
    obtain ⟨d, hd, rfl⟩ := Option.map_eq_some_iff.1 h
    exact inv_downloaded hs hd
  | failed i =>
    obtain ⟨d, hd, rfl⟩ := Option.map_eq_some_iff.1 h
    exact inv_failed hs hd

end Inv

/-- **Every document is accounted for.**  After every run, whatever the order of replies,
dialogs and downloads, each document handed over is, as often as it was, waiting for the
permission, being downloaded, saved or given up; and each one saved from the invoices or from
the details of a project, and no other one, has been asked to be removed, in this order: from
the invoices under its path, from the details of a project as `"undefined"`. -/
theorem accounted_run {ios : Bool} {es : List Event} {s : State}
    (h : (machine ios).run es = some s) :
    s.handed.Perm (s.permission ++ s.downloading ++ s.saved ++ s.abandoned) ∧
      s.removals = s.saved.filterMap Document.removal ∧
      ∀ screen path, (screen, path) ∈ s.removals →
        (screen = .invoice ∧ ∃ d ∈ s.saved, d.screen = .invoice ∧ d.content.path = some path) ∨
          (screen = .projectDetails ∧ path = "undefined") := by
  have hinv : Inv s := by
    refine (machine ios).invariant_run ⟨fun d => ?_, rfl⟩ (fun _ _ _ => inv_step) h
    simp [machine, State.count]
  refine ⟨List.perm_iff_count.2 fun d => ?_, hinv.removals, ?_⟩
  · simp only [hinv.handed, State.count, List.count_append]
  · intro screen path hmem
    rw [hinv.removals, List.mem_filterMap] at hmem
    obtain ⟨d, hd, hremoval⟩ := hmem
    rcases removal_cases hremoval with ⟨rfl, hscreen, hpath⟩ | hdetails
    · exact Or.inl ⟨rfl, d, hd, hscreen, hpath⟩
    · exact Or.inr hdetails

/-! ## No two places -/

/-- Where a download begun on a screen at a time is written to, below `PictureDir`. -/
def path (dir : String) (z : Zone) (begun : Screen × ℕ) : String :=
  dir ++ ("/Taskbot/Taskbot Documents/" ++ ((fileNumber z begun.2).repr ++ begun.1.ext))

/-- Two names with different numbers or extensions are different. -/
theorem path_eq_iff (dir : String) (z : Zone) (b b' : Screen × ℕ) :
    path dir z b = path dir z b' ↔
      fileNumber z b.2 = fileNumber z b'.2 ∧ b.1.ext = b'.1.ext := by
  rw [path, path, String.append_right_inj, String.append_right_inj]
  constructor
  · intro h
    have hext : b.1.ext = b'.1.ext := by
      have hlast := congrArg (fun t => t.toList.getLast?) h
      obtain ⟨sc, t⟩ := b
      obtain ⟨sc', t'⟩ := b'
      revert hlast
      cases sc <;> cases sc' <;> simp [Screen.ext]
    rw [hext, String.append_left_inj, Int.repr_inj] at h
    exact ⟨h, hext⟩
  · rintro ⟨hnumber, hext⟩
    rw [hnumber, hext]

/-- The download that an event begins. -/
def begins (ios : Bool) (s : State) : Event → Option (Screen × ℕ)
  | .reply i answer now =>
    if ios then
      s.asked[i]?.bind fun q => (q.document answer).map fun d => (d.screen, now)
    else none
  | .permission i granted now =>
    if granted then s.permission[i]?.map fun d => (d.screen, now) else none
  | .tap _ | .downloaded _ | .failed _ => none

theorem begun_step {ios : Bool} {s t : State} {e : Event} (h : step ios s e = some t) :
    t.begun = s.begun ++ (begins ios s e).toList := by
  cases e with
  | tap q =>
    cases h
    simp [begins]
  | reply i answer now =>
    obtain ⟨q, hq, rfl⟩ := Option.map_eq_some_iff.1 h
    cases hgiven : q.document answer with
    | none => simp [begins, hq, hgiven, replied]
    | some d => cases ios <;> simp [begins, hq, hgiven, replied, checkPermission, downloadMedia]
  | permission i granted now =>
    obtain ⟨d, hd, rfl⟩ := Option.map_eq_some_iff.1 h
    cases granted <;> simp [begins, hd, permitted, downloadMedia]
  | downloaded i =>
    obtain ⟨d, -, rfl⟩ := Option.map_eq_some_iff.1 h
    simp [begins, finish]
  | failed i =>
    obtain ⟨d, -, rfl⟩ := Option.map_eq_some_iff.1 h
    simp [begins]

/-- What a step must meet: a download begins neither at the time of an earlier one with the
same extension, nor 29 milliseconds from it across the turn of a minute. -/
def StepOk (z : Zone) (ios : Bool) (s : State) (e : Event) : Prop :=
  ∀ d ∈ begins ios s e, ∀ b ∈ s.begun, b.1.ext = d.1.ext →
    b.2 ≠ d.2 ∧ ¬ TurnOfMinute z b.2 d.2 ∧ ¬ TurnOfMinute z d.2 b.2

instance (z : Zone) (ios : Bool) (s : State) (e : Event) : Decidable (StepOk z ios s e) := by
  unfold StepOk
  infer_instance

/-- A download that begins is written to a new place exactly when its time is right. -/
theorem stepOk_iff (dir : String) (z : Zone) (ios : Bool) (s : State) (e : Event) :
    StepOk z ios s e ↔ ∀ d ∈ begins ios s e, path dir z d ∉ s.begun.map (path dir z) := by
  refine forall₂_congr fun d _ => ?_
  rw [List.mem_map, not_exists]
  refine forall_congr' fun b => ?_
  rw [not_and, path_eq_iff, fileNumber_eq_iff]
  tauto

/-- **No two places.**  The downloads of a run are written to different places exactly when
each begins neither at the time of an earlier one with its extension, nor 29 milliseconds from
it across the turn of a minute. -/
theorem names_iff (dir : String) (z : Zone) {ios : Bool} {es : List Event} {s : State}
    (h : (machine ios).run es = some s) :
    (machine ios).Meets (StepOk z ios) es ↔ (s.begun.map (path dir z)).Nodup := by
  refine (machine ios).meets_iff_last (I := fun s => (s.begun.map (path dir z)).Nodup)
    (J := fun _ => True) List.nodup_nil trivial (fun _ _ _ _ _ => trivial) ?_ h
  intro s e t _ hstep
  rw [begun_step hstep, stepOk_iff dir z ios s e]
  cases begins ios s e with
  | none => simp
  | some d =>
    rw [Option.toList_some, List.map_append, List.map_singleton, ← List.concat_eq_append,
      List.nodup_concat]
    simp [and_comm]

/-! ## Two invoices -/

/-- A tap on an invoice, and one on the attachments of a project. -/
def invoiceRequest : Request := ⟨.invoice, .invoice, rfl⟩

def attachmentsRequest : Request := ⟨.projectDetails, .attachments, rfl⟩

/-- On Android; the permission is refused for the invoice. -/
def refused : List Event :=
  [.tap invoiceRequest, .tap attachmentsRequest, .reply 1 (some (.attachment (some "a.zip"))) 5,
    .reply 0 (some (.invoice "1.pdf" "/tmp/1.pdf")) 7, .permission 1 false 8,
    .permission 0 true 9, .downloaded 0]

/-- The downloads after it. -/
def afterRefused : State where
  asked := []
  permission := []
  downloading := []
  saved := [⟨.projectDetails, .attachment (some "a.zip"), rfl⟩]
  abandoned := [⟨.invoice, .invoice "1.pdf" "/tmp/1.pdf", rfl⟩]
  removals := [(.projectDetails, "undefined")]
  handed := [⟨.projectDetails, .attachment (some "a.zip"), rfl⟩,
    ⟨.invoice, .invoice "1.pdf" "/tmp/1.pdf", rfl⟩]
  begun := [(.projectDetails, 9)]

theorem accounted_run_sample :
    afterRefused.handed.Perm (afterRefused.saved ++ afterRefused.abandoned) := by
  have h : (machine false).run refused = some afterRefused := by decide
  exact (accounted_run h).1

/-- The clocks of Greenwich. -/
def utc : Zone := ⟨0, by decide⟩

/-- On iOS; two invoices are answered 29 milliseconds apart, at the turn of a minute. -/
def turning : List Event :=
  [.tap invoiceRequest, .tap invoiceRequest, .reply 0 (some (.invoice "1.pdf" "/tmp/1.pdf")) 59980,
    .reply 0 (some (.invoice "2.pdf" "/tmp/2.pdf")) 60009]

theorem names_iff_sample :
    ∃ s, (machine true).run turning = some s ∧ ¬ (s.begun.map (path "" utc)).Nodup := by
  refine ⟨_, rfl, ?_⟩
  have hnot : ¬ (machine true).Meets (StepOk utc true) turning := by decide
  exact fun hnodup => hnot ((names_iff "" utc rfl).2 hnodup)

end Downloads
