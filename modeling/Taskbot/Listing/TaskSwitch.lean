import Mathlib
import Taskbot.Async.Machine

/-!
# The switch of a task

The card of a task has a switch.  A tap asks the server for the value opposite to the one
shown, and a success turns what is shown around, whatever was asked for.

* `State`, `step` — the card, the requests on their way to the server in the order sent,
  and the answers on their way back, which come in any order.
* `Inv`, `inv_step` — **what is shown depends only on how many successes have come, what
  the server holds only on how many had come when the last accepted request was sent.**
* `agrees_iff` — the two agree whenever nothing is outstanding exactly when each time that
  number is odd.
* `agrees_of_alone` — so they do when every tap waits for the answer to the one before.
-/

namespace TaskSwitch

/-- A request `task-status-change`: the value asked for, and how many successes had been
handled when it was sent. -/
structure Request where
  /-- `task_enable` is `'enable'`. -/
  enable : Bool
  successes : ℕ
  deriving DecidableEq

/-- What comes back to the card of the answer of the server. -/
inductive Reply where
  | delivered
  | failure
  deriving DecidableEq

/-- The card, the server and what is between them; the last two fields are a history for
the statements only. -/
structure State where
  /-- `item.task_status`. -/
  task_status : Bool
  /-- The status the server holds. -/
  server : Bool
  sent : List Request
  /-- Of each request the server has processed: is the answer a success? -/
  answers : List Bool
  /-- The successes handled. -/
  successes : ℕ
  /-- The successes that had been handled when the last accepted request was sent. -/
  lastAccepted : Option ℕ
  deriving DecidableEq

/-- What can happen. -/
inductive Event where
  /-- A tap on the switch. -/
  | changeTaskDesiplay
  /-- The server processes the oldest request. -/
  | process (accepted : Bool)
  /-- The answer at place `i` reaches the card, or is lost. -/
  | reply (i : ℕ) (r : Reply)
  deriving DecidableEq

/-- One event. -/
def step (s : State) : Event → Option State
  | .changeTaskDesiplay =>
    some { s with sent := s.sent ++ [⟨if s.task_status then false else true, s.successes⟩] }
  | .process accepted =>
    match s.sent with
    | [] => none
    | q :: sent => some { s with
        sent
        server := if accepted then q.enable else s.server
        answers := s.answers ++ [accepted]
        lastAccepted := if accepted then some q.successes else s.lastAccepted }
  | .reply i r =>
    s.answers[i]?.map fun success =>
      match r, success with
      | .delivered, true => { s with
          task_status := if s.task_status then false else true
          answers := s.answers.eraseIdx i
          successes := s.successes + 1 }
      | .delivered, false | .failure, _ => { s with answers := s.answers.eraseIdx i }

/-- The card of a task that has the status the server holds. -/
def machine (task_status : Bool) : Async.Machine State Event :=
  ⟨⟨task_status, task_status, [], [], 0, none⟩, step⟩

/-! ## What the two statuses depend on -/

/-- A status turned around some number of times. -/
def turned (status : Bool) (times : ℕ) : Bool := xor status (times % 2 == 1)

theorem turned_zero (status : Bool) : turned status 0 = status := by simp [turned]

theorem turned_succ (status : Bool) (times : ℕ) :
    turned status (times + 1) = !turned status times := by
  rcases Nat.mod_two_eq_zero_or_one times with h | h
  · have hsucc : (times + 1) % 2 = 1 := by omega
    simp [turned, h, hsucc]
  · have hsucc : (times + 1) % 2 = 0 := by omega
    simp [turned, h, hsucc]

/-- Once more than some number of times before, or three times, or five. -/
theorem turned_eq_not_iff (status : Bool) {m n : ℕ} (hmn : m ≤ n) :
    turned status n = !turned status m ↔ Odd (n - m) := by
  rw [Nat.odd_iff]
  have hn := Nat.mod_two_eq_zero_or_one n
  have hm := Nat.mod_two_eq_zero_or_one m
  rcases hn with hn | hn <;> rcases hm with hm | hm <;> simp [turned, hn, hm] <;> omega

/-- What the statuses are, and what is asked for by the requests on their way. -/
structure Inv (start : Bool) (s : State) : Prop where
  task_status : s.task_status = turned start s.successes
  server : s.server = (s.lastAccepted.map fun m => !turned start m).getD start
  sent : ∀ q ∈ s.sent, q.enable = (!turned start q.successes) ∧ q.successes ≤ s.successes
  lastAccepted : ∀ m ∈ s.lastAccepted, m ≤ s.successes
  none : s.lastAccepted = none → s.successes = 0 ∧ true ∉ s.answers

theorem inv_init (start : Bool) : Inv start (machine start).init where
  task_status := (turned_zero start).symm
  server := rfl
  sent _ hq := absurd hq List.not_mem_nil
  lastAccepted _ hm := by cases hm
  none _ := ⟨rfl, List.not_mem_nil⟩

/-- The other value, as the handlers write it. -/
theorem ite_eq_not (b : Bool) : (if b = true then false else true) = !b := by cases b <;> rfl

theorem inv_step {start : Bool} {s t : State} {e : Event} (hs : Inv start s)
    (h : step s e = some t) : Inv start t := by
  cases e with
  | changeTaskDesiplay =>
    cases h
    refine ⟨hs.task_status, hs.server, fun q hq => ?_, hs.lastAccepted, hs.none⟩
    rcases List.mem_append.1 hq with hq | hq
    · exact hs.sent q hq
    · obtain rfl := List.mem_singleton.1 hq
      refine ⟨?_, le_rfl⟩
      rw [ite_eq_not, hs.task_status]
  | process accepted =>
    rw [step] at h
    split at h
    · cases h
    · rename_i q sent hsent
      cases h
      obtain ⟨henable, hle⟩ := hs.sent q (hsent ▸ List.mem_cons_self)
      have hrest : ∀ p ∈ sent, p.enable = (!turned start p.successes) ∧
          p.successes ≤ s.successes :=
        fun p hp => hs.sent p (hsent ▸ List.mem_cons_of_mem q hp)
      cases accepted with
      | true =>
        refine ⟨hs.task_status, henable, hrest, ?_, fun h => by cases h⟩
        rintro m ⟨⟩
        exact hle
      | false =>
        refine ⟨hs.task_status, hs.server, hrest, hs.lastAccepted, fun hnone => ?_⟩
        obtain ⟨hzero, htrue⟩ := hs.none hnone
        refine ⟨hzero, ?_⟩
        simpa using htrue
  | reply i r =>
    obtain ⟨success, hsuccess, rfl⟩ := Option.map_eq_some_iff.1 h
    have hless : Inv start { s with answers := s.answers.eraseIdx i } :=
      ⟨hs.task_status, hs.server, hs.sent, hs.lastAccepted, fun hnone =>
        ⟨(hs.none hnone).1, fun hmem => (hs.none hnone).2 (Async.mem_of_eraseIdx hmem)⟩⟩
    cases r with
    | failure => exact hless
    | delivered =>
      cases success with
      | false => exact hless
      | true =>
        have hsome : s.lastAccepted ≠ none :=
          fun hnone => (hs.none hnone).2 (List.mem_of_getElem? hsuccess)
        refine ⟨?_, hs.server, fun q hq => ?_, fun m hm => ?_, fun hnone => absurd hnone hsome⟩
        · show (if s.task_status = true then false else true) = turned start (s.successes + 1)
          rw [ite_eq_not, hs.task_status, turned_succ]
        · obtain ⟨henable, hle⟩ := hs.sent q hq
          exact ⟨henable, Nat.le_succ_of_le hle⟩
        · exact Nat.le_succ_of_le (hs.lastAccepted m hm)

/-- The card and the server agree exactly when an odd number of successes has come since
the last accepted request was sent. -/
theorem Inv.agree_iff {start : Bool} {s : State} (hs : Inv start s) :
    s.task_status = s.server ↔ ∀ m ∈ s.lastAccepted, Odd (s.successes - m) := by
  rw [hs.task_status, hs.server]
  cases hlast : s.lastAccepted with
  | none => simp [(hs.none hlast).1, turned_zero]
  | some m =>
    have hle := hs.lastAccepted m hlast
    simp [turned_eq_not_iff start hle]

/-! ## When the two agree -/

/-- The successes handled once an answer has come. -/
def successesAfter (s : State) (i : ℕ) : Reply → ℕ
  | .delivered => if s.answers[i]? = some true then s.successes + 1 else s.successes
  | .failure => s.successes

/-- What a step must meet: with the last answer that is outstanding, an odd number of
successes has come since the last accepted request was sent, if there was one. -/
def StepOk (s : State) : Event → Prop
  | .changeTaskDesiplay | .process _ => True
  | .reply i r => s.sent = [] → s.answers.length = 1 →
    ∀ m ∈ s.lastAccepted, Odd (successesAfter s i r - m)

instance (s : State) (e : Event) : Decidable (StepOk s e) := by
  match e with
  | .changeTaskDesiplay => exact isTrue trivial
  | .process _ => exact isTrue trivial
  | .reply i r => unfold StepOk; infer_instance

/-- The property: when nothing is outstanding, the card shows what the server holds. -/
def Agrees (s : State) : Prop := s.sent = [] → s.answers = [] → s.task_status = s.server

/-- What an answer does, apart from the status that is shown. -/
theorem reply_cases {s t : State} {i : ℕ} {r : Reply} (h : step s (.reply i r) = some t) :
    t.sent = s.sent ∧ t.answers = s.answers.eraseIdx i ∧ (∃ success, s.answers[i]? = some success) ∧
      t.lastAccepted = s.lastAccepted ∧ t.successes = successesAfter s i r := by
  obtain ⟨success, hsuccess, rfl⟩ := Option.map_eq_some_iff.1 h
  cases r <;> cases success <;> simp [successesAfter, hsuccess]

/-- A step keeps the property exactly when it meets the condition. -/
theorem stepOk_iff {start : Bool} {s t : State} {e : Event} (hs : Inv start s)
    (h : step s e = some t) : StepOk s e ↔ Agrees t := by
  have ht := inv_step hs h
  cases e with
  | changeTaskDesiplay =>
    cases h
    refine iff_of_true trivial fun hsent _ => ?_
    simp at hsent
  | process accepted =>
    rw [step] at h
    split at h
    · cases h
    · cases h
      refine iff_of_true trivial fun _ hanswers => ?_
      simp at hanswers
  | reply i r =>
    obtain ⟨hsent, hanswers, ⟨success, hsuccess⟩, hlast, hsuccesses⟩ := reply_cases h
    rw [StepOk, Agrees, ht.agree_iff, hsent, hanswers, hlast, hsuccesses,
      Async.eraseIdx_eq_nil_iff hsuccess]

/-- **When the switch tells the truth.**  In a run of any taps, processed in the order
sent and answered in any order, the card shows what the server holds whenever nothing is
outstanding, exactly when each time the last answer comes an odd number of successes has
been handled since the last accepted request was sent. -/
theorem agrees_iff {start : Bool} {es : List Event} {s : State}
    (h : (machine start).run es = some s) :
    (machine start).Meets StepOk es ↔
      ∀ fs, fs <+: es → ∀ t, (machine start).run fs = some t → Agrees t :=
  (machine start).meets_iff_of_invariant (I := fun _ => Agrees) (fun _ _ => rfl)
    (inv_init start) (fun _ _ _ hs _ => inv_step hs)
    (fun _ _ _ _ _ hs _ => stepOk_iff hs) h

/-- Three taps at once, all accepted: three successes. -/
theorem agrees_iff_sample :
    ∃ s, (machine true).run [.changeTaskDesiplay, .changeTaskDesiplay, .changeTaskDesiplay,
        .process true, .process true, .process true, .reply 2 .delivered, .reply 0 .delivered,
        .reply 0 .delivered] = some s ∧ Agrees s := by
  have hok : (machine true).Meets StepOk
      [.changeTaskDesiplay, .changeTaskDesiplay, .changeTaskDesiplay,
        .process true, .process true, .process true, .reply 2 .delivered, .reply 0 .delivered,
        .reply 0 .delivered] := by decide
  exact ⟨_, rfl, (agrees_iff rfl).1 hok _ List.prefix_rfl _ rfl⟩

/-- **Two taps at once.**  Both ask the server to switch the task off, and both are
accepted: the card shows it switched on. -/
theorem two_taps :
    ∃ s, (machine true).run [.changeTaskDesiplay, .changeTaskDesiplay, .process true,
        .process true, .reply 0 .delivered, .reply 0 .delivered] = some s ∧
      s.sent = [] ∧ s.answers = [] ∧ s.task_status = true ∧ s.server = false :=
  ⟨_, rfl, rfl, rfl, rfl, rfl⟩

/-! ## One tap at a time -/

/-- A tap when nothing is outstanding; and the answer to an accepted request is not
lost. -/
def Alone (s : State) : Event → Prop
  | .changeTaskDesiplay => s.sent = [] ∧ s.answers = []
  | .process _ => True
  | .reply i r => s.answers[i]? = some true → r = .delivered

/-- At most one request is outstanding, and what it will do to the card it does to the
server. -/
inductive OneAtATime (s : State) : Prop where
  | idle (sent : s.sent = []) (answers : s.answers = []) (agree : s.task_status = s.server)
  | asked (q : Request) (sent : s.sent = [q]) (answers : s.answers = [])
      (agree : s.task_status = s.server) (enable : q.enable = !s.task_status)
  | accepted (sent : s.sent = []) (answers : s.answers = [true])
      (differ : s.server = !s.task_status)
  | rejected (sent : s.sent = []) (answers : s.answers = [false])
      (agree : s.task_status = s.server)

theorem oneAtATime_step {s t : State} {e : Event} (hs : OneAtATime s) (hok : Alone s e)
    (h : step s e = some t) : OneAtATime t := by
  cases e with
  | changeTaskDesiplay =>
    obtain ⟨hsent, hanswers⟩ := hok
    cases h
    cases hs with
    | idle _ _ agree => exact .asked _ (by rw [hsent]; rfl) hanswers agree (ite_eq_not _)
    | asked q sent _ _ _ => simp [hsent] at sent
    | accepted _ answers _ | rejected _ answers _ => simp [hanswers] at answers
  | process accepted =>
    cases hs with
    | asked q sent answers agree enable =>
      simp only [step, sent, Option.some.injEq] at h
      subst h
      cases accepted with
      | true => exact .accepted rfl (by simp [answers]) enable
      | false => exact .rejected rfl (by simp [answers]) agree
    | idle sent _ _ | accepted sent _ _ | rejected sent _ _ => simp [step, sent] at h
  | reply i r =>
    obtain ⟨success, hsuccess, rfl⟩ := Option.map_eq_some_iff.1 h
    cases hs with
    | idle _ answers _ | asked _ _ answers _ _ => simp [answers] at hsuccess
    | accepted sent answers differ =>
      obtain ⟨rfl, rfl⟩ : i = 0 ∧ success = true := by
        simpa [answers, List.getElem?_singleton, eq_comm] using hsuccess
      obtain rfl := hok hsuccess
      exact .idle sent (by simp [answers]) (by rw [ite_eq_not, differ])
    | rejected sent answers agree =>
      obtain ⟨rfl, rfl⟩ : i = 0 ∧ success = false := by
        simpa [answers, List.getElem?_singleton, eq_comm] using hsuccess
      cases r <;> exact .idle sent (by simp [answers]) agree

/-- **One tap at a time.**  When every tap waits for the answer to the one before, and no
answer to an accepted request is lost, the card shows what the server holds whenever
nothing is outstanding. -/
theorem agrees_of_alone {start : Bool} {es : List Event} {s : State}
    (hok : (machine start).Meets Alone es) (h : (machine start).run es = some s) : Agrees s := by
  have hs := (machine start).invariant (I := OneAtATime) (.idle rfl rfl rfl)
    (fun _ _ _ => oneAtATime_step) hok h
  intro hsent hanswers
  cases hs with
  | idle _ _ agree => exact agree
  | asked q sent _ _ _ => simp [hsent] at sent
  | accepted _ answers _ | rejected _ answers _ => simp [hanswers] at answers

end TaskSwitch
