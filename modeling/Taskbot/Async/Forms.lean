import Mathlib.Logic.Function.Basic
import Taskbot.Async.Machine

/-!
# A form over a record

A form is filled with the record a server has, changed by its user, and saved as a whole.
A save sends every field, those the user has not touched too; what it sends of them is what
an answer has put there, or what stood there before any came.

* `Form` — what an answer puts in a field, what is sent of it, and what stands there first.
* `Message`, `Screen`, `Event`, `step` — the record, the form, and what is in flight.
* `Form.shown` — what an untouched field shows of a record that has stayed as it was.
* `Kept`, `SaveOk`, `kept_iff` — **the fields the user has not touched stay as they were,
  throughout a run, exactly when every save sends them as they were**.
-/

namespace Async

/-- A form with fields in `F`, over records with values in `V`; its state variables have
values in `W`. -/
structure Form (F V W : Type*) where
  /-- Is the field set when an answer comes in? -/
  loads : F → Bool
  /-- What the answer puts there. -/
  load : F → V → W
  /-- What is sent of it. -/
  send : F → W → V
  /-- What stands there at first. -/
  blank : F → W
  /-- Is the record asked for again later on? -/
  again : Bool

namespace Form

variable {F V W : Type*}

/-- What is in flight. -/
inductive Message (F V : Type*) where
  /-- A request for the record. -/
  | read
  /-- The record, as it was when the request was served. -/
  | answer (record : F → V)
  /-- A save on its way to the server. -/
  | save (record : F → V)

/-- The record, the form over it, and what is in flight; `answered`, whether an answer has
come in, and `touched`, the fields the user has put something in, are for the statements
only. -/
structure Screen (F V W : Type*) where
  record : F → V
  form : F → W
  inFlight : List (Message F V)
  answered : Bool
  touched : List F

/-- What can happen. -/
inductive Event (F W : Type*) where
  | read
  /-- The user puts something in a field. -/
  | edit (f : F) (w : W)
  | save
  /-- The request at place `i` is served. -/
  | serve (i : ℕ)
  /-- The answer at place `i` arrives. -/
  | deliver (i : ℕ)
  /-- What is at place `i` is lost, or a save that is refused. -/
  | lose (i : ℕ)

variable (form : Form F V W)

/-- The form when a record comes in. -/
def filled (w : F → W) (record : F → V) : F → W :=
  fun f => if form.loads f then form.load f (record f) else w f

/-- The record a save sends. -/
def sent (w : F → W) : F → V := fun f => form.send f (w f)

variable [DecidableEq F]

/-- One event. -/
def step (s : Screen F V W) : Event F W → Option (Screen F V W)
  | .read => if form.again then some { s with inFlight := s.inFlight ++ [.read] } else none
  | .edit f w => some { s with form := Function.update s.form f w, touched := f :: s.touched }
  | .save => some { s with inFlight := s.inFlight ++ [.save (form.sent s.form)] }
  | .serve i =>
    match s.inFlight[i]? with
    | some .read => some { s with inFlight := s.inFlight.eraseIdx i ++ [.answer s.record] }
    | some (.save r) => some { s with record := r, inFlight := s.inFlight.eraseIdx i }
    | some (.answer _) | none => none
  | .deliver i =>
    match s.inFlight[i]? with
    | some (.answer r) =>
      some { s with
        form := form.filled s.form r, answered := true, inFlight := s.inFlight.eraseIdx i }
    | some .read | some (.save _) | none => none
  | .lose i => s.inFlight[i]?.map fun _ => { s with inFlight := s.inFlight.eraseIdx i }

/-- A form that is opened over a record, and has just asked for it. -/
def opened (record : F → V) : Screen F V W := ⟨record, form.blank, [.read], false, []⟩

/-- The form from then on. -/
def machine (record : F → V) : Machine (Screen F V W) (Event F W) :=
  ⟨form.opened record, form.step⟩

/-! ## What can happen to a message -/

variable {form}

theorem step_serve {s t : Screen F V W} {i : ℕ} (h : form.step s (.serve i) = some t) :
    t = { s with inFlight := s.inFlight.eraseIdx i ++ [.answer s.record] } ∨
    ∃ r, .save r ∈ s.inFlight ∧ t = { s with record := r, inFlight := s.inFlight.eraseIdx i } := by
  simp only [step] at h
  split at h
  · cases h
    exact .inl rfl
  · next r hr =>
    cases h
    exact .inr ⟨r, List.mem_of_getElem? hr, rfl⟩
  · cases h
  · cases h

theorem step_deliver {s t : Screen F V W} {i : ℕ} (h : form.step s (.deliver i) = some t) :
    ∃ r, .answer r ∈ s.inFlight ∧
      t = { s with
        form := form.filled s.form r, answered := true, inFlight := s.inFlight.eraseIdx i } := by
  simp only [step] at h
  split at h
  · next r hr =>
    cases h
    exact ⟨r, List.mem_of_getElem? hr, rfl⟩
  · cases h
  · cases h
  · cases h

/-! ## What the user has not touched -/

variable (form)

/-- What an untouched field shows, of a record that has had one value there: the value, once
an answer has come in that sets the field. -/
def shown (answered : Bool) (f : F) (v : V) : W :=
  if answered && form.loads f then form.load f v else form.blank f

variable (record : F → V)

/-- The property: what the user has not touched is as it was, and will be when the saves in
flight are served. -/
def Kept (s : Screen F V W) : Prop :=
  ∀ f ∉ s.touched, s.record f = record f ∧ ∀ r, .save r ∈ s.inFlight → r f = record f

/-- A save sends what the user has not touched as it was. -/
def SaveOk (s : Screen F V W) : Event F W → Prop
  | .save => ∀ f ∉ s.touched, form.send f (form.shown s.answered f (record f)) = record f
  | .read | .edit _ _ | .serve _ | .deliver _ | .lose _ => True

/-- The untouched fields of the form and of the answers in flight are those of the record. -/
def Faithful (s : Screen F V W) : Prop :=
  ∀ f ∉ s.touched, s.form f = form.shown s.answered f (record f) ∧
    ∀ r, .answer r ∈ s.inFlight → r f = record f

variable {form record}

omit [DecidableEq F] in
/-- Once an answer has come in, a further one changes nothing the user has not touched. -/
theorem shown_filled {f : F} {answered : Bool} {w : F → W} {r : F → V}
    (hw : w f = form.shown answered f (record f)) (hr : r f = record f) :
    form.filled w r f = form.shown true f (record f) := by
  cases hloads : form.loads f with
  | true => simp [filled, shown, hloads, hr]
  | false => simp [filled, shown, hloads, hw]

theorem faithful_step {s t : Screen F V W} {e : Event F W} (hs : form.Faithful record s)
    (hkept : Kept record s) (h : form.step s e = some t) : form.Faithful record t := by
  cases e with
  | read =>
    obtain ⟨-, h⟩ := Option.ite_none_right_eq_some.1 h
    cases h
    exact fun f hf => ⟨(hs f hf).1, fun r hr => (hs f hf).2 r (by simpa using hr)⟩
  | edit g w =>
    cases h
    intro f hf
    obtain ⟨hne, hf⟩ := not_or.1 (mt List.mem_cons.2 hf)
    exact ⟨(Function.update_of_ne hne w s.form).trans (hs f hf).1, (hs f hf).2⟩
  | save =>
    cases h
    exact fun f hf => ⟨(hs f hf).1, fun r hr => (hs f hf).2 r (by simpa using hr)⟩
  | serve i =>
    obtain rfl | ⟨r, -, rfl⟩ := step_serve h
    · refine fun f hf => ⟨(hs f hf).1, fun r hr => ?_⟩
      rcases List.mem_append.1 hr with hr | hr
      · exact (hs f hf).2 r (mem_of_eraseIdx hr)
      · cases List.mem_singleton.1 hr
        exact (hkept f hf).1
    · exact fun f hf => ⟨(hs f hf).1, fun r hr => (hs f hf).2 r (mem_of_eraseIdx hr)⟩
  | deliver i =>
    obtain ⟨r, hr, rfl⟩ := step_deliver h
    exact fun f hf => ⟨shown_filled (hs f hf).1 ((hs f hf).2 r hr),
      fun r hr => (hs f hf).2 r (mem_of_eraseIdx hr)⟩
  | lose i =>
    obtain ⟨m, -, rfl⟩ := Option.map_eq_some_iff.1 h
    exact fun f hf => ⟨(hs f hf).1, fun r hr => (hs f hf).2 r (mem_of_eraseIdx hr)⟩

/-- One event keeps what the user has not touched exactly when, if it is a save, it sends it
as it was. -/
theorem saveOk_iff_kept {s t : Screen F V W} {e : Event F W} (hs : form.Faithful record s)
    (hkept : Kept record s) (h : form.step s e = some t) :
    form.SaveOk record s e ↔ Kept record t := by
  cases e with
  | read =>
    obtain ⟨-, h⟩ := Option.ite_none_right_eq_some.1 h
    cases h
    refine iff_of_true trivial fun f hf => ⟨(hkept f hf).1, fun r hr => ?_⟩
    exact (hkept f hf).2 r (by simpa using hr)
  | edit g w =>
    cases h
    exact iff_of_true trivial fun f hf => hkept f (mt (List.mem_cons_of_mem g) hf)
  | save =>
    cases h
    have hsent : ∀ f ∉ s.touched, form.sent s.form f = record f ↔
        form.send f (form.shown s.answered f (record f)) = record f := by
      intro f hf
      rw [sent, (hs f hf).1]
    constructor
    · refine fun hok f hf => ⟨(hkept f hf).1, fun r hr => ?_⟩
      rcases List.mem_append.1 hr with hr | hr
      · exact (hkept f hf).2 r hr
      · cases List.mem_singleton.1 hr
        exact (hsent f hf).2 (hok f hf)
    · intro ht f hf
      exact (hsent f hf).1 ((ht f hf).2 _ (List.mem_append_right _ (List.mem_singleton_self _)))
  | serve i =>
    refine iff_of_true trivial ?_
    obtain rfl | ⟨r, hr, rfl⟩ := step_serve h
    · refine fun f hf => ⟨(hkept f hf).1, fun r hr => (hkept f hf).2 r ?_⟩
      rcases List.mem_append.1 hr with hr | hr
      · exact mem_of_eraseIdx hr
      · cases List.mem_singleton.1 hr
    · exact fun f hf => ⟨(hkept f hf).2 r hr,
        fun r hr => (hkept f hf).2 r (mem_of_eraseIdx hr)⟩
  | deliver i =>
    obtain ⟨r, -, rfl⟩ := step_deliver h
    refine iff_of_true trivial fun f hf => ⟨(hkept f hf).1, fun r hr => ?_⟩
    exact (hkept f hf).2 r (mem_of_eraseIdx hr)
  | lose i =>
    obtain ⟨m, -, rfl⟩ := Option.map_eq_some_iff.1 h
    refine iff_of_true trivial fun f hf => ⟨(hkept f hf).1, fun r hr => ?_⟩
    exact (hkept f hf).2 r (mem_of_eraseIdx hr)

omit [DecidableEq F] in
theorem kept_opened : Kept record (form.opened record) := by
  simp [Kept, opened]

omit [DecidableEq F] in
theorem faithful_opened : form.Faithful record (form.opened record) := by
  simp [Faithful, opened, shown]

/-- **What the user has not touched.**  Throughout a run it stays as it was exactly when
every save sends it as it was. -/
theorem kept_iff {es : List (Event F W)} {s : Screen F V W}
    (h : (form.machine record).run es = some s) :
    (form.machine record).Meets (form.SaveOk record) es ↔
      ∀ fs, fs <+: es → ∀ t, (form.machine record).run fs = some t → Kept record t := by
  refine (form.machine record).meets_iff_of_invariant (I := fun _ => Kept record)
    (J := fun s => Kept record s ∧ form.Faithful record s) kept_opened
    ⟨kept_opened, faithful_opened⟩ ?_ ?_ h
  · rintro s e t ⟨hkept, hs⟩ hok hst
    exact ⟨(saveOk_iff_kept hs hkept hst).1 hok, faithful_step hs hkept hst⟩
  · rintro es s e t - ⟨-, hs⟩ hkept hst
    exact saveOk_iff_kept hs hkept hst

end Form

end Async
