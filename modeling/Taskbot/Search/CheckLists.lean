import Mathlib
import Taskbot.Async.Drawn
import Taskbot.Async.Machine
import Taskbot.Js.Toggle
import Taskbot.Search.Filters

/-!
# The check-lists of the search forms

`NarrowSearch` and `SearchProjects` have three check-lists each.  A tap changes an array
in place and calls two setters: `setCheckUsers` with the index of the item, for all lists
alike, and a flag with whether the item is ticked now.  It is these that make React draw
the ticks again.

* `CheckLists`, `manage` — the arrays, the index and the flags; the handlers of the two
  forms are `manage` with the flag of the list.
* `ticked_run` — **an item is ticked when it was tapped an odd number of times since the
  filters were cleared.**
* `StepOk` — a tap has another index than the last one, or the flag of its list does not
  tell yet what it is about to be told.
* `drawn_iff` — the ticks on the screen are those of the arrays in all of a run exactly
  when all its taps are such.
-/

namespace Search

variable {ι φ α : Type}

/-- The check-lists `ι` of a form, with the flags `φ`. -/
structure CheckLists (ι φ α : Type) where
  ticked : Async.Drawn (ι → List α)
  /-- `null` at first. -/
  checkUsers : Option ℕ
  flag : φ → Bool

/-- The form when it is opened. -/
def CheckLists.start : CheckLists ι φ α := ⟨Async.Drawn.start fun _ => [], none, fun _ => false⟩

variable [DecidableEq ι] [DecidableEq φ] [DecidableEq α]

/-- The handlers: `setCheckUsers(index)`, then `splice` and `set…(false)`, or `push` and
`set…(true)`. -/
def manage (flagOf : ι → φ) (s : CheckLists ι φ α) (which : ι) (item : α) (index : ℕ) :
    CheckLists ι φ α :=
  let ticks : Bool := item ∉ s.ticked.inPlace which
  { ticked := s.ticked.mutate
      (s.checkUsers ≠ some index || s.flag (flagOf which) ≠ ticks)
      (Function.update s.ticked.inPlace which (Js.toggle (s.ticked.inPlace which) item))
    checkUsers := some index
    flag := Function.update s.flag (flagOf which) ticks }

/-- `clearAllData`: the three arrays are new ones; the index and the flags stay. -/
def clearAllData (s : CheckLists ι φ α) : CheckLists ι φ α :=
  { s with ticked := s.ticked.replace fun _ => [] }

/-- A tap on an item, which is at an index of its list, or on "clear filters". -/
inductive CheckEvent (ι α : Type) where
  | tap (which : ι) (item : α) (index : ℕ)
  | clear
  deriving DecidableEq

/-- A form with given handlers. -/
def checkMachine (handler : CheckLists ι φ α → ι → α → ℕ → CheckLists ι φ α) :
    Async.Machine (CheckLists ι φ α) (CheckEvent ι α) where
  init := CheckLists.start
  step s
    | .tap which item index => some (handler s which item index)
    | .clear => some (clearAllData s)

/-! ## The two forms -/

namespace NarrowSearch

/-- The check-lists of `NarrowSearch`. -/
inductive CheckList where
  | selectedSellerType
  | selectedServices
  | selectedSkill
  deriving DecidableEq

/-- Its flags. -/
inductive Flag where
  | selectedSeller
  | selectedSkillType
  deriving DecidableEq

/-- The flag of a list: two of them share one. -/
def flagOf : CheckList → Flag
  | .selectedSellerType | .selectedServices => .selectedSeller
  | .selectedSkill => .selectedSkillType

/-- The state of the form. -/
abbrev State (α : Type) : Type := CheckLists CheckList Flag α

def manageSelectedType (s : State α) (item : α) (index : ℕ) : State α :=
  manage flagOf s .selectedSellerType item index

def manageSelectedServices (s : State α) (item : α) (index : ℕ) : State α :=
  manage flagOf s .selectedServices item index

def manageEnglishSkill (s : State α) (item : α) (index : ℕ) : State α :=
  manage flagOf s .selectedSkill item index

/-- The handler of a list. -/
def handler (s : State α) : CheckList → α → ℕ → State α
  | .selectedSellerType => manageSelectedType s
  | .selectedServices => manageSelectedServices s
  | .selectedSkill => manageEnglishSkill s

theorem handler_eq : (handler : State α → _) = manage flagOf := by
  funext s which item index
  cases which <;> rfl

end NarrowSearch

namespace SearchProjects

/-- The flags of `SearchProjects`, one for each list. -/
inductive Flag where
  | selectedSkills
  | selectedExpertiesType
  | selectedLangType
  deriving DecidableEq

/-- The flag of a list. -/
def flagOf : ProjectList → Flag
  | .selectedSkillsType => .selectedSkills
  | .selectedExperties => .selectedExpertiesType
  | .selectedLang => .selectedLangType

/-- The state of the form. -/
abbrev State (α : Type) : Type := CheckLists ProjectList Flag α

def manageSelectedSkills (s : State α) (item : α) (index : ℕ) : State α :=
  manage flagOf s .selectedSkillsType item index

def manageExpertise (s : State α) (item : α) (index : ℕ) : State α :=
  manage flagOf s .selectedExperties item index

def manageLanguages (s : State α) (item : α) (index : ℕ) : State α :=
  manage flagOf s .selectedLang item index

/-- The handler of a list. -/
def handler (s : State α) : ProjectList → α → ℕ → State α
  | .selectedSkillsType => manageSelectedSkills s
  | .selectedExperties => manageExpertise s
  | .selectedLang => manageLanguages s

theorem handler_eq : (handler : State α → _) = manage flagOf := by
  funext s which item index
  cases which <;> rfl

end SearchProjects

/-! ## The arrays -/

/-- The taps on a list since the filters were cleared last. -/
def tapsSinceClear (which : ι) (es : List (CheckEvent ι α)) : List α :=
  es.foldl (fun taps e =>
    match e with
    | .tap list item _ => if list = which then taps ++ [item] else taps
    | .clear => []) []

omit [DecidableEq α] in
theorem tapsSinceClear_tap (which list : ι) (es : List (CheckEvent ι α)) (item : α)
    (index : ℕ) :
    tapsSinceClear which (es ++ [.tap list item index]) =
      if list = which then tapsSinceClear which es ++ [item] else tapsSinceClear which es := by
  rw [tapsSinceClear, List.foldl_concat, tapsSinceClear]

omit [DecidableEq α] in
theorem tapsSinceClear_clear (which : ι) (es : List (CheckEvent ι α)) :
    tapsSinceClear which (es ++ [.clear]) = [] := by
  rw [tapsSinceClear, List.foldl_concat]

/-- The arrays are the taps since the last clear, one by one. -/
theorem ticked_eq {flagOf : ι → φ} {es : List (CheckEvent ι α)} {s : CheckLists ι φ α}
    (h : (checkMachine (manage flagOf)).run es = some s) (which : ι) :
    s.ticked.inPlace which = (tapsSinceClear which es).foldl Js.toggle [] := by
  induction es using List.reverseRecOn generalizing s with
  | nil =>
    cases h
    rfl
  | append_singleton es e ih =>
    obtain ⟨t, ht, hts⟩ := (checkMachine (manage flagOf)).run_concat_eq_some.1 h
    cases e with
    | tap list item index =>
      cases hts
      rw [tapsSinceClear_tap]
      by_cases hlist : list = which
      · subst hlist
        simp [manage, ih ht, List.foldl_append]
      · simp [manage, hlist, Function.update_of_ne (Ne.symm hlist), ih ht]
    | clear =>
      cases hts
      rw [tapsSinceClear_clear]
      rfl

/-- The arrays list no item twice, and those that were tapped an odd number of times
since the last clear. -/
def Selected (es : List (CheckEvent ι α)) (s : CheckLists ι φ α) : Prop :=
  ∀ which, (s.ticked.inPlace which).Nodup ∧
    ∀ item, item ∈ s.ticked.inPlace which ↔ Odd ((tapsSinceClear which es).count item)

/-- **Ticked is tapped an odd number of times**, in every run. -/
theorem ticked_run {flagOf : ι → φ} {es : List (CheckEvent ι α)} {s : CheckLists ι φ α}
    (h : (checkMachine (manage flagOf)).run es = some s) : Selected es s := by
  intro which
  rw [ticked_eq h which]
  exact ⟨Js.nodup_foldl_toggle _, Js.mem_foldl_toggle _⟩

/-! ## The ticks on the screen -/

/-- What a step must meet: a tap has another index than the last one on any list, or the
flag of its list tells that the item is ticked just when it is. -/
def StepOk (flagOf : ι → φ) (s : CheckLists ι φ α) : CheckEvent ι α → Prop
  | .tap which item index =>
    s.checkUsers ≠ some index ∨ (s.flag (flagOf which) = true ↔ item ∈ s.ticked.inPlace which)
  | .clear => True

instance (flagOf : ι → φ) (s : CheckLists ι φ α) (e : CheckEvent ι α) :
    Decidable (StepOk flagOf s e) := by
  cases e <;> unfold StepOk <;> infer_instance

/-- A state value has changed. -/
def Changed (s t : CheckLists ι φ α) : Prop := t.checkUsers ≠ s.checkUsers ∨ t.flag ≠ s.flag

/-- The flag is told something new when it tells what is ticked now. -/
theorem flag_ne_iff (b : Bool) (item : α) (l : List α) :
    b ≠ decide (item ∉ l) ↔ (b = true ↔ item ∈ l) := by
  by_cases hitem : item ∈ l <;> cases b <;> simp [hitem]

/-- A tap changes a state value exactly when the step meets its condition. -/
theorem changed_manage_iff (flagOf : ι → φ) (s : CheckLists ι φ α) (which : ι) (item : α)
    (index : ℕ) :
    Changed s (manage flagOf s which item index) ↔ StepOk flagOf s (.tap which item index) := by
  rw [Changed, StepOk, ← flag_ne_iff, manage]
  refine or_congr ne_comm (not_congr ?_)
  rw [Function.update_eq_iff]
  simp [eq_comm]

/-- A tap leaves no array as it was. -/
theorem manage_ne (flagOf : ι → φ) (s : CheckLists ι φ α) (which : ι) (item : α) (index : ℕ) :
    (manage flagOf s which item index).ticked.inPlace ≠ s.ticked.inPlace := by
  intro h
  have hwhich := congrFun h which
  simp only [manage, Async.Drawn.inPlace_mutate, Function.update_self] at hwhich
  have hlength := congrArg List.length hwhich
  by_cases hitem : item ∈ s.ticked.inPlace which
  · have hpos := List.length_pos_of_mem hitem
    rw [Js.toggle_of_mem hitem, List.length_erase_of_mem hitem] at hlength
    omega
  · rw [Js.toggle_of_not_mem hitem, List.length_append, List.length_singleton] at hlength
    omega

/-- A tap is seen exactly when the step meets its condition. -/
theorem fresh_manage_iff (flagOf : ι → φ) {s : CheckLists ι φ α} (hs : s.ticked.Fresh)
    (which : ι) (item : α) (index : ℕ) :
    (manage flagOf s which item index).ticked.Fresh ↔
      StepOk flagOf s (.tap which item index) := by
  have hne := manage_ne flagOf s which item index
  rw [manage, Async.Drawn.inPlace_mutate] at hne
  rw [manage, Async.Drawn.fresh_mutate_iff hs hne, StepOk, ← flag_ne_iff]
  simp

/-- Every tap of a run changes a state value. -/
def EveryTapChanges (m : Async.Machine (CheckLists ι φ α) (CheckEvent ι α))
    (es : List (CheckEvent ι α)) : Prop :=
  ∀ fs which item index, fs ++ [.tap which item index] <+: es →
    ∀ s t, m.run fs = some s → m.run (fs ++ [.tap which item index]) = some t → Changed s t

/-- Every tap of a run changes a state value exactly when its steps meet the condition. -/
theorem everyTapChanges_iff (flagOf : ι → φ) {es : List (CheckEvent ι α)}
    {s : CheckLists ι φ α} (h : (checkMachine (manage flagOf)).run es = some s) :
    (checkMachine (manage flagOf)).Meets (StepOk flagOf) es ↔
      EveryTapChanges (checkMachine (manage flagOf)) es := by
  have htap : ∀ (k : ι × α × ℕ) s t, True →
      (checkMachine (manage flagOf)).step s (.tap k.1 k.2.1 k.2.2) = some t →
        (StepOk flagOf s (.tap k.1 k.2.1 k.2.2) ↔ Changed s t) := by
    rintro k s t - ⟨⟩
    exact (changed_manage_iff flagOf s k.1 k.2.1 k.2.2).symm
  have hother : ∀ s e, (∀ k : ι × α × ℕ, e ≠ .tap k.1 k.2.1 k.2.2) → StepOk flagOf s e := by
    intro s e he
    cases e with
    | tap which item index => exact absurd rfl (he (which, item, index))
    | clear => trivial
  rw [(checkMachine (manage flagOf)).meets_iff_of_events (J := fun _ => True)
    (fun k : ι × α × ℕ => .tap k.1 k.2.1 k.2.2) trivial (fun _ _ _ _ _ => trivial) htap hother h]
  exact ⟨fun hall fs which item index => hall fs (which, item, index),
    fun hall fs k => hall fs k.1 k.2.1 k.2.2⟩

/-- The ticks on the screen are those of the arrays exactly when the steps meet it. -/
theorem everyFresh_iff (flagOf : ι → φ) {es : List (CheckEvent ι α)} {s : CheckLists ι φ α}
    (h : (checkMachine (manage flagOf)).run es = some s) :
    (checkMachine (manage flagOf)).Meets (StepOk flagOf) es ↔
      ∀ fs, fs <+: es → ∀ t, (checkMachine (manage flagOf)).run fs = some t →
        t.ticked.Fresh := by
  refine (checkMachine (manage flagOf)).meets_iff (I := fun _ t => t.ticked.Fresh)
    (Async.Drawn.fresh_start _) ?_ h
  intro _ t e u _ ht htu
  cases e with
  | tap which item index =>
    cases htu
    exact (fresh_manage_iff flagOf ht which item index).symm
  | clear =>
    cases htu
    exact iff_of_true trivial (t.ticked.fresh_replace _)

/-- **The ticks on the screen.**  In a run of taps and clears, the arrays are what was
tapped an odd number of times since the last clear and the ticks on the screen are those
of the arrays throughout, and every tap changes a state value, exactly when every tap
has another index than the one before it or finds the flag of its list telling what is
ticked. -/
theorem drawn_iff (flagOf : ι → φ) {es : List (CheckEvent ι α)} {s : CheckLists ι φ α}
    (h : (checkMachine (manage flagOf)).run es = some s) :
    (checkMachine (manage flagOf)).Meets (StepOk flagOf) es ↔
      (∀ fs, fs <+: es → ∀ t, (checkMachine (manage flagOf)).run fs = some t →
        Selected fs t ∧ t.ticked.drawn = t.ticked.inPlace) ∧
      EveryTapChanges (checkMachine (manage flagOf)) es := by
  constructor
  · intro hok
    have hfresh := (everyFresh_iff flagOf h).1 hok
    exact ⟨fun fs hfs t ht => ⟨ticked_run ht, hfresh fs hfs t ht⟩,
      (everyTapChanges_iff flagOf h).1 hok⟩
  · rintro ⟨-, hchanges⟩
    exact (everyTapChanges_iff flagOf h).2 hchanges

/-- **When the check boxes of the two forms are not stale.** -/
theorem neverStale_iff {es : List (CheckEvent NarrowSearch.CheckList α)}
    {s : NarrowSearch.State α} (h : (checkMachine NarrowSearch.handler).run es = some s)
    {ds : List (CheckEvent ProjectList α)} {t : SearchProjects.State α}
    (h' : (checkMachine SearchProjects.handler).run ds = some t) :
    ((checkMachine NarrowSearch.handler).Meets (StepOk NarrowSearch.flagOf) es ↔
      (∀ fs, fs <+: es → ∀ u, (checkMachine NarrowSearch.handler).run fs = some u →
        Selected fs u ∧ u.ticked.drawn = u.ticked.inPlace) ∧
      EveryTapChanges (checkMachine NarrowSearch.handler) es) ∧
    ((checkMachine SearchProjects.handler).Meets (StepOk SearchProjects.flagOf) ds ↔
      (∀ fs, fs <+: ds → ∀ u, (checkMachine SearchProjects.handler).run fs = some u →
        Selected fs u ∧ u.ticked.drawn = u.ticked.inPlace) ∧
      EveryTapChanges (checkMachine SearchProjects.handler) ds) := by
  rw [NarrowSearch.handler_eq] at h ⊢
  rw [SearchProjects.handler_eq] at h' ⊢
  exact ⟨drawn_iff NarrowSearch.flagOf h, drawn_iff SearchProjects.flagOf h'⟩

/-- Two types of sellers are tapped, the filters are cleared, and the first one is tapped
again. -/
theorem neverStale_iff_sample :
    ∃ s, (checkMachine NarrowSearch.handler).run
        [.tap .selectedSellerType "agency" 0, .tap .selectedSellerType "independent" 1, .clear,
          .tap .selectedSellerType "agency" 0] = some s ∧
      s.ticked.drawn .selectedSellerType = ["agency"] := by
  refine ⟨_, rfl, ?_⟩
  have hok : (checkMachine NarrowSearch.handler).Meets (StepOk NarrowSearch.flagOf)
      [.tap .selectedSellerType "agency" 0, .tap .selectedSellerType "independent" 1, .clear,
        .tap .selectedSellerType "agency" 0] := by decide
  have hnone : (checkMachine SearchProjects.handler).run ([] : List (CheckEvent _ String)) =
      some (checkMachine SearchProjects.handler).init := rfl
  have hdrawn := ((neverStale_iff rfl hnone).1.1 hok).1 _ List.prefix_rfl _ rfl
  exact congrFun hdrawn.2 _

/-- **A tap that is not seen.**  The first type of sellers, the second level of English and
the second type of sellers are tapped: the last tap changes no state value, and its tick is
not drawn. -/
theorem tap_not_seen :
    ∃ s, (checkMachine NarrowSearch.handler).run
        [.tap .selectedSellerType "agency" 0, .tap .selectedSkill "fluent" 1,
          .tap .selectedSellerType "independent" 1] = some s ∧
      s.ticked.inPlace .selectedSellerType = ["agency", "independent"] ∧
      s.ticked.drawn .selectedSellerType = ["agency"] :=
  ⟨_, rfl, rfl, rfl⟩

end Search
