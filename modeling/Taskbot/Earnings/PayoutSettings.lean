import Mathlib

/-!
# The payout settings

The screen `Earnings` lists the methods a freelancer can be paid by, each with its fields,
and fills those of the method that is saved.  Both come as objects, which the handler turns
into arrays; the fields are then filled by their places.

* `Method`, `Saved` — the methods and the one that is saved, as arrays of entries.
* `writeFields`, `prefill`, `getPayoutSettings` — the two loops, and the reply handler; a
  loop that throws is left where it is.
* `Method.filled` — a method with its values filled in under their names.
* `writeFields_eq_iff` — **filling by places does it exactly when each field finds its
  value at its own place.**
* `getPayoutSettings_iff` — when all methods are as they should be, and nothing is thrown.
-/

namespace Earnings

variable {V : Type}

/-- A field of a method: its name, and `val.value`. -/
structure Field (V : Type) where
  name : String
  value : V
  deriving DecidableEq

/-- An entry of `payoutList`. -/
structure Method (V : Type) where
  type : String
  fields : List (Field V)
  deriving DecidableEq

/-- An entry of `savedPayout`: the saved values under their names. -/
structure Saved (V : Type) where
  type : String
  value : List (String × V)
  deriving DecidableEq

/-- The inner loop: `fields[j].val['value'] = savedPayout[0].value[j].val`.  The flag tells
whether it throws. -/
def writeFields : List (Field V) → List (String × V) → List (Field V) × Bool
  | [], _ => ([], false)
  | f :: fields, [] => (f :: fields, true)
  | f :: fields, p :: value =>
    let rest := writeFields fields value
    ({ f with value := p.2 } :: rest.1, rest.2)

/-- The outer loop over `payoutList`; `savedPayout[0].type` throws when nothing is saved. -/
def prefill (savedPayout : List (Saved V)) : List (Method V) → List (Method V) × Bool
  | [] => ([], false)
  | m :: methods =>
    match savedPayout with
    | [] => (m :: methods, true)
    | s :: _ =>
      if m.type = s.type then
        let written := writeFields m.fields s.value
        if written.2 then ({ m with fields := written.1 } :: methods, true)
        else
          let rest := prefill savedPayout methods
          ({ m with fields := written.1 } :: rest.1, rest.2)
      else
        let rest := prefill savedPayout methods
        (m :: rest.1, rest.2)

/-- What the screen keeps of the settings; `thrown` tells that the `catch` branch ran. -/
structure State (V : Type) where
  payoutList : List (Method V)
  savedPayout : List (Saved V)
  loader : Bool
  thrown : Bool
  deriving DecidableEq

/-- `getPayoutSettings` with its answer: the methods, and the one that is saved, if one
is.  The two arrays are emptied when the request is sent. -/
def getPayoutSettings (payout_settings : List (Method V)) (saved_settings : Option (Saved V)) :
    State V :=
  let filled := prefill saved_settings.toList payout_settings
  { payoutList := filled.1
    savedPayout := saved_settings.toList
    loader := false
    thrown := filled.2 }

/-! ## What it should do -/

/-- A field with the value saved under its name, if there is one. -/
def Field.filled (value : List (String × V)) (f : Field V) : Field V :=
  { f with value := (value.lookup f.name).getD f.value }

/-- A method as it should be shown: the saved one has its values, the others are as the
server has sent them. -/
def Method.filled (saved_settings : Option (Saved V)) (m : Method V) : Method V :=
  match saved_settings with
  | none => m
  | some s => if m.type = s.type then { m with fields := m.fields.map (·.filled s.value) } else m

/-- What the inner loop needs: at the place of every field there is a saved value, the one
saved under the name of the field; or the one the field has, if none is. -/
def Aligned (fields : List (Field V)) (value : List (String × V)) : Prop :=
  ∀ j : ℕ, ∀ f ∈ fields[j]?, ∃ p ∈ value[j]?, p.2 = (value.lookup f.name).getD f.value

/-- What the handler needs: there are no methods; or one is saved, and its values are at
the places of its fields. -/
def SettingsOk (payout_settings : List (Method V)) (saved_settings : Option (Saved V)) : Prop :=
  payout_settings = [] ∨
    ∃ s ∈ saved_settings, ∀ m ∈ payout_settings, m.type = s.type → Aligned m.fields s.value

/-! ## The inner loop -/

/-- The loop fills the fields from `value` under their names in `saved`, and does not
throw, exactly when each finds its value at its place. -/
theorem writeFields_eq_map_iff (saved : List (String × V)) (fields : List (Field V))
    (value : List (String × V)) :
    writeFields fields value = (fields.map (·.filled saved), false) ↔
      ∀ j : ℕ, ∀ f ∈ fields[j]?, ∃ p ∈ value[j]?, p.2 = (saved.lookup f.name).getD f.value := by
  induction fields generalizing value with
  | nil => simp [writeFields]
  | cons f fields ih =>
    cases value with
    | nil =>
      refine iff_of_false (fun h => ?_) fun h => ?_
      · cases (Prod.mk.inj h).2
      · obtain ⟨p, hp, -⟩ := h 0 f rfl
        cases hp
    | cons p value =>
      have hih := ih value
      rw [Prod.ext_iff] at hih
      rw [writeFields, Prod.ext_iff, List.map_cons, List.cons_eq_cons, and_assoc, hih]
      have hfirst : { f with value := p.2 } = f.filled saved ↔
          p.2 = (saved.lookup f.name).getD f.value := by
        simp [Field.filled]
      rw [hfirst]
      constructor
      · rintro ⟨hp, hrest⟩ j g hg
        cases j with
        | zero =>
          cases hg
          exact ⟨p, rfl, hp⟩
        | succ j => exact hrest j g hg
      · intro h
        refine ⟨?_, fun j g hg => h (j + 1) g hg⟩
        obtain ⟨q, hq, hvalue⟩ := h 0 f rfl
        cases hq
        exact hvalue

/-- **Filling by places.** -/
theorem writeFields_eq_iff (fields : List (Field V)) (value : List (String × V)) :
    writeFields fields value = (fields.map (·.filled value), false) ↔ Aligned fields value :=
  writeFields_eq_map_iff value fields value

/-! ## The outer loop -/

/-- With a method saved, the loop does what it should exactly when the inner loop does for
every method of the same type. -/
theorem prefill_eq_iff (s : Saved V) (methods : List (Method V)) :
    prefill [s] methods = (methods.map (·.filled (some s)), false) ↔
      ∀ m ∈ methods, m.type = s.type → Aligned m.fields s.value := by
  induction methods with
  | nil => simp [prefill]
  | cons m methods ih =>
    rw [Prod.ext_iff] at ih
    rw [List.forall_mem_cons, ← ih, List.map_cons, prefill]
    by_cases htype : m.type = s.type
    · have hwritten := writeFields_eq_iff m.fields s.value
      rw [Prod.ext_iff] at hwritten
      simp only [htype, if_true, forall_true_left, ← hwritten, Method.filled]
      cases hthrows : (writeFields m.fields s.value).2 with
      | true => simp
      | false => simp [Prod.ext_iff, and_assoc]
    · simp [htype, Method.filled, Prod.ext_iff]

/-- **When the payout settings are filled.**  For all methods with any fields, and for any
saved method or none, the saved method has each value saved under the name of one of its
fields, the other fields and methods are as they were, and nothing is thrown, exactly when
there are no methods, or a method is saved whose values are at the places of its fields. -/
theorem getPayoutSettings_iff (payout_settings : List (Method V))
    (saved_settings : Option (Saved V)) :
    ((getPayoutSettings payout_settings saved_settings).payoutList =
          payout_settings.map (·.filled saved_settings) ∧
        (getPayoutSettings payout_settings saved_settings).thrown = false) ↔
      SettingsOk payout_settings saved_settings := by
  cases saved_settings with
  | none =>
    cases payout_settings with
    | nil => simp [getPayoutSettings, prefill, SettingsOk]
    | cons m methods => simp [getPayoutSettings, prefill, SettingsOk]
  | some s =>
    have hprefill := prefill_eq_iff s payout_settings
    rw [Prod.ext_iff] at hprefill
    show (prefill [s] payout_settings).1 = _ ∧ (prefill [s] payout_settings).2 = _ ↔ _
    rw [hprefill, SettingsOk]
    constructor
    · exact fun h => Or.inr ⟨s, rfl, h⟩
    · rintro (rfl | ⟨s', hs, h⟩)
      · simp
      · cases hs
        exact h

/-- Two methods. -/
def sampleMethods : List (Method String) :=
  [⟨"paypal", [⟨"paypal_email", ""⟩]⟩,
    ⟨"bank", [⟨"bank_account_title", ""⟩, ⟨"bank_account_number", ""⟩]⟩]

/-- The account is saved with its number before its title: they change places. -/
theorem settings_mixed :
    ((getPayoutSettings sampleMethods (some ⟨"bank",
          [("bank_account_number", "0042"), ("bank_account_title", "Ada")]⟩)).payoutList =
        [⟨"paypal", [⟨"paypal_email", ""⟩]⟩,
          ⟨"bank", [⟨"bank_account_title", "0042"⟩, ⟨"bank_account_number", "Ada"⟩]⟩]) ∧
      (getPayoutSettings sampleMethods none).thrown = true := by
  decide

end Earnings
