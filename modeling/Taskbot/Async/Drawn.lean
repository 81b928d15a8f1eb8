import Mathlib

/-!
# What was drawn last

A screen keeps something in an array that its handlers change in place, and is drawn
again only when one of its setters is called with a value other than the one before.  So
what is on the screen is the array as it was at the last drawing.

* `Drawn` — the array and its picture.
* `mutate`, `replace` — the array is changed in place, beside setters that change
  something or not; a new array is set, which is always a change.
* `fresh_mutate_iff` — **an array that is changed in place is drawn exactly when a setter
  has changed something.**
-/

namespace Async

/-- An array and what the last drawing made of it. -/
structure Drawn (η : Type*) where
  inPlace : η
  drawn : η
  deriving DecidableEq

namespace Drawn

variable {η : Type*}

/-- A screen as it is mounted. -/
def start (v : η) : Drawn η := ⟨v, v⟩

/-- The array becomes `v` in place, and the setters called with it have changed something
or not. -/
def mutate (d : Drawn η) (changed : Bool) (v : η) : Drawn η :=
  ⟨v, if changed then v else d.drawn⟩

/-- A new array is set. -/
def replace (_ : Drawn η) (v : η) : Drawn η := ⟨v, v⟩

/-- The picture is the one of the array. -/
def Fresh (d : Drawn η) : Prop := d.drawn = d.inPlace

@[simp] theorem inPlace_mutate (d : Drawn η) (changed : Bool) (v : η) :
    (d.mutate changed v).inPlace = v := rfl

@[simp] theorem inPlace_replace (d : Drawn η) (v : η) : (d.replace v).inPlace = v := rfl

theorem fresh_start (v : η) : (start v).Fresh := rfl

theorem fresh_replace (d : Drawn η) (v : η) : (d.replace v).Fresh := rfl

/-- **A change in place is seen when a setter changes something.** -/
theorem fresh_mutate_iff {d : Drawn η} (hd : d.Fresh) {v : η} (hv : v ≠ d.inPlace)
    (changed : Bool) : (d.mutate changed v).Fresh ↔ changed = true := by
  unfold Fresh mutate
  cases changed with
  | true => simp
  | false =>
    rw [Fresh] at hd
    simp [hd, hv.symm]

end Drawn

end Async
