import Mathlib

/-!
# The screen that is mounted

A wizard shows one screen at a time.  Each time it shows another one, that one starts with
a busy flag of its own; and a reply that comes when its screen is gone finds no flag to
clear.

* `Mounted` — the screen shown, by a number that no screen before it had, and its flag.
* `start`, `finish`, `replace` — a request is sent, its reply is handled, another screen
  is shown.
* `BusyOf` — the flag of a given screen is set.
-/

namespace Async

/-- The screen that is shown. -/
structure Mounted where
  serial : ℕ
  busy : Bool
  deriving DecidableEq

namespace Mounted

/-- The first screen. -/
def first : Mounted := ⟨0, false⟩

/-- The screen sends a request. -/
def start (m : Mounted) : Mounted := { m with busy := true }

/-- The reply to a request of the screen with the given number. -/
def finish (m : Mounted) (i : ℕ) : Mounted := if i = m.serial then { m with busy := false } else m

/-- Another screen is shown. -/
def replace (m : Mounted) : Mounted := ⟨m.serial + 1, false⟩

/-- The flag of the screen with the given number is set. -/
def BusyOf (m : Mounted) (i : ℕ) : Prop := i = m.serial ∧ m.busy = true

instance (m : Mounted) (i : ℕ) : Decidable (m.BusyOf i) := by
  unfold BusyOf
  infer_instance

@[simp] theorem serial_finish (m : Mounted) (i : ℕ) : (m.finish i).serial = m.serial := by
  unfold finish
  split <;> rfl

/-- **The reply clears the flag of its screen**, if that is still there. -/
theorem not_busyOf_finish (m : Mounted) (i : ℕ) : ¬ (m.finish i).BusyOf i := by
  rintro ⟨hserial, hbusy⟩
  rw [serial_finish] at hserial
  rw [finish, if_pos hserial] at hbusy
  cases hbusy

/-- A screen just shown is not busy, and no other one is. -/
theorem not_busyOf_replace (m : Mounted) (i : ℕ) : ¬ m.replace.BusyOf i := by
  rintro ⟨-, hbusy⟩
  cases hbusy

end Mounted

end Async
