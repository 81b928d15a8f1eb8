import Mathlib
import Taskbot.Js.PropertyOrder
import Taskbot.Js.Pushes

/-!
# Milestones as an object

A proposal is sent with its milestones in an object, each under a name that is drawn at
random: `submitProposal` makes it of `milestonesArray`, `handelAddNewMileStone` of
`addNewMilstone`.  What is stored is read with `Object.entries`.

* `Draw`, `milestoneName` — what `Math.random` draws, and the name made of it.
* `mileStoneObject` — the loop both handlers run.
* `newRows`, `milestones` — what the two readers make of the object.
* `roundTrip_iff` — **the milestones are read back each in its place exactly when the
  names differ and the array indices among them come first, in order.**
-/

namespace MilestoneEncoding

open Js (ownEntries fill MayPrecede)

/-- What `Math.random` draws. -/
abbrev Draw : Type := {x : ℚ // 0 ≤ x ∧ x < 1}

/-- `text.substring(2, 12)`. -/
def substring (text : String) : String := String.ofList ((text.toList.drop 2).take 10)

variable {α : Type} (toString36 : Draw → String)

/-- `Math.random().toString(36).substring(2, 12)`; how the text is rounded is left to the
engine. -/
def milestoneName (x : Draw) : String := substring (toString36 x)

/-- The names drawn for `n` milestones. -/
def names (draws : ℕ → Draw) (n : ℕ) : List String :=
  (List.range n).map fun i => milestoneName toString36 (draws i)

/-- The loop over the array; one number is drawn for each milestone. -/
def mileStoneObject (draws : ℕ → Draw) (ms : List α) : List (String × α) :=
  fill [] (ms.zipIdx.map fun m => (milestoneName toString36 (draws m.2), m.1))

/-- The rows `handelAddNewMileStone` pushes: `{key, value}`. -/
def newRows (milestone : List (String × α)) : List (String × α) := ownEntries milestone

/-- The array `getProposalData` makes of the object. -/
def milestones (milestone : List (String × α)) : List α := (newRows milestone).map Prod.snd

/-- The objects of an array: what is in each, and which one it is. -/
def objects (ms : List α) : List (α × ℕ) := ms.zipIdx

/-- What the names must meet: they differ, and the indices among them come first and in
order. -/
structure NamesOk (names : List String) : Prop where
  nodup : names.Nodup
  ordered : names.Pairwise MayPrecede

instance (names : List String) : Decidable (NamesOk names) :=
  decidable_of_iff (names.Nodup ∧ names.Pairwise MayPrecede)
    ⟨fun h => ⟨h.1, h.2⟩, fun h => ⟨h.nodup, h.ordered⟩⟩

variable {toString36}

variable (toString36) in
/-- The names of the items the loop runs over. -/
theorem map_fst_items (draws : ℕ → Draw) (ms : List α) :
    (ms.zipIdx.map fun m => (milestoneName toString36 (draws m.2), m.1)).map Prod.fst =
      names toString36 draws ms.length := by
  rw [List.map_map]
  exact Js.map_name_zipIdx (fun i => milestoneName toString36 (draws i)) ms

variable (toString36) in
/-- And the items. -/
theorem map_snd_items (draws : ℕ → Draw) (ms : List α) :
    (ms.zipIdx.map fun m => (milestoneName toString36 (draws m.2), m.1)).map Prod.snd = ms :=
  Js.map_snd_zipIdx (fun i => milestoneName toString36 (draws i)) ms

/-- The objects of an array differ. -/
theorem nodup_objects (ms : List α) : (objects ms).Nodup := by
  refine List.Nodup.of_map Prod.snd ?_
  rw [objects, List.zipIdx_map_snd]
  exact List.nodup_range'

/-- Names that are as they must be lose nothing. -/
theorem milestones_of_namesOk {draws : ℕ → Draw} {ms : List α}
    (h : NamesOk (names toString36 draws ms.length)) :
    milestones (mileStoneObject toString36 draws ms) = ms := by
  have hfst := map_fst_items toString36 draws ms
  have hnodup := hfst ▸ h.nodup
  have hfill : mileStoneObject toString36 draws ms = _ := Js.fill_props hnodup
  rw [milestones, newRows, hfill, List.nil_append,
    (Js.ownEntries_eq_self_iff _).2 (hfst ▸ h.ordered), map_snd_items]

/-- **When milestones survive.**  For every array of milestones and all numbers drawn, the
objects of the array are read back, each in its place and none lost, exactly when the names
drawn for them differ and the array indices among these come first and in order; and then
so are the milestones of the array. -/
theorem roundTrip_iff (toString36 : Draw → String) (draws : ℕ → Draw) (ms : List α) :
    (milestones (mileStoneObject toString36 draws (objects ms)) = objects ms ↔
      NamesOk (names toString36 draws ms.length)) ∧
    (NamesOk (names toString36 draws ms.length) →
      milestones (mileStoneObject toString36 draws ms) = ms) := by
  refine ⟨⟨fun h => ?_, fun h => ?_⟩, milestones_of_namesOk⟩
  · have hlength : (objects ms).length = ms.length := List.length_zipIdx
    have hfst := map_fst_items toString36 draws (objects ms)
    have hsnd := map_snd_items toString36 draws (objects ms)
    have hitems := Js.entries_fill_iff (hsnd.symm ▸ nodup_objects ms)
    rw [hsnd, hfst, hlength] at hitems
    obtain ⟨hnodup, hordered⟩ := hitems.1 h
    exact ⟨hnodup, hordered⟩
  · have hlength : (objects ms).length = ms.length := List.length_zipIdx
    exact milestones_of_namesOk (hlength.symm ▸ h)

/-! ## Two draws -/

/-- A digit to the base 36. -/
def digit36 (d : ℕ) : Char := if d < 10 then Char.ofNat (48 + d) else Char.ofNat (87 + d)

/-- The digits of `r / den`, at most as many as there is fuel. -/
def digits36 (den : ℕ) : ℕ → ℕ → List Char
  | 0, _ => []
  | fuel + 1, r =>
    if r = 0 then [] else digit36 (36 * r / den) :: digits36 den fuel (36 * r % den)

/-- The text to the base 36 of a number with a few digits. -/
def exact36 (x : Draw) : String :=
  if x.1 = 0 then "0" else String.ofList ('0' :: '.' :: digits36 x.1.den 12 x.1.num.toNat)

/-- One half, which is `0.i` to the base 36. -/
def half : Draw := ⟨1 / 2, by norm_num, by norm_num⟩

/-- One quarter, which is `0.9`. -/
def quarter : Draw := ⟨1 / 4, by norm_num, by norm_num⟩

example : exact36 half = "0.i" ∧ exact36 quarter = "0.9" := by decide +kernel

/-- When one quarter is drawn first both milestones are read back. -/
theorem roundTrip_iff_sample :
    milestones (mileStoneObject exact36 (fun i => if i = 0 then quarter else half)
      ["Draft", "Final"]) = ["Draft", "Final"] :=
  (roundTrip_iff _ _ _).2 (by decide +kernel)

/-- **Two milestones.**  When one half is drawn twice the first is lost; when one half is
drawn and then one quarter they change places. -/
theorem milestones_lost :
    milestones (mileStoneObject exact36 (fun _ => half) ["Draft", "Final"]) = ["Final"] ∧
      milestones (mileStoneObject exact36 (fun i => if i = 0 then half else quarter)
        ["Draft", "Final"]) = ["Final", "Draft"] := by
  decide +kernel

end MilestoneEncoding
