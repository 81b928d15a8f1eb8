import Mathlib
import Taskbot.Js.Calendar
import Taskbot.Profile.EducationUpdates

/-!
# The dates of an education

The sheet for an education holds its two dates as times.  An entry that is edited has its
texts read as midnight in UTC, and what is saved is written from the year, the month and
the day on the clocks of the device.

* `Sheet`, `editEducation`, `updateEducationData` — the fields of the sheet, how an entry
  comes into them, and how they are saved.
* `dateText` — the text of a date as it is saved; `dateText_eq_iff`: which texts are
  written as they were read.
* `dates_iff` — an entry that is saved as it was opened has the dates it had exactly when
  the clocks are not behind UTC and the years have no zero in front, or nothing is saved.
-/

namespace ProfileSetting

open Js.Calendar

/-! ## The sheet -/

/-- The fields of the sheet; a time is `none` when it is not valid. -/
structure Sheet where
  edit : Bool
  educationIndex : ℕ
  degreeTitle : String
  institute : String
  description : String
  date : Option ℤ
  dateTo : Option ℤ
  deriving DecidableEq

/-- `addNewEducation`, at the time `now`. -/
def addNewEducation (now : ℤ) (s : Sheet) : Sheet :=
  { s with
    edit := false
    institute := ""
    degreeTitle := ""
    description := ""
    dateTo := some now
    date := some now }

/-- `editEducation`. -/
def editEducation (item : Education) (index : ℕ) : Sheet where
  edit := true
  educationIndex := index
  degreeTitle := item.title
  institute := item.institute
  description := item.description
  date := dateParse item.start_date
  dateTo := dateParse item.end_date

/-- `('0' + n).slice(-2)`. -/
def sliceTwo (n : ℕ) : String :=
  let cs := '0' :: (toString n).toList
  String.ofList (cs.drop (cs.length - 2))

/-- What is saved of a date. -/
def dateText (d : Date) : String :=
  toString d.year ++ "-" ++ sliceTwo (d.month + 1) ++ "-" ++ sliceTwo d.day

/-- What is saved of a time, on the clocks of the device. -/
def timeText (z : Zone) : Option ℤ → String
  | some t => dateText (localDate z t)
  | none => "NaN-aN-aN"

/-- The entry with the fields of the sheet. -/
def Sheet.entry (z : Zone) (s : Sheet) : Education where
  title := s.degreeTitle
  institute := s.institute
  start_date := timeText z s.date
  end_date := timeText z s.dateTo
  description := s.description

/-- `updateEducationData`: the list after it. -/
def updateEducationData (z : Zone) (s : Sheet) (education : List Education) : List Education :=
  applied education (.update (s.entry z) (if s.edit then some s.educationIndex else none))

/-! ## Texts -/

theorem toList_sliceTwo {n : ℕ} (h : n < 100) :
    (sliceTwo n).toList = [(n / 10).digitChar, (n % 10).digitChar] := by
  have hall : ∀ n < 100, ('0' :: Nat.toDigits 10 n).drop (('0' :: Nat.toDigits 10 n).length - 2) =
      [(n / 10).digitChar, (n % 10).digitChar] := by decide +kernel
  rw [← hall n h, ← Nat.toList_repr]
  exact String.toList_ofList

/-- A digit tells its number. -/
theorem eq_of_digitChar : ∀ m < 10, ∀ n < 10, m.digitChar = n.digitChar → m = n := by
  decide +kernel

/-- Two digits tell a number below a hundred. -/
theorem eq_of_two_digits {m n : ℕ} (hm : m < 100) (hn : n < 100)
    (h : [(m / 10).digitChar, (m % 10).digitChar] = [(n / 10).digitChar, (n % 10).digitChar]) :
    m = n := by
  obtain ⟨htens, hunits⟩ := List.cons.inj h
  have hdiv := eq_of_digitChar _ (Nat.div_lt_of_lt_mul hm) _ (Nat.div_lt_of_lt_mul hn) htens
  have hmod := eq_of_digitChar _ (Nat.mod_lt m (by omega)) _ (Nat.mod_lt n (by omega))
    (List.cons.inj hunits).1
  omega

theorem day_lt (d : Date) : d.day < 100 := by
  have hle := d.day_le
  unfold daysInMonth at hle
  split at hle
  · split at hle <;> omega
  · split at hle <;> omega

theorem toList_dateText (d : Date) :
    (dateText d).toList = (toString d.year).toList ++ '-' ::
      [((d.month + 1) / 10).digitChar, ((d.month + 1) % 10).digitChar] ++ '-' ::
      [(d.day / 10).digitChar, (d.day % 10).digitChar] := by
  have hmonth : d.month + 1 < 100 := by
    have hlt := d.month_lt
    omega
  simp [dateText, toList_sliceTwo hmonth, toList_sliceTwo (day_lt d)]

/-- The digits of a year. -/
theorem toDigits_eq_four_iff {y : ℕ} (hy : y < 10000) :
    Nat.toDigits 10 y = [(y / 1000).digitChar, (y / 100 % 10).digitChar,
      (y / 10 % 10).digitChar, (y % 10).digitChar] ↔ 1000 ≤ y := by
  constructor
  · intro h
    by_contra hlt
    have hlength := (Nat.length_toDigits_le_iff (b := 10) (n := y) (k := 3) (by omega)
      (by omega)).2 (by omega)
    rw [h] at hlength
    simp at hlength
  · intro hle
    rw [Nat.toDigits_of_base_le (by omega) (by omega),
      Nat.toDigits_of_base_le (by omega) (by omega),
      Nat.toDigits_of_base_le (by omega) (by omega),
      Nat.toDigits_of_lt_base (by omega)]
    have hhundreds : y / 10 / 10 = y / 100 := by omega
    have hthousands : y / 100 / 10 = y / 1000 := by omega
    simp [hhundreds, hthousands]

/-- **The text of a date.**  It is written as it was read exactly when the year needs its
four digits. -/
theorem dateText_eq_iff {s : String} {d : Date} (h : isoDate s = some d) :
    dateText d = s ↔ 1000 ≤ d.year := by
  obtain ⟨y, hyear, hlt, hs⟩ := toList_of_isoDate h
  have hdigits : (toString d.year).toList = Nat.toDigits 10 y := by
    rw [hyear, ← Nat.toList_repr]
    rfl
  rw [← String.toList_inj, toList_dateText, hs, hdigits, List.append_left_inj,
    List.append_left_inj, toDigits_eq_four_iff hlt, hyear]
  omega

/-- Two texts of dates end in the same day of the month. -/
theorem day_eq_of_dateText {s : String} {d e : Date} (h : isoDate s = some d)
    (he : dateText e = s) : e.day = d.day := by
  obtain ⟨y, -, -, hs⟩ := toList_of_isoDate h
  rw [← he, toList_dateText] at hs
  have hdays := (List.append_inj' hs rfl).2
  exact eq_of_two_digits (day_lt e) (day_lt d) (List.cons.inj hdays).2

/-- When a text of a date is saved as it was read. -/
def DateOk (z : Zone) (s : String) : Prop := 0 ≤ z.offset ∧ ∀ d ∈ isoDate s, 1000 ≤ d.year

/-- **Read and written.**  What a text of a date is saved as is the text itself exactly when
the clocks are not behind UTC and the year has no zero in front. -/
theorem timeText_dateParse_iff (z : Zone) {s : String} (hs : (isoDate s).isSome) :
    timeText z (dateParse s) = s ↔ DateOk z s := by
  obtain ⟨d, hd⟩ := Option.isSome_iff_exists.1 hs
  have htext : timeText z (dateParse s) = dateText (localDate z (d.toDays * msPerDay)) := by
    rw [dateParse, hd]
    rfl
  have hok : DateOk z s ↔ 0 ≤ z.offset ∧ 1000 ≤ d.year := by
    simp [DateOk, hd]
  rw [htext, hok]
  by_cases hoffset : 0 ≤ z.offset
  · rw [localDate_of_nonneg hoffset, dateText_eq_iff hd, and_iff_right hoffset]
  · rw [localDate_of_neg (not_le.1 hoffset)]
    refine iff_of_false (fun he => ?_) (fun h => hoffset h.1)
    exact d.day_pred_ne (day_eq_of_dateText hd he)

/-! ## Opened and saved -/

/-- A complete entry takes the place of the one at its index; any other changes nothing. -/
theorem applied_update (education : List Education) (entry : Education) (i : ℕ) :
    applied education (.update entry (some i)) =
      if entry.Complete then education.set i entry else education := by
  have hcomplete : entry.Complete ↔ entry.title ≠ "" ∧ entry.institute ≠ "" ∧
    entry.description ≠ "" := Iff.rfl
  rw [applied, posted]
  simp only [← hcomplete]
  split
  · split
    · rfl
    · next hi => exact (List.set_eq_of_length_le (not_lt.1 hi)).symm
  · rfl

/-- A new entry is not saved as it comes into the sheet: its texts are empty. -/
theorem updateEducationData_addNewEducation (z : Zone) (now : ℤ) (s : Sheet)
    (education : List Education) :
    updateEducationData z (addNewEducation now s) education = education := by
  have hidle : Idle education (.update ((addNewEducation now s).entry z) none) :=
    fun h => h.1 rfl
  exact (applied_eq_self_iff education _).2 hidle

/-- An entry that is opened is saved in its place, when it is complete. -/
theorem updateEducationData_editEducation (z : Zone) {education : List Education} {i : ℕ}
    {e : Education} (he : education[i]? = some e) :
    (updateEducationData z (editEducation e i) education)[i]? =
      some (if e.Complete then (editEducation e i).entry z else e) := by
  have hi : i < education.length := (List.getElem?_eq_some_iff.1 he).1
  have hcomplete : ((editEducation e i).entry z).Complete ↔ e.Complete := Iff.rfl
  show (applied education (.update ((editEducation e i).entry z) (some i)))[i]? = _
  rw [applied_update]
  simp only [hcomplete]
  split
  · exact List.getElem?_set_self hi
  · exact he

/-- What must be so of the time zone and the entry. -/
def DatesOk (z : Zone) (e : Education) : Prop :=
  e.Complete → DateOk z e.start_date ∧ DateOk z e.end_date

/-- **When dates are kept.**  For every list with an entry whose dates are valid, and every
time zone, the entry has the same two dates when it has been opened and saved with nothing
changed exactly when it is not complete, or the clocks are not behind UTC and the years
have no zero in front. -/
theorem dates_iff (z : Zone) {education : List Education} {i : ℕ} {e : Education}
    (he : education[i]? = some e) (hstart : (isoDate e.start_date).isSome)
    (hend : (isoDate e.end_date).isSome) :
    DatesOk z e ↔ ∃ e', (updateEducationData z (editEducation e i) education)[i]? = some e' ∧
      e'.start_date = e.start_date ∧ e'.end_date = e.end_date := by
  rw [updateEducationData_editEducation z he]
  simp only [Option.some.injEq, exists_eq_left', DatesOk]
  by_cases hc : e.Complete
  · rw [if_pos hc, forall_prop_of_true hc, ← timeText_dateParse_iff z hstart,
      ← timeText_dateParse_iff z hend]
    rfl
  · rw [if_neg hc]
    exact iff_of_true (fun h => absurd h hc) ⟨rfl, rfl⟩

/-- Two hours ahead of UTC. -/
def eastern : Zone := ⟨7200000, by decide⟩

/-- The entry is opened and saved there. -/
theorem dates_iff_sample :
    ∃ e', (updateEducationData eastern (editEducation mathematics 0) [mathematics])[0]? =
        some e' ∧
      e'.start_date = "1828-01-01" ∧ e'.end_date = "1834-01-01" := by
  have hok : DatesOk eastern mathematics := by
    refine fun _ => ⟨⟨by decide, ?_⟩, by decide, ?_⟩ <;> rintro d ⟨⟩ <;> decide
  exact (dates_iff eastern rfl rfl rfl).1 hok

/-- Five hours behind UTC. -/
def western : Zone := ⟨-18000000, by decide⟩

/-- **A day is lost.**  Behind UTC the entry is saved with the days before: in place of the
first of January stands the last of December. -/
theorem dates_earlier :
    (updateEducationData western (editEducation mathematics 0) [mathematics]).map
        (fun e => (e.start_date, e.end_date)) = [("1827-12-31", "1833-12-31")] ∧
      [mathematics].map (fun e => (e.start_date, e.end_date)) = [("1828-01-01", "1834-01-01")] :=
  ⟨by decide +kernel, rfl⟩

end ProfileSetting
