import Mathlib
import Taskbot.Js.Decimal

/-!
# Days and dates

A `Date` of JavaScript counts time from 1 January 1970, and its getters compute a year, a
month and a day of the month by the Gregorian calendar.  This file is about that calendar:
days are numbered from 1 January 1970, and months from zero.

* `dayFromYear`, `yearFromDay` — the first day of a year, and the year of a day.
* `monthStart`, `monthFromDay` — the same for the months in a year.
* `Date` — a date that the calendar has; `Date.toDays`, `Date.ofDays`.
* `ofDays_toDays`, `toDays_ofDays` — **days and dates are in bijection.**
* `Date.day_pred_ne` — the day before a date is another day of the month.
* `isoDate`, `dateParse` — a text such as `"2020-01-31"`, and its midnight in UTC.
* `localDate` — the date on the clocks of a time zone: at midnight in UTC it is the same
  date, or the one before.
-/

namespace Js.Calendar

/-! ## Years -/

/-- Does a year have 366 days? -/
def IsLeap (y : ℤ) : Prop := y % 4 = 0 ∧ (y % 100 ≠ 0 ∨ y % 400 = 0)

instance (y : ℤ) : Decidable (IsLeap y) := inferInstanceAs (Decidable (_ ∧ _))

/-- How many days it has. -/
def daysInYear (y : ℤ) : ℤ := if IsLeap y then 366 else 365

/-- The first day of a year. -/
def dayFromYear (y : ℤ) : ℤ :=
  365 * (y - 1970) + (y - 1969) / 4 - (y - 1901) / 100 + (y - 1601) / 400

theorem dayFromYear_succ (y : ℤ) : dayFromYear (y + 1) = dayFromYear y + daysInYear y := by
  unfold dayFromYear daysInYear
  by_cases hy : IsLeap y
  · rw [if_pos hy]
    unfold IsLeap at hy
    omega
  · rw [if_neg hy]
    unfold IsLeap at hy
    omega

theorem daysInYear_pos (y : ℤ) : 0 < daysInYear y := by
  unfold daysInYear
  split <;> omega

theorem dayFromYear_strictMono : StrictMono dayFromYear := by
  refine strictMono_int_of_lt_succ fun y => ?_
  rw [dayFromYear_succ]
  exact lt_add_of_pos_right _ (daysInYear_pos y)

/-- A year near that of a day: 400 years have 146097 days. -/
def yearNear (n : ℤ) : ℤ := 1970 + 400 * n / 146097

theorem yearNear_bounds (n : ℤ) :
    dayFromYear (yearNear n - 1) ≤ n ∧ n < dayFromYear (yearNear n + 2) := by
  unfold dayFromYear yearNear
  omega

/-- The year of a day. -/
def yearFromDay (n : ℤ) : ℤ :=
  let y := yearNear n
  if dayFromYear (y + 1) ≤ n then y + 1 else if dayFromYear y ≤ n then y else y - 1

/-- The last year that starts no later. -/
theorem yearFromDay_bounds (n : ℤ) :
    dayFromYear (yearFromDay n) ≤ n ∧ n < dayFromYear (yearFromDay n + 1) := by
  obtain ⟨hlow, hhigh⟩ := yearNear_bounds n
  unfold yearFromDay
  dsimp only
  split
  · next hnext =>
    refine ⟨hnext, ?_⟩
    rwa [add_assoc, one_add_one_eq_two]
  · next hnext =>
    split
    · next hsame => exact ⟨hsame, not_le.1 hnext⟩
    · next hsame =>
      refine ⟨hlow, ?_⟩
      rw [sub_add_cancel]
      exact not_le.1 hsame

/-- There is one such year only. -/
theorem yearFromDay_eq {n y : ℤ} (hlow : dayFromYear y ≤ n) (hhigh : n < dayFromYear (y + 1)) :
    yearFromDay n = y := by
  obtain ⟨hlow', hhigh'⟩ := yearFromDay_bounds n
  have hle := dayFromYear_strictMono.lt_iff_lt.1 (hlow'.trans_lt hhigh)
  have hge := dayFromYear_strictMono.lt_iff_lt.1 (hlow.trans_lt hhigh')
  omega

/-! ## Months -/

/-- How many days a month has. -/
def daysInMonth (leap : Bool) (m : ℕ) : ℕ :=
  if m = 1 then if leap then 29 else 28
  else if m = 3 ∨ m = 5 ∨ m = 8 ∨ m = 10 then 30
  else 31

/-- How many days of the year come before a month. -/
def monthStart (leap : Bool) : ℕ → ℕ
  | 0 => 0
  | m + 1 => monthStart leap m + daysInMonth leap m

/-- The month of a day of the year. -/
def monthFromDay (leap : Bool) (r : ℕ) : ℕ :=
  (List.range 11).countP fun m => monthStart leap (m + 1) ≤ r

theorem monthFromDay_lt (leap : Bool) (r : ℕ) : monthFromDay leap r < 12 := by
  have hle := List.countP_le_length (p := fun m => decide (monthStart leap (m + 1) ≤ r))
    (l := List.range 11)
  rw [List.length_range] at hle
  exact Nat.lt_succ_of_le hle

/-- The months fill the year. -/
theorem monthFromDay_bounds : ∀ leap : Bool, ∀ r < 365 + leap.toNat,
    monthStart leap (monthFromDay leap r) ≤ r ∧
      r < monthStart leap (monthFromDay leap r + 1) := by
  decide +kernel

/-- They do not overlap. -/
theorem monthFromDay_eq : ∀ leap : Bool, ∀ m < 12, ∀ k < daysInMonth leap m,
    monthFromDay leap (monthStart leap m + k) = m := by
  decide +kernel

/-- They end with the year. -/
theorem monthStart_add_lt : ∀ leap : Bool, ∀ m < 12, ∀ k < daysInMonth leap m,
    monthStart leap m + k < 365 + leap.toNat := by
  decide +kernel

theorem daysInYear_eq (y : ℤ) : daysInYear y = (365 + (decide (IsLeap y)).toNat : ℕ) := by
  by_cases hy : IsLeap y <;> simp [daysInYear, hy]

/-! ## Dates -/

/-- A date: its month is below twelve, and has its day. -/
structure Date where
  year : ℤ
  month : ℕ
  day : ℕ
  month_lt : month < 12
  day_pos : 0 < day
  day_le : day ≤ daysInMonth (decide (IsLeap year)) month
  deriving DecidableEq

namespace Date

/-- Is its year a leap year? -/
def leap (d : Date) : Bool := decide (IsLeap d.year)

/-- How many days of its year come before it. -/
def dayWithinYear (d : Date) : ℕ := monthStart d.leap d.month + (d.day - 1)

/-- The number of its day. -/
def toDays (d : Date) : ℤ := dayFromYear d.year + d.dayWithinYear

theorem pred_day_lt (d : Date) : d.day - 1 < daysInMonth d.leap d.month :=
  (Nat.sub_one_lt (Nat.pos_iff_ne_zero.1 d.day_pos)).trans_le d.day_le

theorem dayWithinYear_lt (d : Date) : (d.dayWithinYear : ℤ) < daysInYear d.year := by
  rw [daysInYear_eq]
  exact_mod_cast monthStart_add_lt d.leap d.month d.month_lt (d.day - 1) d.pred_day_lt

theorem yearFromDay_toDays (d : Date) : yearFromDay d.toDays = d.year := by
  refine yearFromDay_eq (le_add_of_nonneg_right (Int.natCast_nonneg _)) ?_
  rw [dayFromYear_succ]
  exact add_lt_add_right d.dayWithinYear_lt _

end Date

/-- The day of the year of a day. -/
def dayInYear (n : ℤ) : ℕ := (n - dayFromYear (yearFromDay n)).toNat

theorem dayFromYear_add (n : ℤ) : dayFromYear (yearFromDay n) + dayInYear n = n := by
  have hlow := (yearFromDay_bounds n).1
  unfold dayInYear
  omega

theorem dayInYear_lt (n : ℤ) :
    dayInYear n < 365 + (decide (IsLeap (yearFromDay n))).toNat := by
  have hhigh := (yearFromDay_bounds n).2
  rw [dayFromYear_succ, daysInYear_eq] at hhigh
  have hadd := dayFromYear_add n
  omega

/-- **The date of a day.** -/
def Date.ofDays (n : ℤ) : Date :=
  let leap := decide (IsLeap (yearFromDay n))
  let month := monthFromDay leap (dayInYear n)
  { year := yearFromDay n
    month := month
    day := dayInYear n - monthStart leap month + 1
    month_lt := monthFromDay_lt leap _
    day_pos := Nat.succ_pos _
    day_le := by
      obtain ⟨hlow, hhigh⟩ := monthFromDay_bounds leap _ (dayInYear_lt n)
      rw [monthStart] at hhigh
      show dayInYear n - monthStart leap (monthFromDay leap (dayInYear n)) + 1 ≤
        daysInMonth leap (monthFromDay leap (dayInYear n))
      omega }

theorem toDays_ofDays (n : ℤ) : (Date.ofDays n).toDays = n := by
  have hlow := (monthFromDay_bounds _ _ (dayInYear_lt n)).1
  have hday : (Date.ofDays n).dayWithinYear = dayInYear n := by
    show monthStart _ _ + (dayInYear n - monthStart _ _ + 1 - 1) = dayInYear n
    rw [Nat.add_sub_cancel]
    exact Nat.add_sub_cancel' hlow
  rw [Date.toDays, hday]
  exact dayFromYear_add n

/-- Two dates of one year, month and day are one. -/
theorem Date.ext_of_eq {d e : Date} (hyear : d.year = e.year) (hmonth : d.month = e.month)
    (hday : d.day = e.day) : d = e := by
  cases d
  cases e
  cases hyear
  cases hmonth
  cases hday
  rfl

theorem ofDays_toDays (d : Date) : Date.ofDays d.toDays = d := by
  have hyear := d.yearFromDay_toDays
  have hwithin : dayInYear d.toDays = d.dayWithinYear := by
    have hadd := dayFromYear_add d.toDays
    have hdays : d.toDays = dayFromYear d.year + d.dayWithinYear := rfl
    rw [hyear] at hadd
    omega
  have hleap : decide (IsLeap (yearFromDay d.toDays)) = d.leap := by
    rw [hyear]
    rfl
  have hmonth : monthFromDay d.leap d.dayWithinYear = d.month :=
    monthFromDay_eq d.leap d.month d.month_lt (d.day - 1) d.pred_day_lt
  refine Date.ext_of_eq hyear ?_ ?_
  · show monthFromDay _ _ = _
    rw [hleap, hwithin, hmonth]
  · show dayInYear d.toDays - monthStart _ (monthFromDay _ _) + 1 = _
    rw [hleap, hwithin, hmonth, Date.dayWithinYear, Nat.add_sub_cancel_left]
    exact Nat.sub_add_cancel d.day_pos

/-! ## The day before -/

/-- The date before one. -/
def Date.pred (d : Date) : Date := Date.ofDays (d.toDays - 1)

/-- A date whose day is one less is the date before. -/
theorem Date.pred_eq {d e : Date} (h : e.toDays + 1 = d.toDays) : d.pred = e := by
  rw [Date.pred, ← h, add_sub_cancel_right, ofDays_toDays]

theorem daysInMonth_pos (leap : Bool) (m : ℕ) : 28 ≤ daysInMonth leap m := by
  unfold daysInMonth
  split
  · split <;> omega
  · split <;> omega

/-- The first day of a year comes after the last one of December. -/
theorem Date.pred_newYear {d : Date} (hmonth : d.month = 0) (hday : d.day = 1) :
    d.pred.day = 31 := by
  have hlast : 31 ≤ daysInMonth (decide (IsLeap (d.year - 1))) 11 := by simp [daysInMonth]
  have hpred : d.pred = ⟨d.year - 1, 11, 31, by omega, by omega, hlast⟩ := by
    refine Date.pred_eq ?_
    have hyear := dayFromYear_succ (d.year - 1)
    rw [sub_add_cancel, daysInYear_eq] at hyear
    have hstart : ∀ leap : Bool, monthStart leap 11 + 31 = 365 + leap.toNat := by decide
    have hlength := hstart (decide (IsLeap (d.year - 1)))
    simp only [Date.toDays, Date.dayWithinYear, Date.leap, hmonth, hday, monthStart] at hlength ⊢
    omega
  rw [hpred]

/-- The first day of another month comes after the last one of the month before. -/
theorem Date.pred_newMonth {d : Date} {month : ℕ} (hmonth : d.month = month + 1)
    (hday : d.day = 1) : d.pred.day = daysInMonth d.leap month := by
  have hlt : month < 12 := by
    have hd := d.month_lt
    omega
  have hlast := daysInMonth_pos d.leap month
  have hpred : d.pred = ⟨d.year, month, daysInMonth d.leap month, hlt, by omega, le_rfl⟩ := by
    refine Date.pred_eq ?_
    simp only [Date.toDays, Date.dayWithinYear, hmonth, hday, monthStart]
    show _ + ((monthStart d.leap month + (daysInMonth d.leap month - 1) : ℕ) : ℤ) + 1 = _
    omega
  rw [hpred]

/-- Any other day comes after the day one less. -/
theorem Date.pred_sameMonth {d : Date} (hday : d.day ≠ 1) : d.pred.day = d.day - 1 := by
  have hpos := d.day_pos
  have hpred : d.pred = ⟨d.year, d.month, d.day - 1, d.month_lt, by omega,
      (Nat.sub_le d.day 1).trans d.day_le⟩ := by
    refine Date.pred_eq ?_
    show dayFromYear d.year + ((monthStart d.leap d.month + (d.day - 1 - 1) : ℕ) : ℤ) + 1 =
      dayFromYear d.year + ((monthStart d.leap d.month + (d.day - 1) : ℕ) : ℤ)
    omega
  rw [hpred]

/-- **It is another day of the month.** -/
theorem Date.day_pred_ne (d : Date) : d.pred.day ≠ d.day := by
  have hpos := d.day_pos
  by_cases hday : d.day = 1
  · rw [hday]
    cases hmonth : d.month with
    | zero =>
      rw [Date.pred_newYear hmonth hday]
      omega
    | succ month =>
      rw [Date.pred_newMonth hmonth hday]
      have hlast := daysInMonth_pos d.leap month
      omega
  · rw [Date.pred_sameMonth hday]
    omega

/-! ## Time zones -/

/-- The milliseconds of a day. -/
def msPerDay : ℤ := 86400000

/-- A time zone: how far its clocks are ahead of UTC, in milliseconds. -/
structure Zone where
  offset : ℤ
  natAbs_lt : offset.natAbs < 86400000
  deriving DecidableEq

/-- The date that `getFullYear`, `getMonth` and `getDate` show of a time. -/
def localDate (z : Zone) (t : ℤ) : Date := Date.ofDays ((t + z.offset) / msPerDay)

/-- Ahead of UTC, the date at midnight is the same. -/
theorem localDate_of_nonneg {z : Zone} (h : 0 ≤ z.offset) (d : Date) :
    localDate z (d.toDays * msPerDay) = d := by
  have hlt := z.natAbs_lt
  have hday : (d.toDays * msPerDay + z.offset) / msPerDay = d.toDays := by
    unfold msPerDay
    omega
  rw [localDate, hday, ofDays_toDays]

/-- Behind UTC, it is the day before. -/
theorem localDate_of_neg {z : Zone} (h : z.offset < 0) (d : Date) :
    localDate z (d.toDays * msPerDay) = d.pred := by
  have hlt := z.natAbs_lt
  have hday : (d.toDays * msPerDay + z.offset) / msPerDay = d.toDays - 1 := by
    unfold msPerDay
    omega
  rw [localDate, hday, Date.pred]

/-! ## Texts -/

/-- The number that a run of digits stands for. -/
def number (cs : List Char) : Option ℕ :=
  (cs.mapM (digitValue 10)).map fun ds => Nat.ofDigits 10 ds.reverse

/-- The date with a year, a month counted from one and a day, if there is one. -/
def Date.of (y m k : ℕ) : Option Date :=
  if h : (m - 1 < 12 ∧ 0 < m) ∧ 0 < k ∧ k ≤ daysInMonth (decide (IsLeap y)) (m - 1) then
    some ⟨y, m - 1, k, h.1.1, h.2.1, h.2.2⟩
  else none

/-- The date that a text `YYYY-MM-DD` stands for. -/
def isoDate (s : String) : Option Date :=
  match s.toList with
  | [y₁, y₂, y₃, y₄, '-', m₁, m₂, '-', d₁, d₂] =>
    match number [y₁, y₂, y₃, y₄], number [m₁, m₂], number [d₁, d₂] with
    | some y, some m, some k => Date.of y m k
    | _, _, _ => none
  | _ => none

/-- `Date.parse` of such a text: midnight in UTC.  Of other texts this file makes no
time. -/
def dateParse (s : String) : Option ℤ := (isoDate s).map fun d => d.toDays * msPerDay

theorem digitValue_eq_some {c : Char} {v : ℕ} (h : digitValue 10 c = some v) :
    v < 10 ∧ c = v.digitChar := by
  have hdigit : 48 ≤ c.toNat ∧ c.toNat ≤ 57 ∧ c.toNat - 48 < 10 ∧ v = c.toNat - 48 := by
    unfold digitValue at h
    split at h
    · next hc =>
      cases h
      exact ⟨hc.1, hc.2.1, hc.2.2, rfl⟩
    · split at h
      · omega
      · split at h
        · omega
        · cases h
  obtain ⟨hlow, -, hlt, hv⟩ := hdigit
  have hc : c.toNat = 48 + v := by omega
  have hv10 : v < 10 := by omega
  refine ⟨hv10, Char.toNat_inj.1 ?_⟩
  rw [hc]
  interval_cases v <;> rfl

theorem mapM_digitValue {cs : List Char} {ds : List ℕ} (h : cs.mapM (digitValue 10) = some ds) :
    (∀ v ∈ ds, v < 10) ∧ cs = ds.map Nat.digitChar := by
  induction cs generalizing ds with
  | nil =>
    cases h
    exact ⟨fun _ hv => absurd hv List.not_mem_nil, rfl⟩
  | cons c cs ih =>
    rw [List.mapM_cons] at h
    obtain ⟨v, hv, h⟩ := Option.bind_eq_some_iff.1 h
    obtain ⟨vs, hvs, h⟩ := Option.bind_eq_some_iff.1 h
    cases h
    obtain ⟨hlt, rfl⟩ := digitValue_eq_some hv
    obtain ⟨hall, rfl⟩ := ih hvs
    exact ⟨List.forall_mem_cons.2 ⟨hlt, hall⟩, rfl⟩

/-- A run of digits is what its number is written with, and nothing else is. -/
theorem number_eq_some {cs : List Char} {n : ℕ} (h : number cs = some n) :
    ∃ ds : List ℕ, (∀ v ∈ ds, v < 10) ∧ cs = ds.map Nat.digitChar ∧
      n = Nat.ofDigits 10 ds.reverse := by
  obtain ⟨ds, hds, rfl⟩ := Option.map_eq_some_iff.1 h
  obtain ⟨hlt, rfl⟩ := mapM_digitValue hds
  exact ⟨ds, hlt, rfl, rfl⟩

theorem number_two {a b : Char} {n : ℕ} (h : number [a, b] = some n) :
    n < 100 ∧ [a, b] = [(n / 10).digitChar, (n % 10).digitChar] := by
  obtain ⟨ds, hlt, hcs, rfl⟩ := number_eq_some h
  match ds, hcs with
  | [p, q], hcs =>
    have hp : p < 10 := hlt p (by simp)
    have hq : q < 10 := hlt q (by simp)
    have hn : Nat.ofDigits 10 [p, q].reverse = 10 * p + q := by
      simp [Nat.ofDigits_cons]
      omega
    have hdiv : (10 * p + q) / 10 = p := by omega
    have hmod : (10 * p + q) % 10 = q := by omega
    rw [hn, hdiv, hmod]
    exact ⟨by omega, hcs⟩

theorem number_four {a b c d : Char} {n : ℕ} (h : number [a, b, c, d] = some n) :
    n < 10000 ∧ [a, b, c, d] =
      [(n / 1000).digitChar, (n / 100 % 10).digitChar, (n / 10 % 10).digitChar,
        (n % 10).digitChar] := by
  obtain ⟨ds, hlt, hcs, rfl⟩ := number_eq_some h
  match ds, hcs with
  | [p, q, r, s], hcs =>
    have hp : p < 10 := hlt p (by simp)
    have hq : q < 10 := hlt q (by simp)
    have hr : r < 10 := hlt r (by simp)
    have hs : s < 10 := hlt s (by simp)
    have hn : Nat.ofDigits 10 [p, q, r, s].reverse = 1000 * p + 100 * q + 10 * r + s := by
      simp [Nat.ofDigits_cons]
      omega
    have h1 : (1000 * p + 100 * q + 10 * r + s) / 1000 = p := by omega
    have h2 : (1000 * p + 100 * q + 10 * r + s) / 100 % 10 = q := by omega
    have h3 : (1000 * p + 100 * q + 10 * r + s) / 10 % 10 = r := by omega
    have h4 : (1000 * p + 100 * q + 10 * r + s) % 10 = s := by omega
    rw [hn, h1, h2, h3, h4]
    exact ⟨by omega, hcs⟩

/-- The text of a date, with four digits for the year and two for the month and the
day. -/
theorem toList_of_isoDate {s : String} {d : Date} (h : isoDate s = some d) :
    ∃ y : ℕ, d.year = y ∧ y < 10000 ∧ s.toList =
      [(y / 1000).digitChar, (y / 100 % 10).digitChar, (y / 10 % 10).digitChar,
        (y % 10).digitChar] ++ '-' :: [((d.month + 1) / 10).digitChar,
        ((d.month + 1) % 10).digitChar] ++ '-' :: [(d.day / 10).digitChar,
        (d.day % 10).digitChar] := by
  unfold isoDate at h
  split at h
  · next y₁ y₂ y₃ y₄ m₁ m₂ d₁ d₂ hs =>
    split at h
    · next y m k hy hm hk =>
      obtain ⟨hylt, hy⟩ := number_four hy
      obtain ⟨-, hm⟩ := number_two hm
      obtain ⟨-, hk⟩ := number_two hk
      unfold Date.of at h
      split at h
      · next hdate =>
        cases h
        refine ⟨y, rfl, hylt, ?_⟩
        have hmonth : m - 1 + 1 = m := Nat.sub_add_cancel hdate.1.2
        show s.toList = _ ++ '-' :: [((m - 1 + 1) / 10).digitChar, _] ++ '-' :: _
        rw [hmonth, ← hy, ← hm, ← hk, hs]
        rfl
      · cases h
    · cases h
  · cases h

end Js.Calendar
