import Mathlib.Order.Monotone.Basic
import Mathlib.Tactic.IntervalCases
import Mathlib.Tactic.Common
import Rota.Calendar.Date

namespace Rota.Calendar

/-- Every fourth year has a leap day, but of those that end a century only every fourth. -/
def IsLeap (year : Int) : Prop := year % 4 = 0 ∧ (year % 100 = 0 → year % 400 = 0)

instance (year : Int) : Decidable (IsLeap year) := inferInstanceAs (Decidable (_ ∧ (_ → _)))

/-- The days of a month, the months from January on numbered from 1. -/
def monthDays (year : Int) (month : Nat) : Nat :=
  if month = 2 then if IsLeap year then 29 else 28
  else if month ∈ [4, 6, 9, 11] then 30
  else 31

theorem monthDays_le (year : Int) (month : Nat) : monthDays year month ≤ 31 := by
  unfold monthDays
  split_ifs <;> decide

namespace Date

/-- The months of a year and the days of a month are counted from 1. -/
structure Valid (d : Date) : Prop where
  month : 1 ≤ d.month ∧ d.month ≤ 12
  day : 1 ≤ d.day ∧ d.day ≤ monthDays d.year d.month

/-- The day after. -/
def next (d : Date) : Date :=
  if d.day < monthDays d.year d.month then { d with day := d.day + 1 }
  else if d.month < 12 then ⟨d.year, d.month + 1, 1⟩
  else ⟨d.year + 1, 1, 1⟩

/-- The order of dates. -/
def Before (d d' : Date) : Prop :=
  d.year < d'.year ∨ d.year = d'.year ∧
    (d.month < d'.month ∨ d.month = d'.month ∧ d.day < d'.day)

instance : IsTrans Date Before where
  trans d d' d'' h h' := by
    unfold Before at *
    omega

theorem before_next (d : Date) : d.Before d.next := by
  unfold Before next
  split_ifs <;> simp

end Date

/-- The days from the first of March of the year 0 to that of another year. -/
def marchFirst (year : Int) : Int := 365 * year + year / 4 - year / 100 + year / 400

/-- The days of the year that starts in March. -/
def yearDays (year : Int) : Nat := if IsLeap (year + 1) then 366 else 365

theorem yearDays_bounds (year : Int) : 365 ≤ yearDays year ∧ yearDays year ≤ 366 := by
  unfold yearDays
  split_ifs <;> decide

theorem marchFirst_succ (year : Int) : marchFirst (year + 1) = marchFirst year + yearDays year := by
  unfold marchFirst yearDays
  by_cases hleap : IsLeap (year + 1)
  · rw [if_pos hleap]
    unfold IsLeap at hleap
    omega
  · rw [if_neg hleap]
    unfold IsLeap at hleap
    omega

theorem marchFirst_mono {year year' : Int} (h : year ≤ year') :
    marchFirst year ≤ marchFirst year' := by
  unfold marchFirst
  omega

theorem marchFirst_cycle (cycle year : Int) :
    marchFirst (400 * cycle + year) = daysPerCycle * cycle + marchFirst year := by
  unfold marchFirst daysPerCycle
  omega

theorem yearDays_cycle (cycle year : Int) : yearDays (400 * cycle + year) = yearDays year := by
  have hleap : IsLeap (400 * cycle + year + 1) ↔ IsLeap (year + 1) := by
    unfold IsLeap
    omega
  exact if_congr hleap rfl rfl

/-- A day lies in one year only. -/
theorem march_unique {year year' : Int} {day day' : Nat} (hday : day < yearDays year)
    (hday' : day' < yearDays year') (h : marchFirst year + day = marchFirst year' + day') :
    year = year' ∧ day = day' := by
  have hsucc := marchFirst_succ year
  have hsucc' := marchFirst_succ year'
  obtain rfl : year = year' := by
    by_contra hne
    rcases Int.lt_or_gt_of_ne hne with hlt | hgt
    · have hmono := marchFirst_mono (Int.add_one_le_of_lt hlt)
      omega
    · have hmono := marchFirst_mono (Int.add_one_le_of_lt hgt)
      omega
  exact ⟨rfl, by omega⟩

/-- The year that is found for a day of a cycle has the day. -/
theorem yearOfCycle_spec {day : Nat} (h : day < daysPerCycle) :
    (day : Int) = marchFirst (yearOfCycle day).1 + (yearOfCycle day).2 ∧
      (yearOfCycle day).2 < yearDays (yearOfCycle day).1 := by
  obtain ⟨c, hc⟩ : ∃ c, c = min (day / daysPerCentury) 3 := ⟨_, rfl⟩
  obtain ⟨inCentury, hinCentury⟩ : ∃ d, d = day - c * daysPerCentury := ⟨_, rfl⟩
  obtain ⟨q, hq⟩ : ∃ q, q = inCentury / daysPerQuad := ⟨_, rfl⟩
  obtain ⟨inQuad, hinQuad⟩ : ∃ d, d = inCentury - q * daysPerQuad := ⟨_, rfl⟩
  obtain ⟨y, hy⟩ : ∃ y, y = min (inQuad / daysPerYear) 3 := ⟨_, rfl⟩
  have hyear : yearOfCycle day = (100 * c + 4 * q + y, inQuad - y * daysPerYear) := by
    rw [yearOfCycle, ← hc, ← hinCentury, ← hq, ← hinQuad, ← hy]
  rw [hyear]
  unfold daysPerCycle at h
  unfold daysPerCentury at hc hinCentury
  unfold daysPerQuad at hq hinQuad
  unfold daysPerYear at hy ⊢
  dsimp only
  have hcentury : c ≤ 3 := by omega
  have hquad : q ≤ 24 := by omega
  have hinYear : y ≤ 3 := by omega
  constructor
  · -- the leap days of the years before, which the bounds leave no choice about
    have hfirst : marchFirst (100 * c + 4 * q + y : Nat) = 36524 * c + 1461 * q + 365 * y := by
      unfold marchFirst
      push_cast
      omega
    omega
  · unfold yearDays
    by_cases hleap : IsLeap ((100 * c + 4 * q + y : Nat) + 1)
    · rw [if_pos hleap]
      omega
    · rw [if_neg hleap]
      unfold IsLeap at hleap
      push_cast at hleap
      omega

/-- The days from the first of March to the first of a month, the months from March on numbered
from 0. -/
def monthFirst (month : Nat) : Nat := (153 * month + 2) / 5

/-- The days from the first of March to the end of a month. -/
def monthEnd (year : Int) (month : Nat) : Nat :=
  if month < 11 then monthFirst (month + 1) else yearDays year

theorem monthEnd_le (year : Int) {month : Nat} (h : month ≤ 11) :
    monthEnd year month ≤ monthFirst (month + 1) ∧ monthEnd year month ≤ yearDays year := by
  have hyear := yearDays_bounds year
  unfold monthEnd monthFirst
  split_ifs <;> omega

/-- The date in a month of a year that starts in March. -/
def ofMonth (year : Int) (month rest : Nat) : Date :=
  if month < 10 then ⟨year, month + 3, rest + 1⟩ else ⟨year + 1, month - 9, rest + 1⟩

theorem day_ofMonth (year : Int) (month rest : Nat) : (ofMonth year month rest).day = rest + 1 := by
  unfold ofMonth
  split_ifs <;> rfl

theorem monthDays_ofMonth (year : Int) {month : Nat} (h : month ≤ 11) (rest : Nat) :
    monthFirst month + monthDays (ofMonth year month rest).year (ofMonth year month rest).month =
      monthEnd year month := by
  interval_cases month <;> try rfl
  change 337 + (if IsLeap (year + 1) then 29 else 28) = if IsLeap (year + 1) then 366 else 365
  split_ifs <;> rfl

theorem next_ofMonth (year : Int) {month : Nat} (h : month ≤ 11) (rest : Nat) :
    (ofMonth year month rest).next =
      if rest + 1 < monthDays (ofMonth year month rest).year (ofMonth year month rest).month then
        ofMonth year month (rest + 1)
      else if month < 11 then ofMonth year (month + 1) 0
      else ofMonth (year + 1) 0 0 := by
  rw [Date.next, day_ofMonth]
  split
  · unfold ofMonth
    split_ifs <;> rfl
  · interval_cases month <;> rfl

/-- The date so many days after the first of March. -/
def ofMarch (year : Int) (day : Nat) : Date :=
  ofMonth year (monthOfYear day).1 (monthOfYear day).2

theorem exists_month {year : Int} {day : Nat} (h : day < yearDays year) :
    ∃ month rest, month ≤ 11 ∧ day = monthFirst month + rest ∧ day < monthEnd year month := by
  have hyear := yearDays_bounds year
  refine ⟨(5 * day + 2) / 153, day - monthFirst ((5 * day + 2) / 153), ?_⟩
  unfold monthEnd monthFirst
  split_ifs <;> omega

theorem ofMarch_of_month {year : Int} {month rest : Nat} (hmonth : month ≤ 11)
    (h : monthFirst month + rest < monthEnd year month) :
    ofMarch year (monthFirst month + rest) = ofMonth year month rest := by
  have hend := (monthEnd_le year hmonth).1
  have hfound : (5 * (monthFirst month + rest) + 2) / 153 = month := by
    unfold monthFirst at *
    omega
  have hrest : monthFirst month + rest - monthFirst month = rest := Nat.add_sub_cancel_left ..
  rw [ofMarch, monthOfYear, hfound, ← monthFirst, hrest]

theorem next_ofMarch {year : Int} {day : Nat} (h : day < yearDays year) :
    (ofMarch year day).next =
      if day + 1 < yearDays year then ofMarch year (day + 1) else ofMarch (year + 1) 0 := by
  obtain ⟨month, rest, hmonth, rfl, hday⟩ := exists_month h
  have hdays := monthDays_ofMonth year hmonth rest
  have hend := monthEnd_le year hmonth
  rw [ofMarch_of_month hmonth hday, next_ofMonth year hmonth]
  generalize monthDays _ _ = days at *
  by_cases hwithin : rest + 1 < days
  · have hnext : monthFirst month + (rest + 1) < monthEnd year month := by omega
    rw [if_pos hwithin, if_pos (by omega), Nat.add_assoc, ofMarch_of_month hmonth hnext]
  · rw [if_neg hwithin]
    by_cases hlast : month < 11
    · have hnext : monthFirst month + rest + 1 = monthFirst (month + 1) + 0 := by
        rw [monthEnd, if_pos hlast] at *
        omega
      have hin : monthFirst (month + 1) + 0 < monthEnd year (month + 1) := by
        have hyear := yearDays_bounds year
        unfold monthEnd monthFirst
        split_ifs <;> omega
      have hend' : monthEnd year (month + 1) ≤ yearDays year := (monthEnd_le year hlast).2
      rw [if_pos hlast, hnext, if_pos (by omega), ofMarch_of_month hlast hin]
    · rw [monthEnd, if_neg hlast] at *
      rw [if_neg (by omega)]
      rfl

namespace Date

/-- Every day lies in a year that starts in March, and its date is found there. -/
theorem exists_ofMarch (days : Int) : ∃ year day, day < yearDays year ∧
    days + epoch = marchFirst year + day ∧ ofDays days = ofMarch year day := by
  obtain ⟨inCycle, hinCycle⟩ : ∃ d, d = ((days + epoch) % daysPerCycle).toNat := ⟨_, rfl⟩
  have hlt : inCycle < daysPerCycle := by
    unfold daysPerCycle at *
    omega
  obtain ⟨hday, hrest⟩ := yearOfCycle_spec hlt
  refine ⟨400 * ((days + epoch) / daysPerCycle) + (yearOfCycle inCycle).1, (yearOfCycle inCycle).2,
    ?_, ?_, ?_⟩
  · rwa [yearDays_cycle]
  · rw [marchFirst_cycle, Int.add_assoc, ← hday, hinCycle]
    unfold daysPerCycle
    omega
  · rw [ofDays, ← hinCycle]
    rfl

theorem ofDays_of_march {days year : Int} {day : Nat} (hday : day < yearDays year)
    (h : days + epoch = marchFirst year + day) : ofDays days = ofMarch year day := by
  obtain ⟨year', day', hday', h', hof⟩ := exists_ofMarch days
  obtain ⟨rfl, rfl⟩ := march_unique hday hday' (h ▸ h')
  exact hof

/-- Day after day the calendar has the date that follows. -/
theorem ofDays_add_one (days : Int) : ofDays (days + 1) = (ofDays days).next := by
  obtain ⟨year, day, hday, h, hof⟩ := exists_ofMarch days
  have hsucc := marchFirst_succ year
  rw [hof, next_ofMarch hday]
  split_ifs with hnext
  · exact ofDays_of_march hnext (by omega)
  · have hyear := yearDays_bounds (year + 1)
    exact ofDays_of_march (by omega) (by omega)

example : ofDays 0 = ⟨1970, 1, 1⟩ ∧ ofDays 11016 = ⟨2000, 2, 29⟩ := by decide

theorem valid_ofDays (days : Int) : (ofDays days).Valid := by
  obtain ⟨year, day, hday, -, hof⟩ := exists_ofMarch days
  obtain ⟨month, rest, hmonth, rfl, hend⟩ := exists_month hday
  have hdays := monthDays_ofMonth year hmonth rest
  rw [hof, ofMarch_of_month hmonth hend]
  constructor
  · unfold ofMonth
    split_ifs <;> dsimp only <;> omega
  · rw [day_ofMonth]
    omega

/-- Later days have later dates. -/
theorem before_of_lt {days days' : Int} (h : days < days') :
    (ofDays days).Before (ofDays days') := by
  apply Int.rel_of_forall_rel_succ_of_lt Before _ h
  intro days
  rw [ofDays_add_one]
  exact before_next _

end Date
end Rota.Calendar
