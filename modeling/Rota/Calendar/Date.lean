namespace Rota.Calendar

structure Date where
  year : Int
  month : Nat
  day : Nat
  deriving DecidableEq, Repr

/-- Days in four hundred years, after which the leap years repeat. -/
def daysPerCycle : Nat := 146097

def daysPerCentury : Nat := 36524

def daysPerQuad : Nat := 1461

def daysPerYear : Nat := 365

/-- The days from the first of March of the year 0 to the first of January 1970. -/
def epoch : Int := 719468

/-- The year within a cycle that a day of the cycle lies in, and the day within the year. Years
start in March, so that a leap day is the last of its year. -/
def yearOfCycle (day : Nat) : Nat × Nat :=
  let century := min (day / daysPerCentury) 3
  let day := day - century * daysPerCentury
  let quad := day / daysPerQuad
  let day := day - quad * daysPerQuad
  let year := min (day / daysPerYear) 3
  (100 * century + 4 * quad + year, day - year * daysPerYear)

/-- The month and the day within it of a day of a year that starts in March; the months from March
on are numbered from 0. -/
def monthOfYear (day : Nat) : Nat × Nat :=
  let month := (5 * day + 2) / 153
  (month, day - (153 * month + 2) / 5)

def Date.ofDays (days : Int) : Date :=
  let days := days + epoch
  let (year, day) := yearOfCycle (days % daysPerCycle).toNat
  let (month, day) := monthOfYear day
  let year := 400 * (days / daysPerCycle) + year
  if month < 10 then ⟨year, month + 3, day + 1⟩ else ⟨year + 1, month - 9, day + 1⟩

end Rota.Calendar
