import Rota.Calendar.Date

namespace Rota.Calendar

/-- The digits of `n`, with zeros in front up to the given width. -/
def padded (width n : Nat) : String := String.ofList (List.leftpad width '0' (Nat.toDigits 10 n))

/-- A year of four digits; others have a sign. -/
def yearText (year : Int) : String :=
  if year < 0 then "-" ++ padded 4 year.natAbs
  else if year ≤ 9999 then padded 4 year.natAbs
  else "+" ++ padded 4 year.natAbs

def Date.text (d : Date) : String := s!"{yearText d.year}-{padded 2 d.month}-{padded 2 d.day}"

def millisPerDay : Nat := 86400000

def timeText (millis : Nat) : String :=
  let seconds := millis / 1000
  s!"{padded 2 (seconds / 3600)}:{padded 2 (seconds / 60 % 60)}:{padded 2 (seconds % 60)}" ++
    s!".{padded 3 (millis % 1000)}"

def earliest : Int := -8334601228800000

def latest : Int := 8210266876799999

/-- Date and time so many milliseconds after 1970 began, if the calendar has it. -/
def stamp? (millis : Int) : Option String :=
  if earliest ≤ millis ∧ millis ≤ latest then
    some s!"{(Date.ofDays (millis / millisPerDay)).text} {timeText (millis % millisPerDay).toNat}"
  else none

end Rota.Calendar
