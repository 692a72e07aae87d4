import Mathlib.Logic.Function.Basic
import Rota.Calendar.Stamp
import Rota.Proofs.Calendar.Date
import Rota.Proofs.Text.Numeral

namespace Rota.Calendar

section padded

variable {width n : Nat}

theorem toList_padded (width n : Nat) :
    (padded width n).toList = List.leftpad width '0' (Nat.toDigits 10 n) := by
  rw [padded, String.toList_ofList]

theorem isDigit_of_mem_padded {c : Char} (hc : c ∈ (padded width n).toList) : c.isDigit := by
  rw [toList_padded, List.leftpad, List.mem_append] at hc
  rcases hc with hc | hc
  · rw [(List.mem_replicate.mp hc).2]
    rfl
  · exact Text.isDigit_of_mem_toDigits hc

/-- Zeros in front change nothing. -/
theorem ofDigitChars_padded (width n : Nat) :
    Nat.ofDigitChars 10 (padded width n).toList 0 = n := by
  rw [toList_padded, List.leftpad, Nat.ofDigitChars_append, Nat.ofDigitChars_replicate_zero,
    Nat.mul_zero, Nat.ofDigitChars_ten_toDigits]

/-- The number has no more digits than there is width for. -/
def Fits (width n : Nat) : Prop := (Nat.toDigits 10 n).length ≤ width

theorem fits_two {n : Nat} (h : n < 100) : Fits 2 n :=
  (Nat.length_toDigits_le_iff (by decide) (by decide)).mpr h

theorem fits_three {n : Nat} (h : n < 1000) : Fits 3 n :=
  (Nat.length_toDigits_le_iff (by decide) (by decide)).mpr h

theorem fits_four {n : Nat} (h : n < 10000) : Fits 4 n :=
  (Nat.length_toDigits_le_iff (by decide) (by decide)).mpr h

theorem length_padded (h : Fits width n) : (padded width n).toList.length = width := by
  rw [toList_padded, List.length_leftpad, Nat.max_eq_left h]

theorem padded_lt {n' : Nat} (hn : Fits width n) (hn' : Fits width n') (h : n < n') :
    (padded width n).toList < (padded width n').toList := by
  apply Text.lt_of_ofDigitChars_lt ((length_padded hn).trans (length_padded hn').symm)
    (fun _ => isDigit_of_mem_padded) (fun _ => isDigit_of_mem_padded)
  rwa [ofDigitChars_padded, ofDigitChars_padded]

theorem append_lt_append {a a' b b' : List Char} (hlen : a.length = a'.length) (h : a < a') :
    a ++ b < a' ++ b' := by
  induction a generalizing a' with
  | nil =>
    rw [List.eq_nil_of_length_eq_zero hlen.symm] at h
    exact absurd h (List.lt_irrefl [])
  | cons c a ih =>
    obtain ⟨d, a', rfl⟩ := List.exists_cons_of_length_eq_add_one hlen.symm
    rw [List.cons_append, List.cons_append, List.cons_lt_cons_iff]
    exact (List.cons_lt_cons_iff.mp h).imp_right (And.imp_right (ih (Nat.succ.inj hlen)))

theorem cons_lt (c : Char) {cs ds : List Char} (h : cs < ds) : c :: cs < c :: ds :=
  List.cons_lt_cons_iff.mpr (.inr ⟨rfl, h⟩)

/-- Fields of one width are compared first, and what follows decides between equal ones. -/
theorem padded_append_lt {n' : Nat} {rest rest' : List Char} (hn : Fits width n)
    (hn' : Fits width n') (h : n < n' ∨ n = n' ∧ rest < rest') :
    (padded width n).toList ++ rest < (padded width n').toList ++ rest' := by
  rcases h with h | ⟨rfl, h⟩
  · exact append_lt_append ((length_padded hn).trans (length_padded hn').symm) (padded_lt hn hn' h)
  · exact List.append_left_lt h

end padded

/-- The year that a text shows. -/
def yearOf : List Char → Int
  | '-' :: cs => -Nat.ofDigitChars 10 cs 0
  | '+' :: cs => Nat.ofDigitChars 10 cs 0
  | cs => Nat.ofDigitChars 10 cs 0

theorem yearOf_padded (width n : Nat) : yearOf (padded width n).toList = n := by
  have hdigit (c : Char) (cs : List Char) (h : (padded width n).toList = c :: cs) : c.isDigit :=
    isDigit_of_mem_padded (h ▸ List.mem_cons_self)
  rw [yearOf]
  · exact congrArg Int.ofNat (ofDigitChars_padded width n)
  · exact fun cs h => absurd (hdigit _ cs h) (by decide)
  · exact fun cs h => absurd (hdigit _ cs h) (by decide)

theorem yearOf_yearText (year : Int) : yearOf (yearText year).toList = year := by
  unfold yearText
  split_ifs with hneg hfour
  · have hvalue : yearOf ("-" ++ padded 4 year.natAbs).toList = -(year.natAbs : Int) := by
      rw [String.toList_append]
      exact congrArg (fun n : Nat => -(n : Int)) (ofDigitChars_padded 4 year.natAbs)
    omega
  · have hvalue := yearOf_padded 4 year.natAbs
    omega
  · have hvalue : yearOf ("+" ++ padded 4 year.natAbs).toList = (year.natAbs : Int) := by
      rw [String.toList_append]
      exact congrArg Int.ofNat (ofDigitChars_padded 4 year.natAbs)
    omega

theorem toList_timeText (millis : Nat) :
    (timeText millis).toList =
      (padded 2 (millis / 1000 / 3600)).toList ++ ':' ::
        ((padded 2 (millis / 1000 / 60 % 60)).toList ++ ':' ::
          ((padded 2 (millis / 1000 % 60)).toList ++ '.' ::
            (padded 3 (millis % 1000)).toList)) := by
  have htext : timeText millis =
      (padded 2 (millis / 1000 / 3600) ++ ":" ++ padded 2 (millis / 1000 / 60 % 60) ++ ":" ++
        padded 2 (millis / 1000 % 60)) ++ ("." ++ padded 3 (millis % 1000)) := rfl
  have hcolon : ":".toList = [':'] := rfl
  have hdot : ".".toList = ['.'] := rfl
  rw [htext]
  simp only [String.toList_append, List.append_assoc, hcolon, hdot, List.cons_append,
    List.nil_append]

/-- The fields of a time of the day have the width they are shown with. -/
structure TimeFits (millis : Nat) : Prop where
  hour : Fits 2 (millis / 1000 / 3600)
  minute : Fits 2 (millis / 1000 / 60 % 60)
  second : Fits 2 (millis / 1000 % 60)
  milli : Fits 3 (millis % 1000)

theorem timeFits_of_lt {millis : Nat} (h : millis < millisPerDay) : TimeFits millis := by
  unfold millisPerDay at h
  exact ⟨fits_two (by omega), fits_two (by omega), fits_two (by omega), fits_three (by omega)⟩

theorem length_timeText {millis : Nat} (h : millis < millisPerDay) :
    (timeText millis).toList.length = 12 := by
  have hfits := timeFits_of_lt h
  rw [toList_timeText]
  simp only [List.length_append, List.length_cons, length_padded hfits.hour,
    length_padded hfits.minute, length_padded hfits.second, length_padded hfits.milli]

theorem timeText_lt {millis millis' : Nat} (h : millis < millis') (hday : millis' < millisPerDay) :
    (timeText millis).toList < (timeText millis').toList := by
  have hfits := timeFits_of_lt (Nat.lt_trans h hday)
  have hfits' := timeFits_of_lt hday
  have hfields : millis / 1000 / 3600 < millis' / 1000 / 3600 ∨
      millis / 1000 / 3600 = millis' / 1000 / 3600 ∧
        (millis / 1000 / 60 % 60 < millis' / 1000 / 60 % 60 ∨
          millis / 1000 / 60 % 60 = millis' / 1000 / 60 % 60 ∧
            (millis / 1000 % 60 < millis' / 1000 % 60 ∨
              millis / 1000 % 60 = millis' / 1000 % 60 ∧ millis % 1000 < millis' % 1000)) := by
    omega
  rw [toList_timeText, toList_timeText]
  apply padded_append_lt hfits.hour hfits'.hour
  refine hfields.imp_right (And.imp_right fun hfields => cons_lt ':' ?_)
  apply padded_append_lt hfits.minute hfits'.minute
  refine hfields.imp_right (And.imp_right fun hfields => cons_lt ':' ?_)
  apply padded_append_lt hfits.second hfits'.second
  exact hfields.imp_right (And.imp_right fun hmilli =>
    cons_lt '.' (padded_lt hfits.milli hfits'.milli hmilli))

theorem Date.Valid.fits {d : Date} (h : d.Valid) : Fits 2 d.month ∧ Fits 2 d.day := by
  have hmonth := h.month
  have hday := h.day
  have hdays := monthDays_le d.year d.month
  exact ⟨fits_two (by omega), fits_two (by omega)⟩

/-- What follows the year in a stamp. -/
def behindYear (d : Date) (millis : Nat) : List Char :=
  '-' :: ((padded 2 d.month).toList ++ '-' ::
    ((padded 2 d.day).toList ++ ' ' :: (timeText millis).toList))

theorem length_behindYear {d : Date} (hd : d.Valid) {millis : Nat} (h : millis < millisPerDay) :
    (behindYear d millis).length = 19 := by
  obtain ⟨hmonth, hday⟩ := hd.fits
  simp only [behindYear, List.length_cons, List.length_append, length_padded hmonth,
    length_padded hday, length_timeText h]

theorem toList_text_append (d : Date) (millis : Nat) :
    (d.text ++ " " ++ timeText millis).toList =
      (yearText d.year).toList ++ behindYear d millis := by
  have htext : d.text = yearText d.year ++ "-" ++ padded 2 d.month ++ "-" ++ padded 2 d.day := rfl
  have hdash : "-".toList = ['-'] := rfl
  have hblank : " ".toList = [' '] := rfl
  rw [htext, behindYear]
  simp only [String.toList_append, List.append_assoc, hdash, hblank, List.cons_append,
    List.nil_append]

/-- The date of a time. -/
def dateOf (millis : Int) : Date := Date.ofDays (millis / millisPerDay)

theorem valid_dateOf (millis : Int) : (dateOf millis).Valid := Date.valid_ofDays _

/-- How far a time is into its day. -/
def inDay (millis : Int) : Nat := (millis % millisPerDay).toNat

theorem inDay_lt (millis : Int) : inDay millis < millisPerDay := by
  unfold inDay millisPerDay
  omega

/-- The stamp of a time, whether or not the calendar has it. -/
def stampOf (millis : Int) : String := s!"{(dateOf millis).text} {timeText (inDay millis)}"

theorem stamp?_of_le {millis : Int} (h : earliest ≤ millis ∧ millis ≤ latest) :
    stamp? millis = some (stampOf millis) :=
  if_pos h

theorem toList_stampOf (millis : Int) :
    (stampOf millis).toList =
      (yearText (dateOf millis).year).toList ++ behindYear (dateOf millis) (inDay millis) :=
  toList_text_append (dateOf millis) (inDay millis)

theorem length_behindYear_dateOf (millis : Int) :
    (behindYear (dateOf millis) (inDay millis)).length = 19 :=
  length_behindYear (valid_dateOf millis) (inDay_lt millis)

variable {millis millis' : Int}

/-- The later of two times has the later date, or the same date and more of the day gone. -/
theorem before_or_of_lt (h : millis < millis') :
    (dateOf millis).Before (dateOf millis') ∨
      dateOf millis = dateOf millis' ∧ inDay millis < inDay millis' := by
  have hdays : millis / millisPerDay < millis' / millisPerDay ∨
      millis / millisPerDay = millis' / millisPerDay ∧ inDay millis < inDay millis' := by
    unfold inDay millisPerDay
    omega
  refine hdays.imp Date.before_of_lt (And.imp_left fun hsame => ?_)
  rw [dateOf, dateOf, hsame]

theorem year_le (h : millis < millis') : (dateOf millis).year ≤ (dateOf millis').year := by
  rcases before_or_of_lt h with hbefore | ⟨hsame, -⟩
  · unfold Date.Before at hbefore
    omega
  · rw [hsame]

/-- Within a year the rest of the stamp is in the order of the times. -/
theorem behindYear_lt (h : millis < millis')
    (hyear : (dateOf millis).year = (dateOf millis').year) :
    behindYear (dateOf millis) (inDay millis) < behindYear (dateOf millis') (inDay millis') := by
  obtain ⟨hmonth, hday⟩ := (valid_dateOf millis).fits
  obtain ⟨hmonth', hday'⟩ := (valid_dateOf millis').fits
  have hfields : (dateOf millis).month < (dateOf millis').month ∨
      (dateOf millis).month = (dateOf millis').month ∧
        ((dateOf millis).day < (dateOf millis').day ∨
          (dateOf millis).day = (dateOf millis').day ∧ inDay millis < inDay millis') := by
    rcases before_or_of_lt h with hbefore | ⟨hsame, htime⟩
    · unfold Date.Before at hbefore
      omega
    · rw [hsame]
      exact .inr ⟨rfl, .inr ⟨rfl, htime⟩⟩
  apply cons_lt
  apply padded_append_lt hmonth hmonth'
  refine hfields.imp_right (And.imp_right fun hfields => cons_lt '-' ?_)
  apply padded_append_lt hday hday'
  exact hfields.imp_right (And.imp_right fun htime =>
    cons_lt ' ' (timeText_lt htime (inDay_lt millis')))

/-- A stamp tells its time, however far from now. -/
theorem stampOf_injective : Function.Injective stampOf := by
  intro millis millis' h
  have hlist : (stampOf millis).toList = (stampOf millis').toList := congrArg String.toList h
  rw [toList_stampOf, toList_stampOf] at hlist
  obtain ⟨hyear, hrest⟩ := List.append_inj' hlist
    ((length_behindYear_dateOf millis).trans (length_behindYear_dateOf millis').symm)
  have hyear : (dateOf millis).year = (dateOf millis').year := by
    rw [← yearOf_yearText (dateOf millis).year, hyear, yearOf_yearText]
  rcases Int.lt_trichotomy millis millis' with hlt | heq | hgt
  · have hless := behindYear_lt hlt hyear
    rw [hrest] at hless
    exact absurd hless (List.lt_irrefl _)
  · exact heq
  · have hless := behindYear_lt hgt hyear.symm
    rw [hrest] at hless
    exact absurd hless (List.lt_irrefl _)

-- the last moment before the year 0 and the first behind the year 9999
example : stampOf (-62167219200001) = "-0001-12-31 23:59:59.999" := by decide
example : stampOf 253402300800000 = "+10000-01-01 00:00:00.000" := by decide

/-- The year has four digits. -/
def FourDigits (millis : Int) : Prop := 0 ≤ (dateOf millis).year ∧ (dateOf millis).year ≤ 9999

instance : Decidable (FourDigits millis) := inferInstanceAs (Decidable (_ ∧ _))

theorem FourDigits.yearText (h : FourDigits millis) :
    yearText (dateOf millis).year = padded 4 (dateOf millis).year.natAbs := by
  rw [Calendar.yearText, if_neg (Int.not_lt.mpr h.1), if_pos h.2]

theorem FourDigits.fits (h : FourDigits millis) : Fits 4 (dateOf millis).year.natAbs := by
  unfold FourDigits at h
  exact fits_four (by omega)

theorem FourDigits.length_stampOf (h : FourDigits millis) :
    (stampOf millis).toList.length = 23 := by
  rw [toList_stampOf, List.length_append, h.yearText, length_padded h.fits,
    length_behindYear_dateOf]

/-- The calendar has the years of four digits whole. -/
theorem FourDigits.inCalendar (h : FourDigits millis) : earliest ≤ millis ∧ millis ≤ latest := by
  have hfirst : (dateOf earliest).year = -262143 := by decide
  have hlast : (dateOf latest).year = 262142 := by decide
  unfold FourDigits at h
  constructor
  · by_contra hlt
    have hyear := year_le (Int.not_le.mp hlt)
    omega
  · by_contra hlt
    have hyear := year_le (Int.not_le.mp hlt)
    omega

theorem FourDigits.stampOf_lt (h : FourDigits millis) (h' : FourDigits millis')
    (hlt : millis < millis') : (stampOf millis).toList < (stampOf millis').toList := by
  have hyear := year_le hlt
  rw [toList_stampOf, toList_stampOf, h.yearText, h'.yearText]
  apply padded_append_lt h.fits h'.fits
  unfold FourDigits at h h'
  rcases Int.lt_or_eq_of_le hyear with hyear | hyear
  · exact .inl (by omega)
  · exact .inr ⟨congrArg Int.natAbs hyear, behindYear_lt hlt hyear⟩

theorem FourDigits.stampOf_lt_iff (h : FourDigits millis) (h' : FourDigits millis') :
    (stampOf millis).toList < (stampOf millis').toList ↔ millis < millis' := by
  refine ⟨fun hlt => ?_, h.stampOf_lt h'⟩
  by_contra hge
  rcases Int.lt_or_eq_of_le (Int.not_lt.mp hge) with hgt | rfl
  · exact List.lt_asymm hlt (h'.stampOf_lt h hgt)
  · exact List.lt_irrefl _ hlt

end Rota.Calendar
