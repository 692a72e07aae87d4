import Rota.Proofs.Log.Lines

namespace Rota.Log

open Calendar

/-- A mark that stands in neither beginning divides two texts alike. -/
theorem append_cons_inj {c : Char} {cs cs' rest rest' : List Char} (hcs : c ∉ cs) (hcs' : c ∉ cs')
    (h : cs ++ c :: rest = cs' ++ c :: rest') : cs = cs' ∧ rest = rest' := by
  induction cs generalizing cs' with
  | nil =>
    cases cs' with
    | nil => exact ⟨rfl, (List.cons.inj h).2⟩
    | cons d cs' => exact absurd ((List.cons.inj h).1 ▸ List.mem_cons_self) hcs'
  | cons d cs ih =>
    cases cs' with
    | nil => exact absurd ((List.cons.inj h).1 ▸ List.mem_cons_self) hcs
    | cons d' cs' =>
      obtain ⟨rfl, htail⟩ := List.cons.inj h
      obtain ⟨rfl, hrest⟩ := ih (fun hc => hcs (List.mem_cons_of_mem d hc))
        (fun hc => hcs' (List.mem_cons_of_mem d hc)) htail
      exact ⟨rfl, hrest⟩

theorem toString_pid_injective {pid pid' : UInt32}
    (h : (toString pid).toList = (toString pid').toList) : pid = pid' := by
  have hvalue (pid : UInt32) : Nat.ofDigitChars 10 (toString pid).toList 0 = pid.toNat := by
    rw [toList_toString, Nat.ofDigitChars_ten_toDigits]
  apply UInt32.toNat_inj.mp
  rw [← hvalue pid, h, hvalue]

/-- The parts of a line are found in it whatever they say. -/
theorem parts_of_line_eq {now now' : Int64} {r r' : Record} (h : line now r = line now' r') :
    stampText now r = stampText now' r' ∧ r.pid = r'.pid ∧ r.text = r'.text := by
  have hline : (line now r).toList = (line now' r').toList := congrArg String.toList h
  rw [toList_line, toList_line] at hline
  obtain ⟨hleading, htext⟩ := append_cons_inj (not_mem_leading now r (.inl rfl))
    (not_mem_leading now' r' (.inl rfl)) hline
  have hbracket (now : Int64) (r : Record) : '[' ∉ (stampText now r).toList ++ [' '] := by
    rw [List.mem_append, List.mem_singleton]
    exact fun hmem => hmem.elim
      ((stamped_stampText now r).not_mem (by decide) (by decide)) (by decide)
  have hmiddle : ((stampText now r).toList ++ [' ']) ++ '[' :: (toString r.pid).toList =
      ((stampText now' r').toList ++ [' ']) ++ '[' :: (toString r'.pid).toList := by
    rw [List.append_assoc, List.append_assoc]
    exact hleading
  obtain ⟨hstamp, hpid⟩ := append_cons_inj (hbracket now r) (hbracket now' r') hmiddle
  exact ⟨String.toList_inj.mp (List.append_cancel_right hstamp), toString_pid_injective hpid,
    String.toList_inj.mp (List.cons.inj htext).2⟩

/-- The calendar has the time of the record. -/
def Record.InCalendar (r : Record) : Prop := earliest ≤ r.millis.toInt ∧ r.millis.toInt ≤ latest

instance (r : Record) : Decidable r.InCalendar := inferInstanceAs (Decidable (_ ∧ _))

theorem stampText_of_inCalendar {r : Record} (h : r.InCalendar) (now : Int64) :
    stampText now r = stampOf r.millis.toInt := by
  rw [stampText, stamp?_of_le h]
  rfl

/-- A stamp with a year of four digits is what a line begins with. -/
theorem take_line {r : Record} (h : FourDigits r.millis.toInt) (now : Int64) :
    (line now r).toList.take 23 = (stampOf r.millis.toInt).toList := by
  rw [toList_line, leading, stampText_of_inCalendar h.inCalendar, List.append_assoc,
    ← h.length_stampOf, List.take_left]

/-- Lines tell their records apart, and stamps of four digits for the year sort them by time. -/
theorem line_identifies (now now' : Int64) (r r' : Record) :
    (r.InCalendar → r'.InCalendar → line now r = line now' r' →
      r.millis = r'.millis ∧ r.pid = r'.pid ∧ r.text = r'.text) ∧
    (FourDigits r.millis.toInt → FourDigits r'.millis.toInt →
      stamp? r.millis.toInt = some (.ofList ((line now r).toList.take 23)) ∧
        ((line now r).toList.take 23 = (line now' r').toList.take 23 ↔ r.millis = r'.millis) ∧
        ((line now r).toList.take 23 < (line now' r').toList.take 23 ↔ r.millis < r'.millis)) := by
  refine ⟨fun hr hr' h => ?_, fun hr hr' => ⟨?_, ?_, ?_⟩⟩
  · obtain ⟨hstamp, hpid, htext⟩ := parts_of_line_eq h
    rw [stampText_of_inCalendar hr, stampText_of_inCalendar hr'] at hstamp
    exact ⟨Int64.toInt_inj.mp (stampOf_injective hstamp), hpid, htext⟩
  · rw [take_line hr, String.ofList_toList, stamp?_of_le hr.inCalendar]
  · rw [take_line hr, take_line hr', String.toList_inj, stampOf_injective.eq_iff, Int64.toInt_inj]
  · rw [take_line hr, take_line hr', hr.stampOf_lt_iff hr', Int64.lt_iff_toInt_lt]

/-- The last millisecond of the leap day of the year 0, and that of the year 9999. -/
theorem line_identifies_of_leap_day :
    ∃ r r' : Record, r = ⟨.message, 7, -62162035200001, "1] [2"⟩ ∧
      r' = ⟨.message, 7, 253402300799999, "1] [2"⟩ ∧
      (r.InCalendar ∧ line 0 r = line 1 r ∧
        r.millis = r.millis ∧ r.pid = r.pid ∧ r.text = r.text) ∧
      FourDigits r.millis.toInt ∧ FourDigits r'.millis.toInt ∧
      stamp? r.millis.toInt = some (.ofList ((line 0 r).toList.take 23)) ∧
      ((line 0 r).toList.take 23 = (line 0 r').toList.take 23 ↔ r.millis = r'.millis) ∧
      ((line 0 r).toList.take 23 < (line 0 r').toList.take 23 ↔ r.millis < r'.millis) := by
  refine ⟨_, _, rfl, rfl, ⟨by decide, ?_, ?_⟩, by decide, by decide, ?_⟩
  · rfl
  · exact (line_identifies 0 1 _ _).1 (by decide) (by decide) rfl
  · exact (line_identifies 0 0 _ _).2 (by decide) (by decide)

end Rota.Log
