import Rota.Proofs.Calendar.Stamp
import Rota.Proofs.Lists
import Rota.Proofs.Log.Appending
import Rota.Proofs.Text.Numeral

namespace Rota

namespace Calendar

/-- The text has digits only, and what stands between them in a stamp. -/
def Stamped (text : String) : Prop :=
  ∀ c ∈ text.toList, c.isDigit ∨ c ∈ ['-', '+', ':', '.', ' ']

instance (text : String) : Decidable (Stamped text) := List.decidableBAll _ text.toList

theorem Stamped.append {s t : String} (hs : Stamped s) (ht : Stamped t) : Stamped (s ++ t) := by
  intro c hc
  rw [String.toList_append, List.mem_append] at hc
  exact hc.elim (hs c) (ht c)

theorem Stamped.not_mem {text : String} (h : Stamped text) {c : Char} (hdigit : ¬c.isDigit)
    (hmark : c ∉ ['-', '+', ':', '.', ' ']) : c ∉ text.toList :=
  fun hc => (h c hc).elim hdigit hmark

theorem stamped_padded (width n : Nat) : Stamped (padded width n) :=
  fun _ hc => .inl (isDigit_of_mem_padded hc)

theorem stamped_yearText (year : Int) : Stamped (yearText year) := by
  have hyear := stamped_padded 4 year.natAbs
  have hminus : Stamped "-" := by decide
  have hplus : Stamped "+" := by decide
  unfold yearText
  split_ifs
  · exact hminus.append hyear
  · exact hyear
  · exact hplus.append hyear

theorem stamped_dateText (d : Date) : Stamped d.text := by
  have hdash : Stamped "-" := by decide
  exact ((((stamped_yearText _).append hdash).append (stamped_padded _ _)).append hdash).append
    (stamped_padded _ _)

theorem stamped_timeText (millis : Nat) : Stamped (timeText millis) := by
  have hcolon : Stamped ":" := by decide
  have hdot : Stamped "." := by decide
  have hclock := ((((stamped_padded 2 (millis / 1000 / 3600)).append hcolon).append
    (stamped_padded 2 (millis / 1000 / 60 % 60))).append hcolon).append
    (stamped_padded 2 (millis / 1000 % 60))
  exact hclock.append (hdot.append (stamped_padded _ _))

theorem stamped_stamp? {millis : Int} {text : String} (h : text ∈ stamp? millis) :
    Stamped text := by
  have hblank : Stamped " " := by decide
  unfold stamp? at h
  split_ifs at h
  · rw [← Option.some.inj h]
    exact ((stamped_dateText _).append hblank).append (stamped_timeText _)
  · cases h

end Calendar

namespace Log

theorem stamped_stampText (now : Int64) (r : Record) : Calendar.Stamped (stampText now r) := by
  rw [stampText]
  cases hown : Calendar.stamp? r.millis.toInt with
  | some text => exact Calendar.stamped_stamp? hown
  | none =>
    cases hnow : Calendar.stamp? now.toInt with
    | some text => exact Calendar.stamped_stamp? hnow
    | none => decide

/-- The number of a process is shown by its digits. -/
theorem toList_toString (pid : UInt32) : (toString pid).toList = Nat.toDigits 10 pid.toNat := by
  have hshown : toString pid = pid.toNat.repr := rfl
  rw [hshown, Nat.toList_repr]

theorem isDigit_of_mem_toString {pid : UInt32} {c : Char} (hc : c ∈ (toString pid).toList) :
    c.isDigit := by
  rw [toList_toString] at hc
  exact Text.isDigit_of_mem_toDigits hc

/-- The pieces of a text between its line breaks. -/
def pieces (text : String) : List String := (text.toList.splitOn '\n').map String.ofList

/-- What comes behind the first bracket that a blank follows. -/
def behindMark : List Char → Option (List Char)
  | [] => none
  | ']' :: ' ' :: rest => some rest
  | _ :: rest => behindMark rest

/-- The text of a line of the log. -/
def textOf (piece : String) : Option String := (behindMark piece.toList).map String.ofList

/-- The text has one line for each record, which reads back as the text of the record; each line
ends with a line break. -/
def OneLineEach (text : String) (records : List Record) : Prop :=
  ∃ lines, pieces text = lines ++ [""] ∧
    List.Forall₂ (fun piece r => textOf piece = some r.text) lines records

theorem behindMark_of_not_mem {before : List Char} (h : ']' ∉ before) (rest : List Char) :
    behindMark (before ++ ']' :: ' ' :: rest) = some rest := by
  induction before with
  | nil => rfl
  | cons c before ih =>
    have hc : c ≠ ']' := fun hc => h (hc ▸ List.mem_cons_self)
    rw [List.cons_append, behindMark]
    · exact ih fun hmem => h (List.mem_cons_of_mem c hmem)
    · intro _ hbracket
      exact absurd hbracket hc

theorem isSuffix_of_behindMark {piece rest : List Char} (h : behindMark piece = some rest) :
    rest <:+ piece := by
  induction piece using behindMark.induct with
  | case1 => cases h
  | case2 rest' =>
    rw [← Option.some.inj h]
    exact (List.suffix_cons ' ' rest').trans (List.suffix_cons ..)
  | case3 c rest' hmark ih =>
    rw [behindMark] at h
    · exact (ih h).trans (List.suffix_cons ..)
    · exact hmark

/-- What stands in a line before the bracket behind the process. -/
def leading (now : Int64) (r : Record) : List Char :=
  (stampText now r).toList ++ ' ' :: '[' :: (toString r.pid).toList

theorem toList_line (now : Int64) (r : Record) :
    (line now r).toList = leading now r ++ ']' :: ' ' :: r.text.toList := by
  have hline : line now r = stampText now r ++ " [" ++ toString r.pid ++ "] " ++ r.text := rfl
  rw [hline, leading]
  simp only [String.toList_append, List.append_assoc]
  rfl

/-- Whatever the record says, the first line break and the first closing bracket come behind the
process. -/
theorem not_mem_leading (now : Int64) (r : Record) {c : Char} (hc : c = ']' ∨ c = '\n') :
    c ∉ leading now r := by
  have hstamp : c ∉ (stampText now r).toList := by
    rcases hc with rfl | rfl <;> exact (stamped_stampText now r).not_mem (by decide) (by decide)
  have hpid : c ∉ (toString r.pid).toList := fun hmem => by
    have hdigit := isDigit_of_mem_toString hmem
    rcases hc with rfl | rfl <;> exact absurd hdigit (by decide)
  rw [leading, List.mem_append, List.mem_cons, List.mem_cons]
  rintro (hmem | hblank | hbracket | hmem)
  · exact hstamp hmem
  · rcases hc with rfl | rfl <;> exact absurd hblank (by decide)
  · rcases hc with rfl | rfl <;> exact absurd hbracket (by decide)
  · exact hpid hmem

theorem textOf_line (now : Int64) (r : Record) : textOf (line now r) = some r.text := by
  rw [textOf, toList_line, behindMark_of_not_mem (not_mem_leading now r (.inl rfl)),
    Option.map_some, String.ofList_toList]

theorem not_mem_line {now : Int64} {r : Record} (h : '\n' ∉ r.text.toList) :
    '\n' ∉ (line now r).toList := by
  rw [toList_line, List.mem_append, List.mem_cons, List.mem_cons]
  rintro (hmem | hbracket | hblank | hmem)
  · exact not_mem_leading now r (.inr rfl) hmem
  · exact absurd hbracket (by decide)
  · exact absurd hblank (by decide)
  · exact h hmem

theorem pieces_append {first : String} (h : '\n' ∉ first.toList) (rest : String) :
    pieces (first ++ "\n" ++ rest) = first :: pieces rest := by
  have hlist : (first ++ "\n" ++ rest).toList = first.toList ++ '\n' :: rest.toList := by
    simp only [String.toList_append, List.append_assoc]
    rfl
  rw [pieces, hlist, List.splitOn_append_cons_self_of_not_mem h, List.map_cons,
    String.ofList_toList, ← pieces]

theorem not_mem_of_textOf {text piece rest : String} (hpiece : piece ∈ pieces text)
    (hrest : textOf piece = some rest) : '\n' ∉ rest.toList := by
  obtain ⟨cs, hcs, rfl⟩ := List.mem_map.mp hpiece
  obtain ⟨behind, hbehind, rfl⟩ := Option.map_eq_some_iff.mp hrest
  rw [String.toList_ofList] at hbehind ⊢
  exact fun hmem => not_mem_of_mem_splitOn hcs ((isSuffix_of_behindMark hbehind).subset hmem)

theorem OneLineEach.not_mem {text : String} {records : List Record} (h : OneLineEach text records) :
    ∀ r ∈ records, '\n' ∉ r.text.toList := by
  obtain ⟨lines, hpieces, hlines⟩ := h
  have hsub : ∀ piece ∈ lines, piece ∈ pieces text := fun piece hp =>
    hpieces ▸ List.mem_append_left _ hp
  clear hpieces
  induction hlines with
  | nil => nofun
  | cons hfirst _ ih =>
    intro r hr
    rcases List.mem_cons.mp hr with rfl | hr
    · exact not_mem_of_textOf (hsub _ List.mem_cons_self) hfirst
    · exact ih (fun piece hp => hsub piece (List.mem_cons_of_mem _ hp)) r hr

theorem oneLineEach_report {records : List Record} (h : ∀ r ∈ records, '\n' ∉ r.text.toList)
    (time : Nat → Int64) (i : Nat) :
    OneLineEach (report time (fun _ => .written) i records) records := by
  induction records generalizing i with
  | nil => exact ⟨[], rfl, .nil⟩
  | cons r records ih =>
    obtain ⟨lines, hpieces, hlines⟩ := ih (fun s hs => h s (List.mem_cons_of_mem r hs)) (i + 1)
    refine ⟨line (time i) r :: lines, ?_, .cons (textOf_line (time i) r) hlines⟩
    rw [report, Fate.trace, pieces_append (not_mem_line (h r List.mem_cons_self)), hpieces,
      List.cons_append]

/-- The lines that have been written read back as the records if and only if no text has a line
break of its own. -/
theorem oneLineEach_report_iff (time : Nat → Int64) (records : List Record) :
    OneLineEach (report time (fun _ => .written) 0 records) records ↔
      ∀ r ∈ records, '\n' ∉ r.text.toList :=
  ⟨OneLineEach.not_mem, fun h => oneLineEach_report h time 0⟩

end Log
end Rota
