import Mathlib.Data.List.TakeWhile
import Rota.Log.Line
import Rota.Proofs.Files

namespace Rota.Log

/-- What becomes of the writing of a line: it gets into the file, or it fails and may leave some
text there. -/
inductive Fate
  | written
  | failed (left : String)
  deriving DecidableEq

/-- What gets into the file in place of a line. -/
def Fate.trace (line : String) : Fate → String
  | .written => line
  | .failed left => left

/-- What a consumer leaves in its file that reads these records, the first of which is number `i`:
the line of each, written at its own time, or what is left of it. -/
def report (time : Nat → Int64) (fate : Nat → Fate) : Nat → List Record → String
  | _, [] => ""
  | i, r :: rest => (fate i).trace (line (time i) r ++ "\n") ++ report time fate (i + 1) rest

/-- How many of the first `count` lines get into the file. -/
def successes (fate : Nat → Fate) (count : Nat) : Nat :=
  (List.range count).countP fun i => fate i = .written

/-- The records ahead of the first marker. -/
def ahead (records : List Record) : List Record := records.takeWhile (·.kind = .message)

theorem ahead_append_of_message {records : List Record} (h : ∀ r ∈ records, r.kind = .message)
    (rest : List Record) : ahead (records ++ rest) = records ++ ahead rest :=
  List.takeWhile_append_of_pos fun r hr => decide_eq_true (h r hr)

theorem ahead_append_of_marker {records : List Record} (h : ∀ r ∈ records, r.kind = .message)
    {r : Record} (hr : r.kind = .shutdown) (rest : List Record) :
    ahead (records ++ r :: rest) = records := by
  rw [ahead_append_of_message h, ahead, List.takeWhile_cons_of_neg, List.append_nil]
  rw [hr]
  decide

theorem ahead_eq_self_iff {records : List Record} :
    ahead records = records ↔ ∀ r ∈ records, r.kind = .message := by
  rw [ahead, List.takeWhile_eq_self_iff]
  simp only [decide_eq_true_eq]

theorem length_ahead_le (records : List Record) : (ahead records).length ≤ records.length :=
  (List.takeWhile_prefix _).length_le

/-- A marker is not ahead of itself. -/
theorem length_ahead_lt {records : List Record} {r : Record} (hr : r ∈ records)
    (hkind : r.kind = .shutdown) : (ahead records).length < records.length := by
  refine Nat.lt_of_le_of_ne (length_ahead_le records) fun hlength => ?_
  have hall : ahead records = records := (List.takeWhile_prefix _).eq_of_length hlength
  have hmessage := ahead_eq_self_iff.mp hall r hr
  rw [hkind] at hmessage
  cases hmessage

theorem ahead_map_kept (records : List Record) :
    ahead (records.map Record.kept) = (ahead records).map Record.kept :=
  List.takeWhile_map ..

theorem ahead_take (count : Nat) (records : List Record) :
    ahead (records.take count) = (ahead records).take count := by
  induction records generalizing count with
  | nil => rw [List.take_nil, ahead, List.takeWhile_nil, List.take_nil]
  | cons r records ih =>
    cases count with
    | zero => rfl
    | succ count =>
      have hrest : (records.take count).takeWhile (·.kind = .message) =
          (records.takeWhile (·.kind = .message)).take count := ih count
      rw [List.take_succ_cons, ahead, ahead, List.takeWhile_cons, List.takeWhile_cons, hrest]
      split_ifs
      · rfl
      · exact (List.take_nil).symm

/-- What comes in behind a marker is not ahead of it. -/
theorem ahead_of_prefix {records more : List Record} (h : records <+: more)
    (hmarker : (ahead records).length < records.length) : ahead more = ahead records := by
  obtain ⟨rest, rfl⟩ := h
  unfold ahead at *
  rw [List.takeWhile_append, if_neg (Nat.ne_of_lt hmarker)]

section report

variable (time : Nat → Int64) (fate : Nat → Fate)

theorem report_concat (i : Nat) (records : List Record) (r : Record) :
    report time fate i (records ++ [r]) = report time fate i records ++
      (fate (i + records.length)).trace (line (time (i + records.length)) r ++ "\n") := by
  induction records generalizing i with
  | nil => exact String.append_empty.trans String.empty_append.symm
  | cons s records ih =>
    rw [List.cons_append, report, report, ih, String.append_assoc, List.length_cons,
      Nat.add_comm records.length 1, ← Nat.add_assoc]

theorem successes_succ (count : Nat) :
    successes fate (count + 1) = successes fate count + if fate count = .written then 1 else 0 := by
  rw [successes, List.range_succ, List.countP_append, List.countP_singleton, successes]
  simp only [decide_eq_true_eq]

end report

end Rota.Log
