import Rota.Sync.Deadline
import Mathlib.Tactic.Common

namespace Rota.Sync

/-- The last second that a moment can lie in. -/
def lastSecond : Int := Int64.maxValue.toInt

/-- All of a span in nanoseconds. -/
def Span.total (s : Span) : Int := s.seconds.toNat * nanosPerSecond + s.nanos

/-- A span of whose seconds none is taken for negative. -/
def Span.Counted (s : Span) : Prop := s.seconds.toNat ≤ lastSecond

theorem toInt_addSaturating (a b : Int64) :
    (addSaturating a b).toInt = max Int64.minValue.toInt (min (a.toInt + b.toInt) lastSecond) := by
  have hrange : Int64.minValue.toInt ≤ lastSecond := by decide
  unfold addSaturating
  dsimp only
  split_ifs with hlow hhigh
  · omega
  · change lastSecond = _
    change lastSecond < _ at hhigh
    omega
  · have hfits : a.toInt + b.toInt ≤ lastSecond := Int.not_lt.mp hhigh
    rw [Int64.toInt_ofInt_of_le (Int.not_lt.mp hlow) (Int.lt_add_one_of_le hfits)]
    omega

theorem Span.Counted.toInt_seconds {s : Span} (h : s.Counted) :
    s.seconds.toInt64.toInt = s.seconds.toNat := by
  have hlast : lastSecond = 9223372036854775807 := by decide
  have hle : (s.seconds.toNat : Int) ≤ lastSecond := h
  rw [← Int64.toInt_toBitVec, UInt64.toBitVec_toInt64, BitVec.toInt_eq_toNat_of_lt]
  · rfl
  · change 2 * s.seconds.toNat < 18446744073709551616
    omega

/-- A span too long to be counted goes backwards, by at least a second. -/
theorem toInt_seconds_neg {s : Span} (h : ¬ s.Counted) : s.seconds.toInt64.toInt < 0 := by
  have hlast : lastSecond = 9223372036854775807 := by decide
  have hlt : lastSecond < s.seconds.toNat := Int.not_le.mp h
  rw [← Int64.toInt_toBitVec, UInt64.toBitVec_toInt64, BitVec.toInt_neg_iff]
  change 18446744073709551616 ≤ 2 * s.seconds.toNat
  omega

namespace Moment

/-- The nanoseconds since the clock began. -/
def total (m : Moment) : Int := m.seconds.toInt * nanosPerSecond + m.nanos

/-- The second that the moment `span` after `base` lies in, on a clock that never ends. -/
def secondAfter (base : Moment) (span : Span) : Int :=
  (base.total + span.total) / nanosPerSecond

/-- `m` is the moment `span` after `base`, or lies in the last second if the clock ends before. -/
structure IsAfter (base : Moment) (span : Span) (m : Moment) : Prop where
  nanos : m.nanos < nanosPerSecond
  exact : base.secondAfter span ≤ lastSecond → m.total = base.total + span.total
  last : lastSecond < base.secondAfter span → m.seconds.toInt = lastSecond

/-- The seconds that the nanoseconds of both make up, which is one at most. -/
def carry (base : Moment) (span : Span) : Nat := (base.nanos + span.nanos) / nanosPerSecond

section after

variable {base : Moment} {span : Span} (hb : base.nanos < nanosPerSecond)
  (hs : span.nanos < nanosPerSecond)
include hb hs

theorem after_eq : base.after span =
    ⟨if base.carry span = 1 then addSaturating (addSaturating base.seconds span.seconds.toInt64) 1
      else addSaturating base.seconds span.seconds.toInt64,
      (base.nanos + span.nanos) % nanosPerSecond⟩ := by
  have hsum : (base.nanos + span.nanos) % nanosPerSecond =
      base.nanos + span.nanos - nanosPerSecond * base.carry span := Nat.mod_eq_sub _ _
  unfold after
  dsimp only
  split_ifs with hle hone hone
  · rw [hsum, hone, Nat.mul_one]
  · exact absurd (Nat.div_eq_of_lt_le (by omega) (by omega)) hone
  · rw [carry, Nat.div_eq_of_lt (by omega)] at hone
    cases hone
  · rw [Nat.mod_eq_of_lt (by omega)]

theorem carry_le : base.carry span ≤ 1 := by
  rw [carry, Nat.div_le_iff_le_mul (by decide)]
  omega

theorem nanos_after : (base.after span).nanos = (base.nanos + span.nanos) % nanosPerSecond := by
  rw [after_eq hb hs]

omit hb hs in
theorem secondAfter_eq : base.secondAfter span =
    base.seconds.toInt + span.seconds.toNat + base.carry span := by
  have hn : nanosPerSecond = 1000000000 := rfl
  unfold secondAfter total Span.total carry
  rw [hn]
  omega

/-- Seconds are added up to the last one. -/
theorem seconds_after (hpos : 0 ≤ base.seconds.toInt) (hc : span.Counted) :
    (base.after span).seconds.toInt = min (base.secondAfter span) lastSecond := by
  have hlast : lastSecond = 9223372036854775807 := by decide
  have hlow : Int64.minValue.toInt = -9223372036854775808 := by decide
  have hone : Int64.toInt 1 = 1 := by decide
  have hcarry := carry_le hb hs
  rw [after_eq hb hs, secondAfter_eq]
  dsimp only
  split_ifs with h
  · rw [toInt_addSaturating, toInt_addSaturating, hc.toInt_seconds, hone]
    omega
  · rw [toInt_addSaturating, hc.toInt_seconds]
    omega

theorem isAfter_after (hpos : 0 ≤ base.seconds.toInt) (hc : span.Counted) :
    base.IsAfter span (base.after span) := by
  have hseconds := seconds_after hb hs hpos hc
  have hnanos := nanos_after hb hs
  refine ⟨?_, fun hfits => ?_, fun hlate => ?_⟩
  · rw [hnanos]
    exact Nat.mod_lt _ (by decide)
  · have hn : nanosPerSecond = 1000000000 := rfl
    rw [total, hseconds, hnanos, Int.min_eq_left hfits, secondAfter, total, Span.total, hn]
    omega
  · rw [hseconds, Int.min_eq_right (Int.le_of_lt hlate)]

/-- A span too long to be counted leads back by a second or more, of which one may be carried. -/
theorem seconds_after_lt (hpos : 0 ≤ base.seconds.toInt) (hc : ¬ span.Counted) :
    (base.after span).seconds.toInt < base.seconds.toInt + base.carry span := by
  have hlow : Int64.minValue.toInt = -9223372036854775808 := by decide
  have hone : Int64.toInt 1 = 1 := by decide
  have hneg := toInt_seconds_neg hc
  have hbound := Int64.minValue_le_toInt span.seconds.toInt64
  have hcarry := carry_le hb hs
  rw [after_eq hb hs]
  dsimp only
  split_ifs with h
  · rw [toInt_addSaturating, toInt_addSaturating, hone]
    omega
  · rw [toInt_addSaturating]
    omega

theorem total_after_lt_iff (hpos : 0 ≤ base.seconds.toInt) :
    (base.after span).total < base.total ↔
      ¬ span.Counted ∨ base.seconds.toInt = lastSecond ∧ base.carry span = 1 := by
  have hn : nanosPerSecond = 1000000000 := rfl
  have hlast : base.seconds.toInt ≤ lastSecond := Int64.toInt_le _
  have hcarry : base.carry span = (base.nanos + span.nanos) / nanosPerSecond := rfl
  have hle := carry_le hb hs
  rw [total, total, nanos_after hb hs, hn]
  rw [hn] at hb hs hcarry
  by_cases hc : span.Counted
  · have hseconds := seconds_after hb hs hpos hc
    rw [secondAfter_eq] at hseconds
    simp only [hc, not_true_eq_false, false_or]
    omega
  · have hseconds := seconds_after_lt hb hs hpos hc
    simp only [hc, not_false_eq_true, true_or, iff_true]
    omega

end after

/-- A deadline is what its span asks for, up to the end of the clock, as long as the span is
counted; a longer span sets a deadline that is over. One in the last second loses what is carried. -/
theorem after_laws (base : Moment) (span : Span) (hpos : 0 ≤ base.seconds)
    (hb : base.nanos < nanosPerSecond) (hs : span.nanos < nanosPerSecond) :
    (base.after span).nanos < nanosPerSecond ∧
    (span.Counted → base.IsAfter span (base.after span)) ∧
    ((base.after span).total < base.total ↔
      ¬ span.Counted ∨ base.seconds.toInt = lastSecond ∧ base.carry span = 1) := by
  have hpos : 0 ≤ base.seconds.toInt := Int64.le_iff_toInt_le.mp hpos
  refine ⟨?_, isAfter_after hb hs hpos, total_after_lt_iff hb hs hpos⟩
  rw [nanos_after hb hs]
  exact Nat.mod_lt _ (by decide)

theorem after_laws_of_long_span :
    ∃ (base : Moment) (span : Span), base = ⟨10, 900000000⟩ ∧
      span = ⟨9223372036854775807, 200000000⟩ ∧ 0 ≤ base.seconds ∧ base.nanos < nanosPerSecond ∧
      span.nanos < nanosPerSecond ∧ span.Counted ∧ base.IsAfter span (base.after span) ∧
      ¬ (base.after span).total < base.total ∧
      base.after span = ⟨Int64.maxValue, 100000000⟩ := by
  have hcounted : Span.Counted ⟨9223372036854775807, 200000000⟩ := by
    unfold Span.Counted
    decide
  obtain ⟨-, hafter, hbefore⟩ := after_laws ⟨10, 900000000⟩ ⟨9223372036854775807, 200000000⟩
    (by decide) (by decide) (by decide)
  refine ⟨_, _, rfl, rfl, by decide, by decide, by decide, hcounted, hafter hcounted, ?_,
    by decide⟩
  rw [hbefore]
  rintro (hlong | ⟨hlast, -⟩)
  · exact hlong hcounted
  · revert hlast
    decide

/-- The longest span that can be asked for sets a deadline one second back. -/
theorem not_isAfter_of_longest_span :
    ¬ ∀ (base : Moment) (span : Span), 0 ≤ base.seconds → base.nanos < nanosPerSecond →
      span.nanos < nanosPerSecond →
        base.IsAfter span (base.after span) ∧ base.total ≤ (base.after span).total := by
  intro h
  obtain ⟨-, hle⟩ := h ⟨10, 0⟩ ⟨18446744073709551615, 0⟩ (by decide) (by decide) (by decide)
  revert hle
  decide

end Moment
end Rota.Sync
