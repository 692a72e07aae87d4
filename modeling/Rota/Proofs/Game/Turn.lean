import Rota.Game.Seat
import Mathlib.Tactic.Common

namespace Rota

theorem mem_rotation {size start i : Nat} (h : i < size) : i ∈ rotation size start := by
  have hr : (start + 1) % size < size := Nat.mod_lt _ (by omega)
  rw [rotation, List.mem_map]
  refine ⟨(i + size - (start + 1) % size) % size,
    List.mem_range.mpr (Nat.mod_lt _ (by omega)), ?_⟩
  rw [Nat.add_right_comm, Nat.add_mod, Nat.mod_mod, ← Nat.add_mod_mod,
    Nat.mod_mod, Nat.add_mod_mod, Nat.add_sub_cancel' (by omega), Nat.add_mod_right,
    Nat.mod_eq_of_lt h]

theorem eligible_of_nextSeat? {seats : List Seat} {previous next : Nat}
    (h : nextSeat? seats previous = some next) : (seats[next]?).any Seat.eligible := by
  unfold nextSeat? at h
  have hp := List.find?_some h
  exact hp

theorem nextSeat?_eq_none_iff {seats : List Seat} {previous : Nat} :
    nextSeat? seats previous = none ↔ ∀ i < seats.length, ¬ (seats[i]?).any Seat.eligible := by
  rw [nextSeat?, List.find?_eq_none]
  constructor
  · intro h i hi
    exact h i (mem_rotation hi)
  · intro h i hi
    obtain ⟨step, hs, rfl⟩ := List.mem_map.mp hi
    exact h _ (Nat.mod_lt _ (by have := List.mem_range.mp hs; omega))

/-- The turn does not pass over a seat that could have had it. -/
theorem nextSeat?_le {seats : List Seat} {previous next j : Nat}
    (h : nextSeat? seats previous = some next) (hp : previous < seats.length)
    (hj : j < seats.length) (he : (seats[j]?).any Seat.eligible) :
    (previous < j → previous < next ∧ next ≤ j) ∧
      (j < previous → previous < next ∨ next ≤ j) := by
  rw [nextSeat?, rotation, List.find?_map, Option.map_eq_some_iff] at h
  obtain ⟨k, hk, rfl⟩ := h
  obtain ⟨-, hlt, hfirst⟩ := List.find?_range_eq_some.mp hk
  rw [List.mem_range] at hlt
  -- No step before `k` ends at an eligible seat, so none of them ends at `j`.
  have hstep (m : Nat) (hm : (previous + m + 1) % seats.length = j) : k ≤ m := by
    by_contra hlt
    have hno := hfirst m (by omega)
    rw [Function.comp_apply, hm, he] at hno
    exact Bool.false_ne_true hno
  have hnext : (previous + k + 1) % seats.length =
      if previous + k + 1 < seats.length then previous + k + 1
      else previous + k + 1 - seats.length := by
    split_ifs
    · exact Nat.mod_eq_of_lt (by omega)
    · rw [Nat.mod_eq_sub_mod (by omega), Nat.mod_eq_of_lt (by omega)]
  rw [hnext]
  constructor
  · intro hup
    have hle := hstep (j - previous - 1) (by
      rw [show previous + (j - previous - 1) + 1 = j by omega, Nat.mod_eq_of_lt hj])
    split_ifs <;> omega
  · intro hdown
    have hle := hstep (seats.length - previous - 1 + j) (by
      rw [show previous + (seats.length - previous - 1 + j) + 1 = j + seats.length by omega,
        Nat.add_mod_right, Nat.mod_eq_of_lt hj])
    split_ifs <;> omega

/-- Whether `i` comes before `j` in the ranking by `money`, where the lower number wins a tie. -/
def Outranks (money : Nat → Int64) (i j : Nat) : Prop :=
  money j < money i ∨ money i = money j ∧ i < j

namespace Outranks

variable {money : Nat → Int64}

theorem trans {i j k : Nat} (h : Outranks money i j) (h' : Outranks money j k) :
    Outranks money i k := by
  rcases h with h | ⟨he, hl⟩ <;> rcases h' with h' | ⟨he', hl'⟩
  · exact .inl (Int64.lt_trans h' h)
  · exact .inl (he' ▸ h)
  · exact .inl (he ▸ h')
  · exact .inr ⟨he.trans he', Nat.lt_trans hl hl'⟩

theorem asymm {i j : Nat} (h : Outranks money i j) : ¬ Outranks money j i := by
  rintro (h' | ⟨he', hl'⟩)
  · rcases h with h | ⟨he, -⟩
    · exact Int64.lt_asymm h h'
    · exact Int64.lt_irrefl (he ▸ h')
  · rcases h with h | ⟨-, hl⟩
    · exact Int64.lt_irrefl (he' ▸ h)
    · omega

theorem total {i j : Nat} (h : i ≠ j) : Outranks money i j ∨ Outranks money j i := by
  rcases Int64.lt_or_le (money i) (money j) with hm | hm
  · exact .inr (.inl hm)
  rcases Int64.lt_or_eq_of_le hm with hm | hm
  · exact .inl (.inl hm)
  · rcases Nat.lt_or_gt_of_ne h with hl | hl
    · exact .inl (.inr ⟨hm.symm, hl⟩)
    · exact .inr (.inr ⟨hm, hl⟩)

end Outranks

/-- Of the first `n` seats, `b` leads the ranking by `money`. -/
def Leads (money : Nat → Int64) (n b : Nat) : Prop :=
  b < n ∧ ∀ i < n, i ≠ b → Outranks money b i

theorem Leads.succ {money : Nat → Int64} {n b : Nat} (h : Leads money n b) :
    Leads money (n + 1) (if money b < money n then n else b) := by
  obtain ⟨hb, hi⟩ := h
  split_ifs with hm
  · refine ⟨by omega, fun i hn hne => ?_⟩
    rcases Decidable.em (i = b) with rfl | hib
    · exact .inl hm
    · exact Outranks.trans (.inl hm) (hi i (by omega) hib)
  · refine ⟨by omega, fun i hn hne => ?_⟩
    rcases Nat.lt_succ_iff_lt_or_eq.mp hn with hn | rfl
    · exact hi i hn hne
    · rcases Outranks.total hne with ho | ho
      · rcases ho with ho | ⟨-, hl⟩
        · exact absurd ho hm
        · omega
      · exact ho

/-- The scan keeps a leader of the seats that it has seen. -/
theorem leads_richestFrom {money : Nat → Int64} (rest : List Seat) (i b : Nat)
    (hm : ∀ k s, rest[k]? = some s → s.money = money (i + k)) (hb : Leads money i b) :
    Leads money (i + rest.length) (richestFrom b (money b) i rest) := by
  induction rest generalizing i b with
  | nil => exact hb
  | cons s rest ih =>
    have hs : s.money = money i := hm 0 s rfl
    have htail (k : Nat) (t : Seat) (h : rest[k]? = some t) : t.money = money (i + 1 + k) := by
      rw [Nat.add_assoc, Nat.add_comm 1 k]
      exact hm (k + 1) t h
    have hnext := hb.succ
    rw [List.length_cons, Nat.add_comm rest.length, ← Nat.add_assoc]
    simp only [richestFrom, hs]
    split_ifs at hnext ⊢
    · exact ih (i + 1) i htail hnext
    · exact ih (i + 1) b htail hnext

theorem leads_richest {money : Nat → Int64} {seats : List Seat} (h : seats ≠ [])
    (hm : ∀ k s, seats[k]? = some s → s.money = money k) :
    Leads money seats.length (richest seats) := by
  cases seats with
  | nil => exact absurd rfl h
  | cons s rest =>
    have hs : s.money = money 0 := hm 0 s rfl
    have hone : Leads money 1 0 := ⟨by omega, fun i hi hne => by omega⟩
    have htail (k : Nat) (t : Seat) (h : rest[k]? = some t) : t.money = money (1 + k) := by
      rw [Nat.add_comm]
      exact hm (k + 1) t h
    rw [richest, hs, List.length_cons, Nat.add_comm]
    exact leads_richestFrom rest 1 0 htail hone

end Rota
