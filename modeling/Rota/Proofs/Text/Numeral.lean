import Mathlib.Tactic.Common
import Rota.Text.Numeral

namespace Rota.Text

theorem digitOf_of_isDigit {c : Char} (h : c.isDigit) :
    digitOf 10 c = some (c.toNat - '0'.toNat) := by
  have hrange : '0' ≤ c ∧ c ≤ '9' := by
    simpa [Char.isDigit, Char.le_def] using h
  have hle : c.toNat ≤ '9'.toNat := hrange.2
  have hlt : c.toNat - '0'.toNat < 10 := by
    have hnine : '9'.toNat = 57 := rfl
    have hzero : '0'.toNat = 48 := rfl
    omega
  unfold digitOf
  rw [if_pos hrange]
  exact if_pos hlt

theorem le_ofDigitChars (cs : List Char) (acc : Nat) : acc ≤ Nat.ofDigitChars 10 cs acc := by
  induction cs generalizing acc with
  | nil => exact Nat.le_refl acc
  | cons c cs ih =>
    rw [Nat.ofDigitChars_cons]
    have hrest := ih (10 * acc + (c.toNat - '0'.toNat))
    omega

/-- The digits in front outweigh all that follow. -/
theorem ofDigitChars_lt {cs ds : List Char} (hlen : cs.length = ds.length)
    (hcs : ∀ c ∈ cs, c.isDigit) {acc acc' : Nat} (h : acc < acc') :
    Nat.ofDigitChars 10 cs acc < Nat.ofDigitChars 10 ds acc' := by
  induction cs generalizing ds acc acc' with
  | nil =>
    rw [List.eq_nil_of_length_eq_zero hlen.symm]
    exact h
  | cons c cs ih =>
    obtain ⟨d, ds, rfl⟩ := List.exists_cons_of_length_eq_add_one hlen.symm
    have hc := Char.isDigit_iff_toNat.mp (hcs c List.mem_cons_self)
    rw [Nat.ofDigitChars_cons, Nat.ofDigitChars_cons]
    apply ih (Nat.succ.inj hlen) fun c' hc' => hcs c' (List.mem_cons_of_mem c hc')
    have hzero : '0'.toNat = 48 := rfl
    have hnine : '9'.toNat = 57 := rfl
    omega

/-- Numbers of one width are in the order of their digits. -/
theorem lt_of_ofDigitChars_lt {cs ds : List Char} (hlen : cs.length = ds.length)
    (hcs : ∀ c ∈ cs, c.isDigit) (hds : ∀ d ∈ ds, d.isDigit) {acc : Nat}
    (h : Nat.ofDigitChars 10 cs acc < Nat.ofDigitChars 10 ds acc) : cs < ds := by
  induction cs generalizing ds acc with
  | nil =>
    rw [List.eq_nil_of_length_eq_zero hlen.symm] at h
    exact absurd h (Nat.lt_irrefl acc)
  | cons c cs ih =>
    obtain ⟨d, ds, rfl⟩ := List.exists_cons_of_length_eq_add_one hlen.symm
    have hcs' : ∀ c' ∈ cs, c'.isDigit := fun c' hc' => hcs c' (List.mem_cons_of_mem c hc')
    have hds' : ∀ d' ∈ ds, d'.isDigit := fun d' hd' => hds d' (List.mem_cons_of_mem d hd')
    have hlen' : cs.length = ds.length := Nat.succ.inj hlen
    rw [Nat.ofDigitChars_cons, Nat.ofDigitChars_cons] at h
    rw [List.cons_lt_cons_iff]
    rcases Nat.lt_trichotomy c.toNat d.toNat with hlt | heq | hgt
    · exact .inl hlt
    · obtain rfl := Char.toNat_inj.mp heq
      exact .inr ⟨rfl, ih hlen' hcs' hds' h⟩
    · have hd := Char.isDigit_iff_toNat.mp (hds d List.mem_cons_self)
      have hless : 10 * acc + (d.toNat - '0'.toNat) < 10 * acc + (c.toNat - '0'.toNat) := by omega
      exact absurd h (Nat.lt_asymm (ofDigitChars_lt hlen'.symm hds' hless))

/-- Digits are read if their value is within the range; what comes on the way is smaller. -/
theorem readDigits_of_isDigit {max : Nat} (overflow : NumeralFault) {cs : List Char}
    (hd : ∀ c ∈ cs, c.isDigit) {acc : Nat} (h : Nat.ofDigitChars 10 cs acc ≤ max) :
    readDigits 10 max overflow acc cs = .ok (Nat.ofDigitChars 10 cs acc) := by
  induction cs generalizing acc with
  | nil => rfl
  | cons c cs ih =>
    rw [Nat.ofDigitChars_cons] at h ⊢
    have hacc : 10 * acc + (c.toNat - '0'.toNat) ≤ max := Nat.le_trans (le_ofDigitChars cs _) h
    rw [readDigits, digitOf_of_isDigit (hd c List.mem_cons_self)]
    dsimp only
    rw [if_pos hacc]
    exact ih (fun d hd' => hd d (List.mem_cons_of_mem c hd')) h

section shown

variable {n max : Nat}

theorem isDigit_of_mem_toDigits {c : Char} (hc : c ∈ Nat.toDigits 10 n) : c.isDigit :=
  Nat.isDigit_of_mem_toDigits (by decide) (by decide) hc

theorem readDigits_toDigits (h : n ≤ max) (overflow : NumeralFault) :
    readDigits 10 max overflow 0 (Nat.toDigits 10 n) = .ok n := by
  have hvalue : Nat.ofDigitChars 10 (Nat.toDigits 10 n) 0 = n :=
    Nat.ofDigitChars_toDigits (by decide) (by decide)
  have hle : Nat.ofDigitChars 10 (Nat.toDigits 10 n) 0 ≤ max := by rw [hvalue]; exact h
  rw [readDigits_of_isDigit overflow (fun _ => isDigit_of_mem_toDigits) hle, hvalue]

/-- A number is shown with a digit in front. -/
theorem exists_toDigits_eq_cons (n : Nat) :
    ∃ c cs, Nat.toDigits 10 n = c :: cs ∧ c ≠ '+' ∧ c ≠ '-' := by
  obtain ⟨c, cs, hcs⟩ := List.exists_cons_of_ne_nil (Nat.toDigits_ne_nil (n := n) (b := 10))
  have hdigit : c.isDigit := by
    apply isDigit_of_mem_toDigits (n := n)
    rw [hcs]
    exact List.mem_cons_self
  refine ⟨c, cs, hcs, ?_, ?_⟩ <;> rintro rfl <;> exact absurd hdigit (by decide)

theorem readNat_repr (h : n ≤ max) : readNat 10 max n.repr = .ok n := by
  obtain ⟨c, cs, hcs, hplus, -⟩ := exists_toDigits_eq_cons n
  have hread := readDigits_toDigits h .tooLarge
  rw [readNat, Nat.toList_repr]
  rw [hcs] at hread ⊢
  split
  · contradiction
  · simp_all
  · exact hread

theorem readInt_repr (h : n ≤ max) : readInt 10 max n.repr = .ok n := by
  obtain ⟨c, cs, hcs, hplus, hminus⟩ := exists_toDigits_eq_cons n
  have hread := readDigits_toDigits h .tooLarge
  rw [readInt, Nat.toList_repr]
  rw [hcs] at hread ⊢
  split
  · contradiction
  · simp_all
  · simp_all
  · rw [hread]
    rfl

theorem readInt_neg_repr (h : n ≤ max + 1) : readInt 10 max ("-" ++ n.repr) = .ok (-n) := by
  obtain ⟨c, cs, hcs, -, -⟩ := exists_toDigits_eq_cons n
  have hread := readDigits_toDigits h .tooSmall
  have hlist : ("-" ++ n.repr).toList = '-' :: c :: cs := by
    rw [String.toList_append, Nat.toList_repr, hcs]
    rfl
  rw [hcs] at hread
  have hrun : readInt 10 max ("-" ++ n.repr) =
      (fun k => -Int.ofNat k) <$> readDigits 10 (max + 1) .tooSmall 0 (c :: cs) := by
    rw [readInt, hlist]
    rfl
  rw [hrun, hread]
  rfl

end shown

theorem readUInt64_toString (n : UInt64) : readUInt64 (toString n) = .ok n := by
  have hle : n.toNat ≤ UInt64.size - 1 := Nat.le_pred_of_lt n.toNat_lt_size
  have hread : readNat 10 (UInt64.size - 1) (toString n) = .ok n.toNat := readNat_repr hle
  rw [readUInt64, hread]
  exact congrArg Except.ok (UInt64.ofNat_toNat)

theorem readInt64_toString (n : Int64) : readInt64 (toString n) = .ok n := by
  have hread : readInt 10 (UInt64.size / 2 - 1) (toString n) = .ok n.toInt := by
    have hshown : toString n = Int.repr n.toInt := rfl
    have hlow : -9223372036854775808 ≤ n.toInt := n.le_toInt
    have hhigh : n.toInt < 9223372036854775808 := n.toInt_lt
    have hmax : UInt64.size / 2 - 1 = 9223372036854775807 := by decide
    rw [hshown, hmax]
    cases hn : n.toInt with
    | ofNat m =>
      have hm : n.toInt = (m : Int) := hn
      exact readInt_repr (by omega)
    | negSucc m =>
      have hm : n.toInt = -((m + 1 : Nat) : Int) := hn
      exact readInt_neg_repr (by omega)
  rw [readInt64, hread]
  exact congrArg Except.ok (Int64.ofInt_toInt n)

end Rota.Text
