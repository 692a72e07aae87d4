import Rota.Dice
import Mathlib.Tactic.Common

namespace Rota.Dice

section below

variable (s : Source) {size range : Nat}

theorem Source.scaled_fst (size range : Nat) :
    (s.scaled size range).1 = s.next.1.toNat % size * range / size := rfl

theorem Source.scaled_snd (size range : Nat) :
    (s.scaled size range).2.1 = s.next.1.toNat % size * range % size := rfl

theorem Source.scaled_lt (hr : 0 < range) (hs : 0 < size) : (s.scaled size range).1 < range := by
  have hdigit : s.next.1.toNat % size < size := Nat.mod_lt _ hs
  rw [Source.scaled_fst, Nat.div_lt_iff_lt_mul hs, Nat.mul_comm range]
  exact Nat.mul_lt_mul_of_pos_right hdigit hr

/-- A remainder that calls for one more word leaves room for its carry. -/
theorem Source.scaled_add_one_lt (hr : 0 < range) (hle : range ≤ size)
    (hrest : size - range < (s.scaled size range).2.1) : (s.scaled size range).1 + 1 < range := by
  have hs : 0 < size := Nat.lt_of_lt_of_le hr hle
  have hlt := s.scaled_lt hr hs
  by_contra hno
  have hlast : (s.scaled size range).1 = range - 1 := by omega
  have hdigit : s.next.1.toNat % size < size := Nat.mod_lt _ hs
  have hdiv := Nat.div_add_mod (s.next.1.toNat % size * range) size
  rw [← Source.scaled_fst, ← Source.scaled_snd, hlast] at hdiv
  have hmost : s.next.1.toNat % size * range ≤ (size - 1) * range :=
    Nat.mul_le_mul_right range (by omega)
  rw [Nat.mul_sub_one] at hdiv
  rw [Nat.sub_one_mul] at hmost
  have hsquare : size ≤ size * range := Nat.le_mul_of_pos_right size hr
  omega

theorem Source.below_lt (hr : 0 < range) (hle : range ≤ size) : (s.below size range).1 < range := by
  have hlt := s.scaled_lt hr (Nat.lt_of_lt_of_le hr hle)
  unfold Source.below
  dsimp only
  split_ifs with hrest hcarry
  · exact s.scaled_add_one_lt hr hle hrest
  · exact hlt
  · exact hlt

end below

theorem toInt_of_money? {amount : Int} {m : Int64} (h : money? amount = some m) :
    m.toInt = amount := by
  unfold money? at h
  split_ifs at h with hfits
  rw [← Option.some.inj h]
  exact Int64.toInt_ofInt_of_le hfits.1 (Int.lt_add_one_of_le hfits.2)

theorem lt_or_lt_of_money? {amount : Int} (h : money? amount = none) :
    amount < Int64.minValue.toInt ∨ Int64.maxValue.toInt < amount := by
  unfold money? at h
  split_ifs at h with hfits
  omega

/-- What the die shows. -/
def Source.face (s : Source) : Nat := (s.below UInt32.size faces).1 + 1

/-- The rent that is drawn after the die has been rolled. -/
def Source.rent (s : Source) : Nat :=
  ((s.below UInt32.size faces).2.below UInt64.size (highestRent + 1)).1

theorem Source.face_le (s : Source) : s.face ≤ faces := s.below_lt (by decide) (by decide)

theorem Source.rent_le (s : Source) : s.rent ≤ highestRent :=
  Nat.le_of_lt_succ (Source.below_lt _ (by decide) (by decide))

/-- All that a roll can do to a purse on the board: a player who comes round is paid, another pays
the rent, unless the sum does not fit. -/
inductive Outcome (p : Purse) (face rent : Nat) : Except Overflow Roll → Prop
  | paid {r : Roll} (hround : p.position.toNat + face = r.purse.position.toNat + boardSize)
      (hmoney : r.purse.money.toInt = p.money.toInt + bonus) : Outcome p face rent (.ok r)
  | charged {r : Roll} (hmove : p.position.toNat + face = r.purse.position.toNat)
      (hboard : r.purse.position.toNat < boardSize)
      (hmoney : r.purse.money.toInt = p.money.toInt - rent) : Outcome p face rent (.ok r)
  | overpaid (hround : boardSize ≤ p.position.toNat + face)
      (hmoney : Int64.maxValue.toInt < p.money.toInt + bonus) : Outcome p face rent (.error .add)
  | overdrawn (hmoney : p.money.toInt - rent < Int64.minValue.toInt) :
      Outcome p face rent (.error .subtract)

theorem toNat_moved {position face : Nat} (hp : position < boardSize) (hf : face ≤ faces) :
    (UInt32.ofNat ((position + face) % boardSize)).toNat =
      if position + face < boardSize then position + face else position + face - boardSize := by
  have hb : boardSize = 20 := rfl
  have hsix : faces = 6 := rfl
  have hmod : (position + face) % boardSize =
      if position + face < boardSize then position + face else position + face - boardSize := by
    split_ifs
    · exact Nat.mod_eq_of_lt (by omega)
    · rw [Nat.mod_eq_sub_mod (by omega), Nat.mod_eq_of_lt (by omega)]
  rw [hmod, UInt32.toNat_ofNat_of_lt']
  have hsize : UInt32.size = 4294967296 := rfl
  split_ifs <;> omega

theorem roll_outcome (s : Source) {p : Purse} (hp : p.position.toNat < boardSize) :
    Outcome p s.face s.rent (roll s p) := by
  have hb : boardSize = 20 := rfl
  have hf : faces = 6 := rfl
  have hsize : UInt32.size = 4294967296 := rfl
  have hmin := p.money.minValue_le_toInt
  have hmax := p.money.toInt_le
  have hface := s.face_le
  unfold roll Source.rent
  unfold Source.face at hface ⊢
  dsimp only
  generalize (s.below UInt32.size faces).1 + 1 = face at hface ⊢
  generalize (s.below UInt32.size faces).2.below UInt64.size (highestRent + 1) = charge
  have hmoved := toNat_moved hp hface
  rw [if_neg (by omega)]
  generalize UInt32.ofNat ((p.position.toNat + face) % boardSize) = position at hmoved ⊢
  by_cases hround : p.position.toNat + face < boardSize
  · rw [if_pos hround] at hmoved
    rw [if_neg (by rw [UInt32.lt_iff_toNat_lt]; omega)]
    cases hm : money? (p.money.toInt - charge.1) with
    | some m => exact .charged hmoved.symm (hmoved ▸ hround) (toInt_of_money? hm)
    | none =>
      have hout := lt_or_lt_of_money? hm
      exact .overdrawn (by omega)
  · rw [if_neg hround] at hmoved
    rw [if_pos (by rw [UInt32.lt_iff_toNat_lt]; omega)]
    cases hm : money? (p.money.toInt + bonus) with
    | some m => exact .paid (by dsimp only; omega) (toInt_of_money? hm)
    | none =>
      have hbonus : (0 : Int) ≤ bonus := by decide
      have hout := lt_or_lt_of_money? hm
      exact .overpaid (by omega) (by omega)

/-- The purse after a roll. One that does not fit leaves it as it is. -/
def rolled (s : Source) (p : Purse) : Purse :=
  match roll s p with
  | .ok r => r.purse
  | .error _ => p

/-- What `count` rolls may have made of a purse that held `start` at the start of the board. -/
structure Within (start : Int) (count : Nat) (p : Purse) : Prop where
  position : p.position.toNat < boardSize
  low : start ≤ p.money.toInt + highestRent * count
  /-- Each bonus is for a round of the board, which takes so many rolls at least. -/
  high : ∃ rounds : Nat, boardSize * rounds + p.position.toNat ≤ faces * count ∧
    p.money.toInt ≤ start + bonus * rounds

theorem within_start (money : Int64) : Within money.toInt 0 ⟨money, 0⟩ where
  position := show 0 < boardSize by decide
  low := Int.le_of_eq (Int.add_zero _).symm
  high := ⟨0, Nat.le_refl 0, Int.le_of_eq (Int.add_zero _).symm⟩

/-- The most that `count` rolls can make of `start`. -/
def fortune (start : Int) (count : Nat) : Int :=
  start + bonus * (faces * count / boardSize : Nat)

theorem fortune_zero (start : Int) : fortune start 0 = start := Int.add_zero start

theorem fortune_mono (start : Int) {m n : Nat} (h : m ≤ n) : fortune start m ≤ fortune start n := by
  have hrounds : faces * m / boardSize ≤ faces * n / boardSize :=
    Nat.div_le_div_right (Nat.mul_le_mul_left faces h)
  unfold fortune bonus
  omega

/-- No roll of `count` rolls can fail that start from `start`. -/
def Fits (start : Int) (count : Nat) : Prop :=
  Int64.minValue.toInt ≤ start - highestRent * count ∧ fortune start count ≤ Int64.maxValue.toInt

theorem Fits.mono {start : Int} {m n : Nat} (h : Fits start n) (hle : m ≤ n) : Fits start m := by
  refine ⟨?_, Int.le_trans (fortune_mono start hle) h.2⟩
  have hlow := h.1
  unfold highestRent at *
  omega

namespace Within

variable {start : Int} {count : Nat} {p : Purse} (h : Within start count p) (s : Source)
include h

theorem succ : Within start (count + 1) p := by
  obtain ⟨hposition, hlow, rounds, hrounds, hhigh⟩ := h
  refine ⟨hposition, ?_, rounds, ?_, hhigh⟩
  · unfold highestRent at *
    omega
  · unfold faces at *
    omega

theorem rolled : Within start (count + 1) (rolled s p) := by
  have hsucc := h.succ
  obtain ⟨hposition, hlow, rounds, hrounds, hhigh⟩ := h
  have hout := roll_outcome s hposition
  have hface := s.face_le
  have hrent := s.rent_le
  unfold Dice.rolled
  generalize roll s p = outcome at hout ⊢
  cases hout with
  | @paid r hround hmoney =>
    change Within start (count + 1) r.purse
    refine ⟨?_, ?_, rounds + 1, ?_, ?_⟩
    all_goals simp only [boardSize, faces, bonus, highestRent] at *; omega
  | @charged r hmove hboard hmoney =>
    change Within start (count + 1) r.purse
    refine ⟨hboard, ?_, rounds, ?_, ?_⟩
    all_goals simp only [faces, highestRent] at *; omega
  | overpaid => exact hsucc
  | overdrawn => exact hsucc

theorem roll_ok (hfits : Fits start (count + 1)) : ∃ r, roll s p = .ok r := by
  obtain ⟨hposition, hlow, rounds, hrounds, hhigh⟩ := h
  obtain ⟨hmin, hmax⟩ := hfits
  have hout := roll_outcome s hposition
  have hface := s.face_le
  have hrent := s.rent_le
  generalize roll s p = outcome at hout ⊢
  cases hout with
  | paid => exact ⟨_, rfl⟩
  | charged => exact ⟨_, rfl⟩
  | overpaid hround hmoney =>
    have hnext : rounds + 1 ≤ faces * (count + 1) / boardSize := by
      rw [Nat.le_div_iff_mul_le (by decide)]
      unfold faces boardSize at *
      omega
    unfold fortune bonus at *
    omega
  | overdrawn hmoney =>
    unfold highestRent at *
    omega

end Within

/-- Words that always roll the highest face and draw no rent. -/
def lucky : Source := { words := [0xFFFFFFFF, 0] }

/-- What `count` lucky rolls make of a purse that held `start` at the start of the board. -/
structure Lucky (start : Int) (count : Nat) (p : Purse) : Prop where
  position : p.position.toNat = faces * count % boardSize
  money : p.money.toInt = fortune start count

theorem lucky_start (money : Int64) : Lucky money.toInt 0 ⟨money, 0⟩ :=
  ⟨rfl, (fortune_zero _).symm⟩

namespace Lucky

variable {start : Int} {count : Nat} {p : Purse} (h : Lucky start count p)
include h

theorem nonneg (hstart : 0 ≤ start) : 0 ≤ p.money := by
  rw [Int64.le_iff_toInt_le, h.money]
  have hle := fortune_mono start (Nat.zero_le count)
  rw [fortune_zero] at hle
  exact Int.le_trans hstart hle

/-- A lucky roll is paid once a round of the board is done, or fails for want of room. -/
theorem outcome : (∃ r, roll lucky p = .ok r ∧ Lucky start (count + 1) r.purse) ∨
    roll lucky p = .error .add ∧ Int64.maxValue.toInt < fortune start (count + 1) := by
  obtain ⟨hposition, hmoney⟩ := h
  have hface : lucky.face = 6 := by decide
  have hrent : lucky.rent = 0 := by decide
  have hmin := p.money.minValue_le_toInt
  have hout := roll_outcome lucky (p := p) (hposition ▸ Nat.mod_lt _ (by decide))
  rw [hface, hrent] at hout
  generalize roll lucky p = outcome at hout ⊢
  cases hout with
  | @paid r hround hpaid =>
    refine .inl ⟨r, rfl, ?_, ?_⟩
    all_goals simp only [fortune, boardSize, faces, bonus] at *; omega
  | @charged r hmove hboard hpaid =>
    refine .inl ⟨r, rfl, ?_, ?_⟩
    all_goals simp only [fortune, boardSize, faces, bonus] at *; omega
  | overpaid hround hover =>
    refine .inr ⟨rfl, ?_⟩
    simp only [fortune, boardSize, faces, bonus] at *
    omega
  | overdrawn hover => omega

theorem rolled (hfits : fortune start (count + 1) ≤ Int64.maxValue.toInt) :
    Lucky start (count + 1) (rolled lucky p) := by
  rcases h.outcome with ⟨r, hr, hnext⟩ | ⟨-, hover⟩
  · rw [Dice.rolled, hr]
    exact hnext
  · omega

theorem roll_error (hover : Int64.maxValue.toInt < fortune start (count + 1)) :
    roll lucky p = .error .add := by
  rcases h.outcome with ⟨r, -, hnext⟩ | ⟨herror, -⟩
  · have hle := r.purse.money.toInt_le
    rw [hnext.money] at hle
    omega
  · exact herror

end Lucky
end Rota.Dice
