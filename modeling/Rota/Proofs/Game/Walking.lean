import Rota.Proofs.Game.Dice

namespace Rota.Dice

/-- A draw has taken one or two of the words. -/
structure Source.Drawn (s s' : Source) : Prop where
  words : s'.words = s.words
  used : s'.used = s.used + 1 ∨ s'.used = s.used + 2

theorem Source.drawn_below (s : Source) (size range : Nat) : s.Drawn (s.below size range).2 := by
  unfold Source.below
  dsimp only
  by_cases hrest : size - range < (s.scaled size range).2.1
  · rw [if_pos hrest]
    exact ⟨rfl, .inr rfl⟩
  · rw [if_neg hrest]
    exact ⟨rfl, .inl rfl⟩

/-- The words that are left once the die has been rolled. -/
def Source.cast (s : Source) : Source := (s.below UInt32.size faces).2

/-- The words that are left once the rent has been drawn too. -/
def Source.charged (s : Source) : Source := (s.cast.below UInt64.size (highestRent + 1)).2

/-- Where a roll from a place on the board leads. -/
def Source.landing (s : Source) (position : Nat) : Nat := (position + s.face) % boardSize

/-- What a roll from a place on the board is worth. -/
def Source.gain (s : Source) (position : Nat) : Int :=
  if boardSize ≤ position + s.face then bonus else -s.rent

/-- The words that a roll from a place on the board leaves. -/
def Source.spent (s : Source) (position : Nat) : Source :=
  if boardSize ≤ position + s.face then s.cast else s.charged

/-- The amount is one that money can be. -/
def IsMoney (amount : Int) : Prop :=
  Int64.minValue.toInt ≤ amount ∧ amount ≤ Int64.maxValue.toInt

instance (amount : Int) : Decidable (IsMoney amount) := inferInstanceAs (Decidable (_ ∧ _))

theorem isMoney_toInt (m : Int64) : IsMoney m.toInt := ⟨m.minValue_le_toInt, m.toInt_le⟩

theorem money?_eq (amount : Int) :
    money? amount = if IsMoney amount then some (.ofInt amount) else none :=
  rfl

theorem IsMoney.toInt_ofInt {amount : Int} (h : IsMoney amount) :
    (Int64.ofInt amount).toInt = amount :=
  toInt_of_money? (if_pos h)

/-- What a player is left with after so many rolls, if no amount were too much. -/
def balance (s : Source) (position : Nat) (money : Int) : Nat → Int
  | 0 => money
  | count + 1 => balance (s.spent position) (s.landing position) (money + s.gain position) count

/-- A roll as the rules of the board have it: who comes round is paid, who does not pays a rent. -/
structure Legal (s : Source) (p : Purse) (r : Roll) : Prop where
  face_pos : 1 ≤ r.face
  face_le : r.face ≤ 6
  position : r.purse.position.toNat = (p.position.toNat + r.face) % 20
  paid : 20 ≤ p.position.toNat + r.face →
    r.purse.money.toInt = p.money.toInt + 200 ∧ s.Drawn r.source
  charged : p.position.toNat + r.face < 20 →
    ∃ rent : Nat, rent ≤ 150 ∧ r.purse.money.toInt = p.money.toInt - rent ∧
      ∃ between, s.Drawn between ∧ between.Drawn r.source

theorem Legal.onBoard {s : Source} {p : Purse} {r : Roll} (h : Legal s p r) :
    r.purse.position.toNat < boardSize := by
  rw [h.position]
  exact Nat.mod_lt _ (by decide)

/-- Rolls that follow each other: each is legal from where the one before has led. -/
inductive Walk : Source → Purse → List Roll → Prop
  | done (s : Source) (p : Purse) : Walk s p []
  | step {s : Source} {p : Purse} {r : Roll} {rs : List Roll} :
    Legal s p r → Walk r.source r.purse rs → Walk s p (r :: rs)

/-- The roll that the words make. -/
def Source.made (s : Source) (p : Purse) : Roll where
  face := s.face
  purse :=
    { money := .ofInt (p.money.toInt + s.gain p.position.toNat)
      position := .ofNat (s.landing p.position.toNat) }
  source := s.spent p.position.toNat

theorem Source.toNat_landing (s : Source) (position : Nat) :
    (UInt32.ofNat (s.landing position)).toNat = s.landing position := by
  have hlt : s.landing position < boardSize := Nat.mod_lt _ (by decide)
  exact UInt32.toNat_ofNat_of_lt' (Nat.lt_trans hlt (by decide))

section roll

variable (s : Source) {p : Purse} (hp : p.position.toNat < boardSize)
include hp

/-- Whether a player comes round shows in the place reached, as no face is a whole round. -/
theorem landing_lt_iff :
    UInt32.ofNat (s.landing p.position.toNat) < p.position ↔
      boardSize ≤ p.position.toNat + s.face := by
  have hface := s.face_le
  have hboard : boardSize = 20 := rfl
  have hfaces : faces = 6 := rfl
  rw [UInt32.lt_iff_toNat_lt, Source.landing, toNat_moved hp hface]
  split_ifs <;> omega

/-- A roll is made if and only if what the player is left with is money. -/
theorem roll_eq :
    roll s p =
      if IsMoney (p.money.toInt + s.gain p.position.toNat) then .ok (s.made p)
      else .error (if boardSize ≤ p.position.toNat + s.face then .add else .subtract) := by
  have hlands := landing_lt_iff s hp
  have hroom : ¬UInt32.size ≤ p.position.toNat + s.face := by
    have hface := s.face_le
    have hsize : UInt32.size = 4294967296 := rfl
    have hboard : boardSize = 20 := rfl
    have hfaces : faces = 6 := rfl
    omega
  unfold Source.made Source.gain Source.spent
  by_cases hround : boardSize ≤ p.position.toNat + s.face
  · have hlt := hlands.mpr hround
    simp only [if_pos hround]
    unfold Source.landing Source.face at *
    unfold roll
    dsimp only
    rw [if_neg hroom, if_pos hlt, money?_eq]
    split_ifs <;> rfl
  · have hge := mt hlands.mp hround
    simp only [if_neg hround]
    unfold Source.landing Source.face at *
    unfold roll
    dsimp only
    rw [if_neg hroom, if_neg hge, money?_eq, Int.sub_eq_add_neg]
    unfold Source.rent
    split_ifs <;> rfl

omit hp in
theorem legal_made (hmoney : IsMoney (p.money.toInt + s.gain p.position.toNat)) :
    Legal s p (s.made p) where
  face_pos := Nat.le_add_left 1 _
  face_le := s.face_le
  position := s.toNat_landing _
  paid hround := by
    have hvalue := hmoney.toInt_ofInt
    have hgain : s.gain p.position.toNat = bonus := if_pos hround
    have hspent : s.spent p.position.toNat = s.cast := if_pos hround
    refine ⟨?_, ?_⟩
    · rw [hgain] at hvalue
      rw [Source.made, hgain]
      exact hvalue
    · rw [Source.made, hspent]
      exact s.drawn_below _ _
  charged hstay := by
    have hvalue := hmoney.toInt_ofInt
    have hgain : s.gain p.position.toNat = -s.rent := if_neg (Nat.not_le.mpr hstay)
    have hspent : s.spent p.position.toNat = s.charged := if_neg (Nat.not_le.mpr hstay)
    refine ⟨s.rent, s.rent_le, ?_, s.cast, s.drawn_below _ _, ?_⟩
    · rw [hgain] at hvalue
      rw [Source.made, hgain]
      exact hvalue
    · rw [Source.made, hspent]
      exact s.cast.drawn_below _ _

omit hp in
/-- A roll leads where the balance goes on from. -/
theorem balance_made (hmoney : IsMoney (p.money.toInt + s.gain p.position.toNat)) (k : Nat) :
    balance (s.made p).source (s.made p).purse.position.toNat (s.made p).purse.money.toInt k =
      balance s p.position.toNat p.money.toInt (k + 1) := by
  have hposition : (s.made p).purse.position.toNat = s.landing p.position.toNat :=
    s.toNat_landing _
  have hamount : (s.made p).purse.money.toInt = p.money.toInt + s.gain p.position.toNat :=
    hmoney.toInt_ofInt
  rw [hposition, hamount]
  rfl

omit hp in
theorem isMoney_balance_zero (p : Purse) :
    ∀ k ≤ 0, IsMoney (balance s p.position.toNat p.money.toInt k) := by
  intro k hk
  rw [Nat.le_zero.mp hk]
  exact isMoney_toInt p.money

/-- The rolls up to the first that cannot be made; the balance tells which one that is. -/
theorem rolls_cases (count : Nat) :
    ∃ rs, Walk s p rs ∧
      (∀ k ≤ rs.length, IsMoney (balance s p.position.toNat p.money.toInt k)) ∧
      (rolls s p count = rs.map .ok ∧ rs.length = count ∨
        ∃ o, rolls s p count = rs.map .ok ++ [.error o] ∧ rs.length < count ∧
          ¬IsMoney (balance s p.position.toNat p.money.toInt (rs.length + 1))) := by
  induction count generalizing s p with
  | zero => exact ⟨[], .done s p, isMoney_balance_zero s p, .inl ⟨rfl, rfl⟩⟩
  | succ count ih =>
    have hroll := roll_eq s hp
    by_cases hmoney : IsMoney (p.money.toInt + s.gain p.position.toNat)
    · rw [if_pos hmoney] at hroll
      have hlegal := legal_made s hmoney
      have hbalance := balance_made s hmoney
      have hrolls : rolls s p (count + 1) =
          .ok (s.made p) :: rolls (s.made p).source (s.made p).purse count := by
        rw [rolls, hroll]
      obtain ⟨rs, hwalk, hfits, hends⟩ := ih (s.made p).source hlegal.onBoard
      refine ⟨s.made p :: rs, .step hlegal hwalk, ?_, ?_⟩
      · intro k hk
        cases k with
        | zero => exact isMoney_toInt p.money
        | succ k =>
          rw [← hbalance]
          exact hfits k (Nat.le_of_succ_le_succ hk)
      · rcases hends with ⟨hall, hlen⟩ | ⟨o, hstop, hlt, hover⟩
        · refine .inl ⟨?_, congrArg (· + 1) hlen⟩
          rw [hrolls, hall, List.map_cons]
        · refine .inr ⟨o, ?_, Nat.succ_lt_succ hlt, ?_⟩
          · rw [hrolls, hstop, List.map_cons, List.cons_append]
          · rw [List.length_cons, ← hbalance]
            exact hover
    · obtain ⟨o, hroll⟩ : ∃ o, roll s p = .error o := ⟨_, hroll.trans (if_neg hmoney)⟩
      refine ⟨[], .done s p, isMoney_balance_zero s p, .inr ⟨o, ?_, Nat.succ_pos count, hmoney⟩⟩
      rw [rolls, hroll]
      rfl

end roll

/-- However many rolls follow each other from a place on the board, each of them is legal; all are
made if and only if the player would never be left with more or less than money can be, and the
first that is not made ends them. -/
theorem rolls_laws (s : Source) {p : Purse} (hp : p.position.toNat < 20) (count : Nat) :
    ∃ rs, Walk s p rs ∧
      ((∀ k ≤ count, IsMoney (balance s p.position.toNat p.money.toInt k)) →
        rolls s p count = rs.map .ok ∧ rs.length = count) ∧
      ((∃ k ≤ count, ¬IsMoney (balance s p.position.toNat p.money.toInt k)) →
        ∃ o, rolls s p count = rs.map .ok ++ [.error o] ∧ rs.length < count ∧
          ¬IsMoney (balance s p.position.toNat p.money.toInt (rs.length + 1))) := by
  obtain ⟨rs, hwalk, hfits, hends⟩ := rolls_cases s hp count
  refine ⟨rs, hwalk, ?_, ?_⟩
  · intro hall
    rcases hends with hmade | ⟨o, -, hlt, hover⟩
    · exact hmade
    · exact absurd (hall _ hlt) hover
  · rintro ⟨k, hk, hover⟩
    rcases hends with ⟨-, hlen⟩ | hstop
    · exact absurd (hfits k (hlen ▸ hk)) hover
    · exact hstop

theorem rolls_laws_of_carry :
    ∃ (s : Source) (p : Purse), s = { words := [0x55555555, 0xFFFFFFFF, 0xFFFFFFFFFFFFFFFF] } ∧
      p = ⟨9223372036854775607, 18⟩ ∧ p.position.toNat < 20 ∧
      (∀ k ≤ 4, IsMoney (balance s p.position.toNat p.money.toInt k)) ∧
      ∃ rs, Walk s p rs ∧ rolls s p 4 = rs.map .ok ∧ rs.length = 4 := by
  refine ⟨_, _, rfl, rfl, by decide, by decide, ?_⟩
  obtain ⟨rs, hwalk, hmade, -⟩ := rolls_laws
    { words := [0x55555555, 0xFFFFFFFF, 0xFFFFFFFFFFFFFFFF] }
    (p := ⟨9223372036854775607, 18⟩) (by decide) 4
  exact ⟨rs, hwalk, hmade (by decide)⟩

end Rota.Dice
