import Rota.Proofs.Game.Giving
import Rota.Proofs.Game.History

namespace Rota.Game

theorem turns_signalOnly (g : Game) (i j : Nat) :
    ((g.signalOnly i).seat j).turns = (g.seat j).turns := by
  refine seat_mapPlaces_congr Seat.turns g fun s => ?_
  split_ifs <;> rfl

theorem turns_signalAll (g : Game) (j : Nat) : (g.signalAll.seat j).turns = (g.seat j).turns := by
  refine seat_mapPlaces_congr Seat.turns g fun s => ?_
  split_ifs <;> rfl

theorem turns_countTurn (g : Game) {i : Nat} (h : i < mostSeats) (j : Nat) :
    ((g.modifySeat i Seat.countTurn).seat j).turns =
      (g.seat j).turns + if j = i then 1 else 0 := by
  by_cases hj : j = i
  · rw [hj, seat_modifySeat_self g _ h, if_pos rfl]
    rfl
  · rw [seat_modifySeat_of_ne g _ hj, if_neg hj, UInt64.add_zero]

theorem turns_startWith (g : Game) {first : Nat} (h : first < mostSeats) (j : Nat) :
    ((g.startWith first).seat j).turns = (g.seat j).turns + if j = first then 1 else 0 :=
  (turns_signalOnly _ first j).trans (turns_countTurn g h j)

theorem turns_elected (g : Game) {next : Nat} (h : next < mostSeats) (j : Nat) :
    ((g.elected next).seat j).turns = (g.seat j).turns + if j = next then 1 else 0 := by
  rw [elected_eq]
  by_cases hd : (g.handTo next).decided
  · rw [if_pos hd]
    exact (turns_signalAll _ j).trans (turns_countTurn g h j)
  · rw [if_neg hd]
    exact (turns_signalOnly _ next j).trans (turns_countTurn g h j)

/-- The rounds that have reached seat `i`. -/
def pace (g : Game) (i : Nat) : Nat :=
  g.round.toNat + if g.phase ≠ .waiting ∧ i ≤ g.current then 1 else 0

/-- No seat has had more turns than rounds have reached it. -/
def Paced (g : Game) : Prop := ∀ i, (g.seat i).turns.toNat ≤ g.pace i

/-- The turn of a game that goes on is within the rounds. -/
def InRounds (g : Game) : Prop := g.phase = .playing → g.round < g.rules.lapCap

theorem Judged.inRounds {g : Game} (h : g.Judged) : g.InRounds := fun hp => (h.opened hp).round_lt

theorem pace_le (g : Game) (i : Nat) : g.pace i ≤ UInt32.size := by
  have hr := g.round.toNat_lt
  have hs : UInt32.size = 4294967296 := rfl
  unfold pace
  split_ifs <;> omega

/-- Counting a turn does not overflow. -/
theorem Paced.toNat_add {g : Game} (h : g.Paced) (i : Nat) {p : Prop} [Decidable p] :
    ((g.seat i).turns + if p then 1 else 0).toNat =
      (g.seat i).turns.toNat + if p then 1 else 0 := by
  have hle := Nat.le_trans (h i) (g.pace_le i)
  have hs : UInt32.size = 4294967296 := rfl
  split_ifs
  · rw [UInt64.toNat_add, UInt64.toNat_one]
    omega
  · rw [UInt64.add_zero, Nat.add_zero]

theorem SameTurn.paced {g h : Game} (hs : g.SameTurn h) (hp : g.Paced) : h.Paced := by
  intro i
  rw [hs.turns, pace, hs.round, hs.phase, hs.current]
  exact hp i

theorem paced_startWith {g : Game} (h : g.Coherent) (hp : g.Paced) (hw : g.phase = .waiting)
    {first : Nat} (hi : first < mostSeats) : (g.startWith first).Paced := by
  intro j
  have hround : g.round = 0 := (h.waiting hw).1
  have hj : (g.seat j).turns.toNat ≤ 0 := by
    have hle := hp j
    rwa [pace, hround, if_neg fun hn => hn.1 hw] at hle
  have hpace : (g.startWith first).pace j = if j ≤ first then 1 else 0 := by
    simp [pace, startWith, signalOnly, mapPlaces]
  rw [turns_startWith g hi, hp.toNat_add, hpace]
  split_ifs <;> omega

theorem round_elected {g : Game} (hr : g.round < g.rules.lapCap) (next : Nat) :
    (g.elected next).round.toNat = g.round.toNat + if next ≤ g.current then 1 else 0 := by
  have hlt := UInt32.lt_iff_toNat_lt.mp hr
  have hcap := g.rules.lapCap.toNat_lt
  -- seat 0 begins a round also when the turn comes from a later seat, so the second case adds nothing
  have hzero : (next ≤ g.current ∨ next = 0) ↔ next ≤ g.current := by omega
  rw [elected_round]
  change (if next ≤ g.current ∨ next = 0 then g.round + 1 else g.round).toNat = _
  simp only [hzero]
  split_ifs
  · rw [UInt32.toNat_add, UInt32.toNat_one]
    omega
  · rfl

theorem paced_elected {g : Game} (hp : g.Paced) (hph : g.phase = .playing)
    (hr : g.round < g.rules.lapCap) {next : Nat} (hi : next < mostSeats) :
    (g.elected next).Paced := by
  intro j
  have hphase : (g.elected next).phase ≠ .waiting := by
    rw [elected_phase, hph]
    split_ifs <;> nofun
  have hj : (g.seat j).turns.toNat ≤ g.round.toNat + if j ≤ g.current then 1 else 0 := by
    have hle := hp j
    rwa [pace, hph, if_congr (and_iff_right (by nofun)) rfl rfl] at hle
  rw [turns_elected g hi, hp.toNat_add, pace, round_elected hr, elected_current,
    if_congr (and_iff_right hphase) rfl rfl]
  split_ifs at hj ⊢ <;> omega

theorem Gives.paced {g g' : Game} {x : Option Nat} (h : g.Gives x g') (hp : g.Paced)
    (hr : g.InRounds) : g'.Paced := by
  cases h with
  | nobody hc hs => exact hs.paced hp
  | start hc hs hw hi =>
    exact paced_startWith hc (hs.paced hp) (hs.phase.trans hw)
      (Nat.lt_of_lt_of_le hi hc.taken_le_most)
  | @pass h hc hs hpl ho next hn =>
    refine paced_elected (hs.paced hp) (hs.phase.trans hpl) ?_
      (Nat.lt_of_lt_of_le (hc.next_lt hn) hc.taken_le_most)
    rw [hs.round, hs.rules]
    exact hr hpl

/-- Turns are counted for the seats that are given the turn, and for no others. -/
theorem Gives.turns {g g' : Game} {x : Option Nat} (h : g.Gives x g') (hp : g.Paced) (j : Nat) :
    (g'.seat j).turns.toNat = (g.seat j).turns.toNat + if x = some j then 1 else 0 := by
  cases h with
  | nobody hc hs => rw [hs.turns, if_neg nofun, Nat.add_zero]
  | @start h hc hs hw first hi =>
    rw [turns_startWith h (Nat.lt_of_lt_of_le hi hc.taken_le_most), (hs.paced hp).toNat_add,
      hs.turns]
    simp only [Option.some.injEq, eq_comm]
  | @pass h hc hs hpl ho next hn =>
    rw [turns_elected h (Nat.lt_of_lt_of_le (hc.next_lt hn) hc.taken_le_most),
      (hs.paced hp).toNat_add, hs.turns]
    simp only [Option.some.injEq, eq_comm]

theorem Paced.took {g : Game} (h : g.Paced) (i : Nat) : (g.took i).Paced := by
  intro j
  rw [turns_took]
  exact h j

end Rota.Game
