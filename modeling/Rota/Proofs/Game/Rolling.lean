import Rota.Proofs.Game.Balance
import Rota.Proofs.Game.Dice
import Rota.Proofs.Game.Fairness
import Rota.Proofs.Game.Presence
import Rota.Proofs.Game.Refusal
import Rota.Proofs.Game.Signals

namespace Rota.Game

/-- A call that moves by the dice if it moves at all. -/
def Call.ByDice : Call → Prop
  | .act _ move => ∃ s, move = Dice.rolled s
  | _ => True

/-- A move after which nobody can take the turn. -/
def Stalls (g : Game) : Call → Prop
  | .act i move => (g.perform (.act i move)).answer = .error .nobodyEligible
  | _ => False

instance (g : Game) : (c : Call) → Decidable (g.Stalls c)
  | .act _ _ => inferInstanceAs (Decidable (_ = _))
  | .join _ | .connect _ | .disconnect _ | .advance => inferInstanceAs (Decidable False)

/-- How many moves of a run nobody can follow. -/
def stalls (g : Game) : List Call → Nat
  | [] => 0
  | c :: calls => (if g.Stalls c then 1 else 0) + (g.perform c).game.stalls calls

/-- Whoever may move can roll, whatever the dice. -/
def CanRoll (g : Game) : Prop :=
  ∀ i s, g.mover i = .ok s → ∀ dice, ∃ r, Dice.roll dice s.purse = .ok r

/-- Whether a seat has been given a turn that it has not used yet. -/
def due (g : Game) (i : Nat) : Nat := if g.phase = .playing ∧ g.current = i then 1 else 0

/-- Each roll has taken a turn of the seat that made it, apart from `extra` rolls. -/
def Rationed (g : Game) (extra : Nat) : Prop :=
  ∀ i < g.taken, ∃ count, Dice.Within g.rules.startingMoney.toInt count (g.seat i).purse ∧
    count + g.due i ≤ (g.seat i).turns.toNat + extra

theorem mover_ok {g : Game} {i : Nat} {s : Seat} (h : g.mover i = .ok s) :
    g.phase = .playing ∧ i < g.taken ∧ g.current = i ∧ s = g.seat i := by
  by_cases hidle : g.Idles (.act i id)
  · obtain ⟨f, hf⟩ := g.mover_of_idle hidle
    exact absurd (h.symm.trans hf) nofun
  · obtain ⟨hp, hi, ht⟩ : g.phase = .playing ∧ i < g.taken ∧ g.current = i := by
      simpa [Idles] using hidle
    exact ⟨hp, hi, ht, Except.ok.inj (h.symm.trans (g.mover_of_turn hp hi ht))⟩

theorem purse_putPurse (g : Game) {i : Nat} (hi : i < mostSeats) (p : Purse) :
    ((g.putPurse i p).1.seat i).purse = p := by
  unfold putPurse
  dsimp only
  split_ifs
  · exact congrArg Seat.purse (seat_modifySeat_self g (fun s => (s.setPurse p).ruin) hi)
  · exact congrArg Seat.purse (seat_modifySeat_self g (fun s => (s.setPurse p).ruin) hi)
  · exact congrArg Seat.purse (seat_modifySeat_self g (·.setPurse p) hi)

/-- The turn is due to the seat that is given it, and else to the seat that has it. -/
theorem Gives.due_le {g g' : Game} {x : Option Nat} (h : g.Gives x g') (i : Nat) :
    g'.due i ≤ if x = none then g.due i else if x = some i then 1 else 0 := by
  cases x with
  | none =>
    cases h with
    | nobody hc hs =>
      have hsame : g'.due i = g.due i := by rw [due, due, hs.phase, hs.current]
      rw [if_pos rfl]
      exact Nat.le_of_eq hsame
  | some k =>
    rw [if_neg nofun, due, h.current.1]
    simp only [Option.some.injEq]
    split_ifs with hdue hk
    · exact Nat.le_refl 1
    · exact absurd hdue.2 hk
    · exact Nat.zero_le 1
    · exact Nat.le_refl 0

/-- A move that gives nobody the turn is one that nobody can follow. -/
theorem error_of_act {g g' : Game} {i : Nat} {move : Purse → Purse} {a : Except Fault Done}
    (hc : g.Change (.act i move) a g') (ht : g.phase = .playing ∧ i < g.taken ∧ g.current = i)
    (hx : g.elects? g' = none) : a = .error .nobodyEligible := by
  cases hc with
  | idle hidle =>
    rcases hidle with hn | hn | hn
    · exact absurd ht.1 hn
    · omega
    · exact absurd ht.2.2 hn
  | act i move hp =>
    have hp' := (putPurse_phase g i (move (g.seat i).purse)).trans hp
    rcases passed_cases _ hp' with ⟨-, ha, -⟩ | ⟨next, -, -, he⟩
    · exact ha
    · have hmoves : (g.putPurse i (move (g.seat i).purse)).1.passed.moves = g.moves + 1 := by
        rw [he, elected_moves, (SameTurn.putPurse g i _).moves]
      have hne : g.moves + 1 ≠ g.moves := by
        intro hsame
        have hn := congrArg UInt64.toNat hsame
        rw [UInt64.toNat_add, UInt64.toNat_one] at hn
        omega
      rw [elects?, hmoves, if_pos (.inl hne)] at hx
      cases hx

namespace Rationed

variable {g g' : Game} {extra extra' : Nat}

theorem change {c : Call} {a : Except Fault Done} (h : g.Rationed extra) (hs : g.Sound)
    (ht : g.Paced) (hdice : c.ByDice) (hc : g.Change c a g') (hle : extra ≤ extra')
    (hstall : ∀ i move, c = .act i move → a = .error .nobodyEligible → extra < extra') :
    g'.Rationed extra' := by
  intro j hj
  have hgives := hc.gives hs
  have hturns := hgives.turns ht j
  have hdue := hgives.due_le j
  rw [hc.rules, hturns]
  rcases hc.seat_cases Seat.purse (fun _ => rfl) (fun _ _ => rfl) j with
    ⟨hlt, he⟩ | ⟨hopen, he⟩ | ⟨move, hact, hp, hlt, hcur, he⟩
  · obtain ⟨count, hwithin, hcount⟩ := h j (hlt hj)
    refine ⟨count, he ▸ hwithin, ?_⟩
    split_ifs at hdue ⊢ <;> omega
  · have hnobody : g.due j = 0 := by
      refine if_neg fun hd => ?_
      have hcur := hs.current_lt_of_playing hd.1
      omega
    refine ⟨0, ?_, ?_⟩
    · rw [he]
      exact Dice.within_start g.rules.startingMoney
    · split_ifs at hdue ⊢ <;> omega
  · subst hact
    obtain ⟨s, rfl⟩ := hdice
    obtain ⟨count, hwithin, hcount⟩ := h j hlt
    have hnow : g.due j = 1 := if_pos ⟨hp, hcur⟩
    refine ⟨count + 1, ?_, ?_⟩
    · rw [he, purse_putPurse g (Nat.lt_of_lt_of_le hlt hs.taken_le_most)]
      exact hwithin.rolled s
    · by_cases hx : g.elects? g' = none
      · have hmore := hstall j _ rfl (error_of_act hc ⟨hp, hlt, hcur⟩ hx)
        rw [if_pos hx] at hdue
        rw [hx, if_neg nofun]
        omega
      · rw [if_neg hx] at hdue
        split_ifs at hdue ⊢ <;> omega

theorem run (h : g.Rationed extra) (hs : g.Sound) (ht : g.Timely) {calls : List Call}
    (hdice : ∀ c ∈ calls, c.ByDice) : (g.run calls).Rationed (extra + g.stalls calls) := by
  induction calls generalizing g extra with
  | nil => exact h
  | cons c calls ih =>
    have hc := perform_change g c
    have hnext : (g.perform c).game.Rationed (extra + if g.Stalls c then 1 else 0) := by
      refine h.change hs ht.paced (hdice c List.mem_cons_self) hc (Nat.le_add_right _ _) ?_
      rintro i move rfl ha
      have hstalls : g.Stalls (.act i move) := ha
      rw [if_pos hstalls]
      exact Nat.lt_succ_self extra
    rw [run_cons, stalls, ← Nat.add_assoc]
    exact ih hnext (hs.change hc) (ht.change hs hc) fun c hmem =>
      hdice c (List.mem_cons_of_mem _ hmem)

theorem new (rules : Rules) (saved : Option Score.Board) : (new rules saved).Rationed 0 :=
  fun i hi => absurd hi (Nat.not_lt_zero i)

/-- A seat has no more turns than there are rounds. -/
theorem canRoll (h : g.Rationed extra) (ht : g.Timely)
    (hfits : Dice.Fits g.rules.startingMoney.toInt (g.rules.lapCap.toNat + extra)) :
    g.CanRoll := by
  intro i s hm dice
  obtain ⟨hp, hi, hcur, rfl⟩ := mover_ok hm
  obtain ⟨count, hwithin, hcount⟩ := h i hi
  have hdue : g.due i = 1 := if_pos ⟨hp, hcur⟩
  have hpaced := ht.paced i
  rw [pace, if_pos ⟨by rw [hp]; decide, Nat.le_of_eq hcur.symm⟩] at hpaced
  have hround := UInt32.lt_iff_toNat_lt.mp (ht.judged.inRounds hp)
  exact hwithin.roll_ok dice (hfits.mono (by omega))

end Rationed
end Rota.Game
