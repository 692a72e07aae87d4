import Rota.Proofs.Game.Sound

namespace Rota

/-- Whether a player is out, and what they have. -/
def Seat.account (s : Seat) : Bool × Int64 := (s.bankrupt, s.money)

namespace Game

/-- A move of a ruined player, to whom the turn has stuck. -/
def Relapses (g : Game) : Call → Prop
  | .act i _ => g.phase = .playing ∧ g.current = i ∧ i < g.taken ∧ (g.seat i).bankrupt
  | _ => False

instance (g : Game) : (c : Call) → Decidable (g.Relapses c)
  | .act _ _ => inferInstanceAs (Decidable (_ ∧ _))
  | .join _ | .connect _ | .disconnect _ | .advance => inferInstanceAs (Decidable False)

/-- The players who are out are those who owe money. -/
def Frank (g : Game) : Prop :=
  ∀ i < g.taken, (g.seat i).bankrupt ↔ (g.seat i).money < 0

/-- What a call does to the account of a seat: nothing, unless it opens it or the player moves. -/
inductive Accounts (g : Game) (c : Call) (j : Nat) : Bool × Int64 → Prop
  | kept : Accounts g c j (g.seat j).account
  | opened (hj : j = g.taken) : Accounts g c j (false, g.rules.startingMoney)
  | moved (move : Purse → Purse) (hc : c = .act j move) (hp : g.phase = .playing)
      (hi : j < g.taken) (ht : g.current = j) :
      Accounts g c j ((g.seat j).bankrupt || decide ((move (g.seat j).purse).money < 0),
        (move (g.seat j).purse).money)

/-- What neither the turn nor who is there bears on changes about a seat when it is opened and when
its player moves, and not otherwise. -/
theorem Change.seat_cases {g g' : Game} {c : Call} {a : Except Fault Done} (hc : g.Change c a g')
    {β : Type} (p : Seat → β) (hcore : ∀ s, p s.core = p s)
    (hconnected : ∀ s b, p { s with connected := b } = p s) (j : Nat) :
    (j < g'.taken → j < g.taken) ∧ p (g'.seat j) = p (g.seat j) ∨
    j = g.taken ∧ p (g'.seat j) = p ((g.seat j).sit g.rules.startingMoney) ∨
    ∃ move, c = .act j move ∧ g.phase = .playing ∧ j < g.taken ∧ g.current = j ∧
      p (g'.seat j) = p ((g.putPurse j (move (g.seat j).purse)).1.seat j) := by
  have hstart (k : Game) : p (k.startIfReady.1.seat j) = p (k.seat j) := by
    rw [← hcore, core_startIfReady, hcore]
  have hpassed (k : Game) : p (k.passed.seat j) = p (k.seat j) := by
    rw [← hcore, core_passed, hcore]
  have harrive (k : Game) (i : Nat) : p ((k.arrive i).seat j) = p (k.seat j) :=
    seat_modifySeat_congr (f := fun s => { s with connected := true }) p k i
      (fun s => hconnected s true) j
  have hleave (k : Game) (i : Nat) : p ((k.leave i).seat j) = p (k.seat j) :=
    seat_modifySeat_congr (f := fun s => { s with connected := false }) p k i
      (fun s => hconnected s false) j
  cases hc with
  | idle => exact .inl ⟨id, rfl⟩
  | join name hp hc =>
    rw [hstart, harrive, startIfReady_taken]
    by_cases hj : j = g.taken
    · rw [hj, seat_seatNext_self g name (lt_most_of_lt_capacity hc)]
      exact .inr (.inl ⟨rfl, rfl⟩)
    · rw [seat_seatNext_of_ne g name hj]
      exact .inl ⟨fun hlt => Nat.lt_of_le_of_ne (Nat.le_of_lt_succ hlt) hj, rfl⟩
  | connect i hp hi hc =>
    rw [hstart, harrive, startIfReady_taken]
    exact .inl ⟨id, rfl⟩
  | leave i hi hc ht => exact .inl ⟨id, hleave g i⟩
  | yield i hi hc hp ht =>
    rw [hpassed, hleave, passed_taken]
    exact .inl ⟨id, rfl⟩
  | advance hp =>
    rw [hpassed, passed_taken]
    exact .inl ⟨id, rfl⟩
  | act i move hp hi ht =>
    rw [hpassed, passed_taken, putPurse_taken]
    by_cases hj : j = i
    · subst hj
      exact .inr (.inr ⟨move, rfl, hp, hi, ht, rfl⟩)
    · rw [seat_putPurse_of_ne g _ hj]
      exact .inl ⟨id, rfl⟩

/-- A purse puts a player out who falls below zero, and lets nobody back in. -/
theorem account_putPurse (g : Game) {i : Nat} (hi : i < mostSeats) (p : Purse) :
    ((g.putPurse i p).1.seat i).account =
      ((g.seat i).bankrupt || decide (p.money < 0), p.money) := by
  unfold putPurse
  by_cases hneg : p.money < 0
  · by_cases hb : (g.seat i).bankrupt
    · rw [if_neg (by simp [hb])]
      have hseat := seat_modifySeat_self g (·.setPurse p) hi
      rw [hseat, hb]
      exact Prod.ext hb rfl
    · rw [if_pos ⟨hneg, by simpa using hb⟩]
      have hseat := seat_modifySeat_self g (fun s => (s.setPurse p).ruin) hi
      change ((g.modifySeat i fun s => (s.setPurse p).ruin).seat i).account = _
      rw [hseat, decide_eq_true hneg, Bool.or_true]
      rfl
  · rw [if_neg (fun hr => hneg hr.1), decide_eq_false hneg, Bool.or_false]
    have hseat := seat_modifySeat_self g (·.setPurse p) hi
    rw [hseat]
    rfl

theorem Change.accounts {g g' : Game} {c : Call} {a : Except Fault Done} (hc : g.Change c a g')
    (h : g.Sound) (j : Nat) : g.Accounts c j (g'.seat j).account := by
  rcases hc.seat_cases Seat.account (fun _ => rfl) (fun _ _ => rfl) j with
    ⟨-, he⟩ | ⟨hj, he⟩ | ⟨move, hact, hp, hj, ht, he⟩
  · rw [he]
    exact .kept
  · rw [he]
    exact .opened hj
  · rw [he, account_putPurse g (Nat.lt_of_lt_of_le hj h.taken_le_most)]
    exact .moved move hact hp hj ht

theorem frank_change {g g' : Game} {c : Call} {a : Except Fault Done} (h : g.Sound)
    (hf : g.Frank) (hr : ¬ g.Relapses c) (hc : g.Change c a g') : g'.Frank := by
  intro i _
  have haccount := hc.accounts h i
  change (g'.seat i).account.1 ↔ (g'.seat i).account.2 < 0
  generalize (g'.seat i).account = account at haccount ⊢
  cases haccount with
  | kept =>
    by_cases hi : i < g.taken
    · exact hf i hi
    · rw [h.blank i (by omega)]
      decide
  | opened =>
    refine ⟨nofun, fun hneg => ?_⟩
    exact absurd hneg (Int64.lt_asymm h.rules.startingMoney_pos)
  | moved move hact hp hi ht =>
    have hb : (g.seat i).bankrupt = false := by
      by_contra hb
      apply hr
      rw [hact]
      exact ⟨hp, ht, hi, by simpa using hb⟩
    simp [hb]

theorem frank_run {rules : Rules} (h : rules.Valid) (saved : Option Score.Board)
    (calls : List Call)
    (hr : ∀ k (hk : k < calls.length), ¬ ((new rules saved).run (calls.take k)).Relapses calls[k]) :
    ((new rules saved).run calls).Frank := by
  have hprefix (k : Nat) (hk : k ≤ calls.length) :
      ((new rules saved).run (calls.take k)).Frank := by
    induction k with
    | zero => exact fun i hi => absurd hi (Nat.not_lt_zero i)
    | succ k ih =>
      rw [run_take_succ _ hk]
      exact frank_change (sound_run h saved _) (ih (Nat.le_of_lt hk)) (hr k hk)
        (perform_change _ _)
  have hall := hprefix calls.length (Nat.le_refl _)
  rwa [List.take_length] at hall

end Game
end Rota
