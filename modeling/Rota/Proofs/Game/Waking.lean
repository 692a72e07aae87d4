import Rota.Proofs.Game.Change

namespace Rota.Game

/-- What the one who waits for the turn of `seat` waits for. -/
def Ends (g : Game) (seat : Nat) : Wake → Prop
  | .turn => g.phase = .playing ∧ g.current = seat
  | .over => g.phase = .over

theorem wake?_eq_some_iff {g : Game} {seat : Nat} {wake : Wake} :
    g.wake? seat = some wake ↔ g.Ends seat wake := by
  cases hp : g.phase <;> cases wake <;> simp [wake?, Ends, hp]

theorem wake?_eq_none_iff {g : Game} {seat : Nat} :
    g.wake? seat = none ↔ ∀ wake, ¬g.Ends seat wake := by
  simp only [Option.eq_none_iff_forall_ne_some, ne_eq, wake?_eq_some_iff]

section unheard

variable {g : Game}

theorem settle_woke (g : Game) (events : List Event) : (g.settle events).woke = true := by
  unfold settle
  cases g.handOver <;> rfl

theorem connect_unheard {i : Nat} (h : (g.connect i).woke = false) : (g.connect i).game = g := by
  by_cases hi : i < g.taken
  · by_cases hidle : (g.seat i).connected ∨ g.phase = .over
    · rw [connect, seated_of_lt g hi]
      rcases hidle with hc | hp
      · simp [hc]
      · by_cases hc : (g.seat i).connected <;> simp [hc, isOver, hp, Reply.refuse]
    · obtain ⟨hc, hp⟩ : (g.seat i).connected = false ∧ g.phase ≠ .over := by simpa using hidle
      -- a newcomer is greeted, which wakes everyone
      rw [connect_of_absent g hi hc hp] at h
      cases h
  · rw [connect, seated_of_le g (by omega)]
    rfl

theorem join_unheard {name : String} (h : (g.join name).woke = false) :
    (g.join name).game = g := by
  unfold join at h ⊢
  split_ifs at h ⊢ with ho hf
  · rfl
  · rfl
  · have hp : g.phase ≠ .over := by simpa [isOver] using ho
    have hc : g.taken < g.capacity := by omega
    rw [connect_of_absent (g.seatNext name) (Nat.lt_succ_self g.taken)
      (connected_seatNext g name (lt_most_of_lt_capacity hc)) hp] at h
    cases h

theorem disconnect_unheard {i : Nat} (h : (g.disconnect i).woke = false) :
    (g.disconnect i).game = g := by
  unfold disconnect at h ⊢
  by_cases hi : i < g.taken
  · rw [seated_of_lt g hi] at h ⊢
    dsimp only at h ⊢
    split_ifs at h ⊢ with hc ht
    · have hwoke := settle_woke (g.leave i) [.disconnected i]
      rw [Reply.map] at h
      rw [hwoke] at h
      cases h
    · rfl
  · rw [seated_of_le g (by omega)]
    rfl

theorem advance_unheard (h : g.advance.woke = false) : g.advance.game = g := by
  unfold advance at h ⊢
  cases hh : g.handOver with
  | error f => rfl
  | ok r =>
    rw [hh] at h
    dsimp only at h
    rw [settle_woke] at h
    cases h

theorem act_unheard {i : Nat} {move : Purse → Purse} (h : (g.act i move).woke = false) :
    (g.act i move).game = g := by
  unfold act at h ⊢
  cases hm : g.mover i with
  | error f => rfl
  | ok s =>
    rw [hm] at h
    dsimp only at h
    rw [settle_woke] at h
    cases h

/-- A call that wakes nobody leaves the game as it was, whatever it answers. -/
theorem perform_unheard {c : Call} (h : (g.perform c).woke = false) : (g.perform c).game = g := by
  cases c with
  | join name => exact join_unheard h
  | connect i => exact connect_unheard h
  | disconnect i => exact disconnect_unheard h
  | advance => exact advance_unheard h
  | act i move => exact act_unheard h

/-- A call that changes the phase or the turn wakes everyone, whatever it answers. -/
theorem woke_of_change {c : Call}
    (h : (g.perform c).game.phase ≠ g.phase ∨ (g.perform c).game.current ≠ g.current) :
    (g.perform c).woke = true := by
  by_contra hno
  have hsame : (g.perform c).game = g := perform_unheard (by simpa using hno)
  rw [hsame] at h
  simp at h

end unheard

end Rota.Game
