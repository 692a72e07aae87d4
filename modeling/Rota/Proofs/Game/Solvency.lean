import Rota.Proofs.Game.Refusal
import Rota.Proofs.Game.Winner

namespace Rota.Game

/-- The game in which a call passes the turn on, once the call's own part is done. -/
inductive PassesIn (g : Game) : Call → Game → Prop
  | yield (i : Nat) (hi : i < g.taken) (hc : (g.seat i).connected) (hp : g.phase = .playing)
      (ht : g.current = i) : PassesIn g (.disconnect i) (g.leave i)
  | advance (hp : g.phase = .playing) : PassesIn g .advance g
  | act (i : Nat) (move : Purse → Purse) (hp : g.phase = .playing) (hi : i < g.taken)
      (ht : g.current = i) : PassesIn g (.act i move) (g.putPurse i (move (g.seat i).purse)).1

theorem paying_pos_iff {g : Game} (hm : g.taken ≤ mostSeats) :
    0 < g.paying ↔ ∃ i < g.taken, (g.seat i).bankrupt = false := by
  rw [paying, countP_seats g hm, List.countP_pos_iff]
  simp only [List.mem_range, Bool.not_eq_true']

/-- No phase leaves a table without anybody who can pay, unless it is empty. -/
theorem paying_pos {g : Game} (h : g.Sound) (hj : g.Judged) (ht : 0 < g.taken) :
    0 < g.paying := by
  cases hp : g.phase with
  | waiting => exact (paying_pos_iff h.taken_le_most).mpr ⟨0, ht, (h.waiting hp).2.2 0⟩
  | playing => exact (hj.opened hp).paying_pos
  | «over» =>
    have hcurrent : g.current < g.taken := h.current_lt (by rw [hp]; nofun)
    exact (paying_pos_iff h.taken_le_most).mpr ⟨g.current, hcurrent, (hj.closed hp).solvent⟩

/-- Who can pay when the turn has been handed to a seat could pay before. -/
theorem Open.solvent_handTo {g : Game} (h : g.Open) (hm : g.taken ≤ mostSeats) (next : Nat) :
    solvent (g.handTo next).seats ≠ [] := by
  have hpaying : (g.handTo next).paying = g.paying := paying_of_core hm rfl (core_handTo g next)
  rw [← List.length_pos_iff, length_solvent (g.handTo next) hm, ← paying, hpaying]
  exact h.paying_pos

namespace PassesIn

variable {g t : Game} {c : Call} (hc : g.PassesIn c t)
include hc

theorem phase : t.phase = .playing := by
  cases hc with
  | yield i hi hc hp => exact hp
  | advance hp => exact hp
  | act i move hp => exact (putPurse_phase g i _).trans hp

theorem taken : t.taken = g.taken := by
  cases hc with
  | yield => rfl
  | advance => rfl
  | act i move => exact putPurse_taken g i _

theorem perform_game : (g.perform c).game = t.passed := by
  cases hc with
  | yield i hi hc hp ht =>
    have hturn : g.isTurnOf i = true := by simp [isTurnOf, hp, ht]
    simp only [perform, disconnect, seated_of_lt g hi, hc, hturn, if_true]
    exact settle_game _ _
  | advance hp => exact advance_game g
  | act i move hp hi ht => exact (g.perform_act hp hi ht move).2

/-- Before a call passes the turn on, nobody is ruined but the player who has it, and that player
was not the only one who could pay. -/
theorem opened (hm : g.taken ≤ mostSeats) (hj : g.Judged) : t.Open := by
  cases hc with
  | yield i hi hc hp ht => exact (hj.opened hp).modify hm i _ fun _ => rfl
  | advance hp => exact hj.opened hp
  | act i move hp hi ht => exact open_putPurse (hj.opened hp) ht hi hm _

end PassesIn

/-- Only a call that passes the turn on ends a game. -/
theorem exists_passesIn {g : Game} {c : Call} (hb : g.phase ≠ .over)
    (ho : (g.perform c).game.phase = .over) : ∃ t, g.PassesIn c t := by
  have hchange := perform_change g c
  generalize (g.perform c).answer = a at hchange
  generalize (g.perform c).game = g' at hchange ho
  cases hchange with
  | idle => exact absurd ho hb
  | join name hp hc =>
    exact absurd ho (startIfReady_phase_ne ((g.seatNext name).arrive g.taken) hp)
  | connect i hp hi hc => exact absurd ho (startIfReady_phase_ne (g.arrive i) hp)
  | leave i hi hc ht => exact absurd ho hb
  | yield i hi hc hp ht => exact ⟨_, .yield i hi hc hp ht⟩
  | advance hp => exact ⟨_, .advance hp⟩
  | act i move hp hi ht => exact ⟨_, .act i move hp hi ht⟩

/-- A game that passing the turn on ends is ended by the champion of its seats as they are then. -/
theorem passed_eq_finish {g : Game} (hp : g.phase = .playing) (ho : g.passed.phase = .over) :
    ∃ next, nextSeat? g.seats g.current = some next ∧ (g.handTo next).decided ∧
      g.passed = (g.handTo next).finish (champion (g.handTo next).seats) := by
  rcases g.passed_cases hp with ⟨-, -, he⟩ | ⟨next, hn, -, he⟩
  · rw [he, hp] at ho
    exact Phase.noConfusion ho
  · rw [he, elected_phase, hp] at ho
    split_ifs at ho with hd
    rw [elected_eq, if_pos hd] at he
    exact ⟨next, hn, hd, he⟩

/-- Somebody can always pay at a table that is not empty, and so when the turn is passed on: a
winner is never looked for among nobody. -/
theorem solvent_run {rules : Rules} (h : rules.Valid) (saved : Option Score.Board)
    (calls : List Call) {g : Game} (hg : (new rules saved).run calls = g) :
    (0 < g.taken → ∃ i < g.taken, (g.seat i).bankrupt = false) ∧
      (∀ c t, g.PassesIn c t →
        (g.perform c).game = t.passed ∧ ∀ next, solvent (t.handTo next).seats ≠ []) ∧
      ∀ c, g.phase ≠ .over → (g.perform c).game.phase = .over →
        ∃ t next, g.PassesIn c t ∧ nextSeat? t.seats t.current = some next ∧
          (t.handTo next).decided ∧
          (g.perform c).game = (t.handTo next).finish (champion (t.handTo next).seats) := by
  have hs : g.Sound := hg ▸ sound_run h saved calls
  have hj : g.Judged := hg ▸ judged_run h saved calls
  have hm := hs.taken_le_most
  refine ⟨fun ht => (paying_pos_iff hm).mp (paying_pos hs hj ht),
    fun c t hc => ⟨hc.perform_game, (hc.opened hm hj).solvent_handTo (hc.taken ▸ hm)⟩,
    fun c hb ho => ?_⟩
  obtain ⟨t, hc⟩ := exists_passesIn hb ho
  rw [hc.perform_game] at ho ⊢
  obtain ⟨next, hn, hd, he⟩ := passed_eq_finish hc.phase ho
  exact ⟨t, next, hc, hn, hd, he⟩

theorem solvent_run_of_return :
    ∃ g, (new {}).run [.join "ann", .join "bob", .join "cleo", .act 0 ({ · with money := -1 }),
        .disconnect 2, .act 1 ({ · with money := -1 }), .act 1 ({ · with money := -5 }),
        .connect 2] = g ∧ Rules.Valid {} ∧ 0 < g.taken ∧
      (∃ i < g.taken, (g.seat i).bankrupt = false) ∧ g.PassesIn .advance g ∧
      (∀ next, solvent (g.handTo next).seats ≠ []) ∧ g.phase ≠ .over ∧
      (g.perform .advance).game.phase = .over ∧
      ∃ t next, g.PassesIn .advance t ∧ (t.handTo next).decided ∧
        (g.perform .advance).game = (t.handTo next).finish (champion (t.handTo next).seats) := by
  have hr : Rules.Valid {} := by decide
  obtain ⟨hsome, hpasses, hends⟩ := solvent_run hr none [.join "ann", .join "bob", .join "cleo",
    .act 0 ({ · with money := -1 }), .disconnect 2, .act 1 ({ · with money := -1 }),
    .act 1 ({ · with money := -5 }), .connect 2] rfl
  obtain ⟨t, next, hc, -, hd, he⟩ := hends .advance (by decide +kernel) (by decide +kernel)
  refine ⟨_, rfl, hr, by decide +kernel, hsome (by decide +kernel), .advance (by decide +kernel),
    (hpasses .advance _ (.advance (by decide +kernel))).2, by decide +kernel, by decide +kernel,
    t, next, hc, hd, he⟩

end Rota.Game
