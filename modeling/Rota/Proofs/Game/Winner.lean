import Rota.Proofs.Game.Balance
import Rota.Proofs.Game.Decision

namespace Rota.Game

/-- What lies on each seat. -/
def balance (g : Game) (i : Nat) : Int64 := (g.seat i).money

/-- The player who leads those who can pay. -/
def Deserves (g : Game) (w : Nat) : Prop :=
  w < g.taken ∧ (g.seat w).bankrupt = false ∧
    ∀ i < g.taken, (g.seat i).bankrupt = false → i ≠ w → Outranks g.balance w i

/-- Every player who is out comes after one who is not. -/
def Ordered (g : Game) : Prop :=
  ∀ i < g.taken, (g.seat i).bankrupt →
    ∃ j < g.taken, (g.seat j).bankrupt = false ∧ Outranks g.balance j i

/-- How a winner is chosen: by being the only one who can pay, or else by money alone. -/
structure Wins (g : Game) (w : Nat) : Prop where
  lt : w < g.taken
  sole : g.paying = 1 → (g.seat w).bankrupt = false
  richest : g.paying ≠ 1 → Leads g.balance g.taken w

theorem deserves_iff_of_leads {g : Game} {w : Nat} (h : Leads g.balance g.taken w) :
    g.Deserves w ↔ g.Ordered := by
  obtain ⟨hw, hl⟩ := h
  constructor
  · rintro ⟨-, hb, -⟩ i hi hbi
    have hne : i ≠ w := by
      rintro rfl
      exact Bool.false_ne_true (hb.symm.trans hbi)
    exact ⟨w, hw, hb, hl i hi hne⟩
  · intro ho
    have hb : (g.seat w).bankrupt = false := by
      by_contra hb
      obtain ⟨j, hj, hbj, hout⟩ := ho w hw (by simpa using hb)
      have hne : j ≠ w := by
        rintro rfl
        exact hb hbj
      exact (hl j hj hne).asymm hout
    exact ⟨hw, hb, fun i hi _ hne => hl i hi hne⟩

theorem paying_eq_one_iff (g : Game) (h : g.taken ≤ mostSeats) :
    g.paying = 1 ↔ ∃ w, solvent g.seats = [w] := by
  rw [paying, ← length_solvent g h, List.length_eq_one_iff]

theorem deserves_of_sole {g : Game} (hm : g.taken ≤ mostSeats) {v w : Nat}
    (hs : solvent g.seats = [v]) (hw : w < g.taken) (hb : (g.seat w).bankrupt = false) :
    g.Deserves w := by
  have hmem (i : Nat) : i = v ↔ i < g.taken ∧ (g.seat i).bankrupt = false := by
    rw [← mem_solvent g hm, hs, List.mem_singleton]
  have hwv : w = v := (hmem w).mpr ⟨hw, hb⟩
  refine ⟨hw, hb, fun i hi hbi hne => absurd ((hmem i).mpr ⟨hi, hbi⟩) ?_⟩
  exact hwv ▸ hne

theorem wins_champion (g : Game) (hm : g.taken ≤ mostSeats) (hpos : 0 < g.taken) :
    g.Wins (champion g.seats) := by
  refine ⟨g.champion_lt hm hpos, fun hone => ?_, fun hne => ?_⟩
  · rcases champion_cases g.seats with ⟨w, hs, hw⟩ | ⟨hlen, -⟩
    · rw [hw]
      exact ((mem_solvent g hm w).mp (by rw [hs]; exact List.mem_singleton_self w)).2
    · rw [length_solvent g hm] at hlen
      exact absurd hone hlen
  · rcases champion_cases g.seats with ⟨w, hs, -⟩ | ⟨-, hw⟩
    · exact absurd ((g.paying_eq_one_iff hm).mpr ⟨w, hs⟩) hne
    · rw [hw]
      exact g.leads_richest_seats hm hpos

namespace Wins

variable {g g' : Game} {w : Nat}

theorem congr (h : g.Wins w) (hm : g.taken ≤ mostSeats) (ht : g'.taken = g.taken)
    (hb : ∀ i, (g'.seat i).bankrupt = (g.seat i).bankrupt) (hbalance : g'.balance = g.balance) :
    g'.Wins w := by
  have hp : g'.paying = g.paying := paying_congr hm ht hb
  refine ⟨ht ▸ h.lt, fun hone => ?_, fun hne => ?_⟩
  · rw [hb]
    exact h.sole (hp ▸ hone)
  · rw [ht, hbalance]
    exact h.richest (hp ▸ hne)

theorem of_core (h : g.Wins w) (hm : g.taken ≤ mostSeats) (ht : g'.taken = g.taken)
    (hs : ∀ i, (g'.seat i).core = (g.seat i).core) : g'.Wins w :=
  h.congr hm ht (fun i => (Seat.of_core (hs i)).2.2.1)
    (funext fun i => (Seat.of_core (hs i)).2.2.2.1)

theorem deserves_iff (h : g.Wins w) (hm : g.taken ≤ mostSeats) :
    g.Deserves w ↔ g.paying = 1 ∨ g.Ordered := by
  by_cases hone : g.paying = 1
  · obtain ⟨v, hs⟩ := (g.paying_eq_one_iff hm).mp hone
    exact ⟨fun _ => .inl hone, fun _ => deserves_of_sole hm hs h.lt (h.sole hone)⟩
  · rw [deserves_iff_of_leads (h.richest hone)]
    exact ⟨.inr, fun ho => ho.resolve_left hone⟩

end Wins

/-- Passing the turn on chooses the winner of the game that it ends. -/
theorem wins_passed {g : Game} (h : g.Coherent) (hp : g.phase = .playing)
    (ho : g.passed.phase = .over) : ∃ w, g.passed.winner = some w ∧ g.passed.Wins w := by
  have hm := h.taken_le_most
  rcases g.passed_cases hp with ⟨-, -, he⟩ | ⟨next, hn, -, he⟩
  · rw [he, hp] at ho
    exact Phase.noConfusion ho
  · have hpos : 0 < g.taken := Nat.lt_of_le_of_lt (Nat.zero_le _) (g.eligible_next hm hn).1
    rw [he] at ho ⊢
    rw [elected_phase, hp] at ho
    split_ifs at ho with hd
    refine ⟨champion (g.handTo next).seats, by rw [elected_winner, if_pos hd], ?_⟩
    refine ((g.handTo next).wins_champion hm hpos).of_core hm (elected_taken g next) fun i => ?_
    exact (core_elected g next i).trans (core_handTo g next i).symm

theorem startIfReady_phase_ne (g : Game) (h : g.phase ≠ .over) :
    g.startIfReady.1.phase ≠ .over := by
  rcases startIfReady_eq g with he | ⟨first, he⟩
  · rw [he]
    exact h
  · rw [he]
    nofun

theorem wins_change {g g' : Game} {c : Call} {a : Except Fault Done} (h : g.Sound)
    (hb : g.phase ≠ .over) (ho : g'.phase = .over) (hc : g.Change c a g') :
    ∃ w, g'.winner = some w ∧ g'.Wins w := by
  cases hc with
  | idle => exact absurd ho hb
  | join name hp hc =>
    exact absurd ho (startIfReady_phase_ne ((g.seatNext name).arrive g.taken) hp)
  | connect i hp hi hc => exact absurd ho (startIfReady_phase_ne (g.arrive i) hp)
  | leave i hi hc ht => exact absurd ho hb
  | yield i hi hc hp ht => exact wins_passed (h.toCoherent.leave hi hc) hp ho
  | advance hp => exact wins_passed h.toCoherent hp ho
  | act i move hp hi ht =>
    exact wins_passed (h.putPurse hi hp _) ((putPurse_phase g i _).trans hp) ho

theorem Frank.ordered {g : Game} (h : g.Frank) {j : Nat} (hj : j < g.taken)
    (hb : (g.seat j).bankrupt = false) : g.Ordered := by
  intro i hi hbi
  have hneg : (g.seat i).money < 0 := (h i hi).mp hbi
  have hpos : 0 ≤ (g.seat j).money := by
    rw [← Int64.not_lt]
    intro hn
    exact Bool.false_ne_true (hb.symm.trans ((h j hj).mpr hn))
  exact ⟨j, hj, hb, .inl (Int64.lt_of_lt_of_le hneg hpos)⟩

/-- Who wins the game that a call ends, and when it is the one who leads those who can pay: always
if no ruined player has moved again. -/
theorem winner_run {rules : Rules} (h : rules.Valid) (saved : Option Score.Board)
    (calls : List Call) (c : Call) {g g' : Game} (hg : (new rules saved).run calls = g)
    (hg' : (g.perform c).game = g') (hb : g.phase ≠ .over) (ho : g'.phase = .over) :
    ∃ w, g'.winner = some w ∧ w < g'.taken ∧
      (g'.paying = 1 → (g'.seat w).bankrupt = false) ∧
      (g'.paying ≠ 1 → ∀ i < g'.taken, i ≠ w → Outranks g'.balance w i) ∧
      (g'.Deserves w ↔ g'.paying = 1 ∨ g'.Ordered) ∧
      ((∀ k (hk : k < calls.length),
          ¬ ((new rules saved).run (calls.take k)).Relapses calls[k]) →
        ¬ g.Relapses c → g'.Deserves w) := by
  have hs : g.Sound := hg ▸ sound_run h saved calls
  have hchange : Change g c (g.perform c).answer g' := hg' ▸ perform_change g c
  have hs' : g'.Sound := hs.change hchange
  have hj' : g'.Judged := judged_change hs (hg ▸ judged_run h saved calls) hchange
  obtain ⟨w, hw, hwins⟩ := wins_change hs hb ho hchange
  have hiff := hwins.deserves_iff hs'.taken_le_most
  refine ⟨w, hw, hwins.lt, hwins.sole, fun hne => (hwins.richest hne).2, hiff,
    fun hcalls hc => hiff.mpr (.inr ?_)⟩
  have hfrank : g.Frank := hg ▸ frank_run h saved calls hcalls
  have hcurrent : g'.current < g'.taken := hs'.current_lt (by rw [ho]; nofun)
  exact (frank_change hs hfrank hc hchange).ordered hcurrent (hj'.closed ho).solvent

theorem winner_run_of_ruin :
    ∃ g g', (new {}).run [.join "ann", .join "bob", .join "cleo",
        .act 0 ({ · with money := -1 })] = g ∧
      (g.perform (.act 1 ({ · with money := -1 }))).game = g' ∧ Rules.Valid {} ∧
      g.phase ≠ .over ∧ g'.phase = .over ∧ g'.winner = some 2 ∧ g'.Deserves 2 := by
  refine ⟨_, _, rfl, rfl, by decide, by decide +kernel, by decide +kernel, by decide +kernel, ?_⟩
  have hr : Rules.Valid {} := by decide
  obtain ⟨w, hw, -, -, -, -, hd⟩ := winner_run hr none [.join "ann", .join "bob", .join "cleo",
    .act 0 ({ · with money := -1 })] (.act 1 ({ · with money := -1 })) rfl rfl
    (by decide +kernel) (by decide +kernel)
  have htwo : w = 2 := Option.some.inj (hw.symm.trans (by decide +kernel))
  exact htwo ▸ hd (by decide +kernel) (by decide +kernel)

/-- A ruined player may win on money made by moving again while nobody else was there. -/
theorem ruined_player_wins :
    ∃ g g', (new { lapCap := 1 }).run [.join "ann", .join "bob", .join "cleo", .disconnect 1,
        .disconnect 2, .act 0 ({ · with money := -1 }), .act 0 ({ · with money := 1000 }),
        .connect 1, .connect 2, .advance, .advance] = g ∧
      (g.perform .advance).game = g' ∧ Rules.Valid { lapCap := 1 } ∧ g.phase ≠ .over ∧
      g'.phase = .over ∧ g'.winner = some 0 ∧ (g'.seat 0).bankrupt :=
  ⟨_, _, rfl, rfl, by decide +kernel⟩

end Rota.Game
