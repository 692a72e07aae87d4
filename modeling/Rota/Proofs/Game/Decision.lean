import Rota.Proofs.Game.Sound

namespace Rota.Game

/-- How many players can still pay. -/
def paying (g : Game) : Nat := g.seats.countP fun s => !s.bankrupt

theorem paying_congr {g g' : Game} (hm : g.taken ≤ mostSeats) (ht : g'.taken = g.taken)
    (hb : ∀ i, (g'.seat i).bankrupt = (g.seat i).bankrupt) : g'.paying = g.paying :=
  countP_seats_congr hm ht fun i _ => by rw [hb]

theorem paying_of_core {g g' : Game} (hm : g.taken ≤ mostSeats) (ht : g'.taken = g.taken)
    (hs : ∀ i, (g'.seat i).core = (g.seat i).core) : g'.paying = g.paying :=
  paying_congr hm ht fun i => (Seat.of_core (hs i)).2.2.1

theorem decided_iff (g : Game) (h : g.taken ≤ mostSeats) :
    g.decided ↔ g.paying ≤ 1 ∨ g.rules.lapCap ≤ g.round := by
  rw [decided, length_solvent g h, Bool.or_eq_true, decide_eq_true_iff, decide_eq_true_iff,
    paying]

/-- A game that goes on. A single player may be left only while the turn lies with one who has been
ruined in it. -/
structure Open (g : Game) : Prop where
  round_lt : g.round < g.rules.lapCap
  paying_pos : 0 < g.paying
  two_le : (g.seat g.current).bankrupt = false → 2 ≤ g.paying

/-- A game that has been decided by handing the turn to a player who can pay. -/
structure Closed (g : Game) : Prop where
  decided : g.paying ≤ 1 ∨ g.rules.lapCap ≤ g.round
  solvent : (g.seat g.current).bankrupt = false

/-- Whether the phase of a game goes with its players and its round. -/
structure Judged (g : Game) : Prop where
  opened : g.phase = .playing → g.Open
  closed : g.phase = .over → g.Closed

theorem paying_modify {g : Game} (hm : g.taken ≤ mostSeats) (i : Nat) {f : Seat → Seat}
    (e : UInt32) (hf : ∀ s, (f s).bankrupt = s.bankrupt) :
    ({ g.modifySeat i f with eligible := e } : Game).paying = g.paying :=
  paying_congr hm rfl (seat_modifySeat_congr Seat.bankrupt g i hf)

/-- A seat may be changed in anything but whether it can pay. -/
theorem Open.modify {g : Game} (h : g.Open) (hm : g.taken ≤ mostSeats) (i : Nat) {f : Seat → Seat}
    (e : UInt32) (hf : ∀ s, (f s).bankrupt = s.bankrupt) :
    Open { g.modifySeat i f with eligible := e } := by
  have hb := seat_modifySeat_congr Seat.bankrupt g i hf g.current
  have hp := paying_modify hm i e hf
  refine ⟨h.round_lt, hp ▸ h.paying_pos, fun hc => ?_⟩
  rw [hp]
  exact h.two_le (hb.symm.trans hc)

theorem Closed.modify {g : Game} (h : g.Closed) (hm : g.taken ≤ mostSeats) (i : Nat)
    {f : Seat → Seat} (e : UInt32) (hf : ∀ s, (f s).bankrupt = s.bankrupt) :
    Closed { g.modifySeat i f with eligible := e } := by
  have hb := seat_modifySeat_congr Seat.bankrupt g i hf g.current
  have hp := paying_modify hm i e hf
  refine ⟨?_, hb.trans h.solvent⟩
  rw [hp]
  exact h.decided

theorem open_seatNext {g : Game} (h : g.Open) (hm : g.taken < mostSeats) (name : String) :
    (g.seatNext name).Open := by
  have hp : (g.seatNext name).paying = g.paying + 1 :=
    countP_seats_seatNext g name (fun s => !s.bankrupt) hm
  refine ⟨h.round_lt, hp ▸ Nat.succ_pos _, fun hb => ?_⟩
  have hpos := h.paying_pos
  omega

/-- The seat that has the turn may ruin itself, since somebody else can pay then. -/
theorem open_putPurse {g : Game} (h : g.Open) {i : Nat} (hc : g.current = i) (hi : i < g.taken)
    (hm : g.taken ≤ mostSeats) (p : Purse) : (g.putPurse i p).1.Open := by
  by_cases hr : p.money < 0 ∧ !(g.seat i).bankrupt
  · have hb : (g.seat i).bankrupt = false := by simpa using hr.2
    have hs : (g.modifySeat i fun s => (s.setPurse p).ruin).seat i =
        ((g.seat i).setPurse p).ruin := seat_modifySeat_self g _ (by omega)
    have htwo : 2 ≤ g.paying := h.two_le (hc ▸ hb)
    have hcount : (g.modifySeat i fun s => (s.setPurse p).ruin).paying + 1 = g.paying := by
      have hu := countP_seats_modifySeat g (fun s => !s.bankrupt)
        (fun s => (s.setPurse p).ruin) hi hm
      rw [hb] at hu
      exact hu
    rw [putPurse, if_pos hr]
    refine ⟨h.round_lt, ?_, fun hn => ?_⟩
    · change 0 < (g.modifySeat i fun s => (s.setPurse p).ruin).paying
      omega
    · change ((g.modifySeat i fun s => (s.setPurse p).ruin).seat g.current).bankrupt = false at hn
      rw [hc, hs] at hn
      exact Bool.noConfusion hn
  · rw [putPurse, if_neg hr]
    exact h.modify hm i g.eligible fun _ => rfl

theorem open_startWith {g : Game} (h : g.Coherent) (hp : g.phase = .waiting) (first : Nat)
    (hmin : g.rules.minPlayers.toNat ≤ g.eligible.toNat) : (g.startWith first).Open := by
  have hm := h.taken_le_most
  have hbankrupt := (h.waiting hp).2.2
  have hall : g.paying = g.taken := by
    rw [paying, List.countP_eq_length.mpr, length_seats g hm]
    intro s hs
    rw [seats_eq_map g hm, List.mem_map] at hs
    obtain ⟨i, -, rfl⟩ := hs
    rw [hbankrupt i]
    rfl
  have hle : g.eligible.toNat ≤ g.taken := by
    rw [h.eligible, ← length_seats g hm]
    exact List.countP_le_length
  have hpaying : (g.startWith first).paying = g.paying :=
    paying_of_core hm rfl (core_startWith g first)
  have hfew : 3 ≤ g.rules.minPlayers.toNat := h.rules.players_le.1
  refine ⟨?_, by omega, fun _ => by omega⟩
  rw [UInt32.lt_iff_toNat_lt]
  exact h.rules.lapCap_pos

theorem judged_startIfReady {g : Game} (h : g.Coherent) (hp : g.phase = .waiting) :
    g.startIfReady.1.Judged := by
  rcases g.startIfReady_cases h.taken_le_most with ⟨he, -⟩ | ⟨first, -, -, -, hmin, he⟩
  · rw [he]
    exact ⟨by simp [hp], by simp [hp]⟩
  · rw [he]
    exact ⟨fun _ => open_startWith h hp first hmin, nofun⟩

/-- Passing the turn on ends the game just when it is decided. -/
theorem judged_passed {g : Game} (h : g.Coherent) (hp : g.phase = .playing) (ho : g.Open) :
    g.passed.Judged := by
  have hm := h.taken_le_most
  rcases g.passed_cases hp with ⟨-, -, he⟩ | ⟨next, hn, -, he⟩
  · rw [he]
    exact ⟨fun _ => ho, by simp [hp]⟩
  · have hpaying : (g.elected next).paying = (g.handTo next).paying :=
      paying_of_core hm (elected_taken g next) fun i =>
        (core_elected g next i).trans (core_handTo g next i).symm
    have hsolvent : ((g.elected next).seat next).bankrupt = false := by
      have hel := (Seat.eligible_of_core (core_elected g next next)).trans
        (g.eligible_next hm hn).2
      simp only [Seat.eligible, Seat.inPlay, Bool.and_eq_true, Bool.not_eq_true'] at hel
      exact hel.2.2
    have hd := (g.handTo next).decided_iff hm
    rw [he]
    refine ⟨fun hphase => ?_, fun hphase => ⟨?_, ?_⟩⟩
    · rw [elected_phase] at hphase
      split_ifs at hphase with hnd
      rw [hd, not_or, Nat.not_le] at hnd
      refine ⟨?_, ?_, fun _ => ?_⟩
      · rw [elected_round, elected_rules]
        exact UInt32.not_le.mp hnd.2
      · omega
      · omega
    · rw [elected_phase, hp] at hphase
      split_ifs at hphase with hyes
      rw [hpaying, elected_round, elected_rules]
      exact hd.mp hyes
    · rw [elected_current]
      exact hsolvent

theorem judged_change {g g' : Game} {c : Call} {a : Except Fault Done} (h : g.Sound)
    (hj : g.Judged) (hc : g.Change c a g') : g'.Judged := by
  have hm := h.taken_le_most
  cases hc with
  | idle => exact hj
  | join name hp hc =>
    have hmost := lt_most_of_lt_capacity hc
    cases hph : g.phase with
    | waiting => exact judged_startIfReady (h.seatArrive name hc) hph
    | playing =>
      rw [startIfReady_of_playing ((g.seatNext name).arrive g.taken) hph]
      have ho := open_seatNext (hj.opened hph) hmost name
      exact ⟨fun _ => ho.modify hmost _ _ fun _ => rfl,
        fun hover => Phase.noConfusion (hph.symm.trans hover)⟩
    | «over» => exact absurd hph hp
  | connect i hp hi hc =>
    cases hph : g.phase with
    | waiting => exact judged_startIfReady (h.arrive hi hc) hph
    | playing =>
      rw [startIfReady_of_playing (g.arrive i) hph]
      exact ⟨fun hpl => (hj.opened hpl).modify hm i _ fun _ => rfl,
        fun hover => Phase.noConfusion (hph.symm.trans hover)⟩
    | «over» => exact absurd hph hp
  | leave i hi hc ht =>
    exact ⟨fun hp => (hj.opened hp).modify hm i _ fun _ => rfl,
      fun hp => (hj.closed hp).modify hm i _ fun _ => rfl⟩
  | yield i hi hc hp ht =>
    exact judged_passed (h.toCoherent.leave hi hc) hp ((hj.opened hp).modify hm i _ fun _ => rfl)
  | advance hp => exact judged_passed h.toCoherent hp (hj.opened hp)
  | act i move hp hi ht =>
    exact judged_passed (h.putPurse hi hp _) ((putPurse_phase g i _).trans hp)
      (open_putPurse (hj.opened hp) ht hi hm _)

theorem judged_run {rules : Rules} (h : rules.Valid) (saved : Option Score.Board)
    (calls : List Call) : ((new rules saved).run calls).Judged :=
  run_induction h saved ⟨nofun, nofun⟩ judged_change calls

/-- A game that has started is over just when its rounds are used up, or when one player at most can
pay and the turn lies with such a player. -/
theorem over_run_iff {rules : Rules} (h : rules.Valid) (saved : Option Score.Board)
    (calls : List Call) {g : Game} (hg : (new rules saved).run calls = g)
    (hp : g.phase ≠ .waiting) :
    g.phase = .over ↔
      rules.lapCap ≤ g.round ∨ g.paying ≤ 1 ∧ (g.seat g.current).bankrupt = false := by
  have hj : g.Judged := hg ▸ judged_run h saved calls
  have hcap : g.rules.lapCap = rules.lapCap := by
    rw [← hg, run_rules]
    rfl
  cases hph : g.phase with
  | waiting => exact absurd hph hp
  | playing =>
    obtain ⟨hround, -, htwo⟩ := hj.opened hph
    refine ⟨nofun, fun hd => ?_⟩
    rcases hd with hr | ⟨hone, hb⟩
    · exact absurd hround (UInt32.not_lt.mpr (hcap ▸ hr))
    · have hle := htwo hb
      omega
  | «over» =>
    obtain ⟨hd, hb⟩ := hj.closed hph
    refine ⟨fun _ => ?_, fun _ => rfl⟩
    rcases hd with hone | hr
    · exact .inr ⟨hone, hb⟩
    · exact .inl (hcap ▸ hr)

theorem over_run_of_ruin :
    ∃ g, (new {}).run [.join "ann", .join "bob", .join "cleo", .act 0 ({ · with money := -1 }),
        .act 1 ({ · with money := -1 })] = g ∧
      Rules.Valid {} ∧ g.phase ≠ .waiting ∧ g.phase = .over := by
  refine ⟨_, rfl, by decide, by decide +kernel, ?_⟩
  have hr : Rules.Valid {} := by decide
  exact (over_run_iff hr none _ rfl (by decide +kernel)).mpr (by decide +kernel)

/-- A ruined player keeps the turn while the last one who can pay is away, and the game goes on. -/
theorem playing_of_ruin_in_rest :
    ∃ g, (new {}).run [.join "ann", .join "bob", .join "cleo", .disconnect 2,
        .act 0 ({ · with money := -1 }), .act 1 ({ · with money := -1 })] = g ∧
      Rules.Valid {} ∧ g.phase ≠ .waiting ∧
      ¬ (g.phase = .over ↔ g.paying ≤ 1 ∨ g.rules.lapCap ≤ g.round) :=
  ⟨_, rfl, by decide +kernel⟩

end Rota.Game
