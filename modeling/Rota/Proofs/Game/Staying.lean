import Rota.Proofs.Game.Accounting
import Rota.Proofs.Game.Ending

namespace Rota.Game

/-- Calls that take no player away. -/
def Call.Stays : Call → Prop
  | .disconnect _ => False
  | _ => True

theorem Call.Stays.not_yields {c : Call} (h : c.Stays) {g : Game} : ¬ g.Yields c := by
  intro hy
  cases c with
  | disconnect i => exact h
  | join name => exact hy
  | connect i => exact hy
  | advance => exact hy
  | act i move => exact hy

/-- Everyone is there, and the turn lies with a player who can pay. -/
structure Manned (g : Game) : Prop where
  present : ∀ i < g.taken, (g.seat i).connected
  solvent : g.phase = .playing → (g.seat g.current).bankrupt = false

/-- Where everyone is there, whoever can pay can be given the turn. -/
theorem eligible_of_present {g : Game} (h : g.Coherent)
    (hall : ∀ i < g.taken, (g.seat i).connected) {i : Nat} (hi : i < g.taken)
    (hb : (g.seat i).bankrupt = false) : (g.seat i).eligible := by
  have hactive := h.active i hi
  rw [hb] at hactive
  simp [Seat.eligible, Seat.inPlay, hall i hi, hactive, hb]

theorem solvent_of_eligible {s : Seat} (h : s.eligible) : s.bankrupt = false := by
  simp only [Seat.eligible, Seat.inPlay, Bool.and_eq_true, Bool.not_eq_true'] at h
  exact h.2.2

theorem exists_next {g : Game} (h : g.Coherent) (hall : ∀ i < g.taken, (g.seat i).connected)
    (hpos : 0 < g.paying) : ∃ next, nextSeat? g.seats g.current = some next := by
  have hm := h.taken_le_most
  rw [← Option.ne_none_iff_exists', Ne, g.next_eq_none_iff hm]
  intro hnone
  rw [paying, countP_seats g hm, List.countP_pos_iff] at hpos
  obtain ⟨i, hi, hb⟩ := hpos
  have hi := List.mem_range.mp hi
  have hel := eligible_of_present h hall hi (by simpa using hb)
  exact Bool.false_ne_true ((hnone i hi).symm.trans hel)

/-- The turn is passed on as long as somebody can pay, and comes to a player who can. -/
theorem passed_of_present {g : Game} (h : g.Coherent) (hp : g.phase = .playing)
    (hall : ∀ i < g.taken, (g.seat i).connected) (hpos : 0 < g.paying) :
    (∃ t, g.handed = .ok (.turn t)) ∧ g.passed.Manned := by
  obtain ⟨next, hn⟩ := exists_next h hall hpos
  rcases g.passed_cases hp with ⟨hnone, -⟩ | ⟨next', hn', ha, he⟩
  · exact absurd (hn.symm.trans hnone) nofun
  · have hel := (g.eligible_next h.taken_le_most hn').2
    refine ⟨⟨_, ha⟩, ?_⟩
    rw [he]
    refine ⟨fun i hi => ?_, fun _ => ?_⟩
    · rw [elected_taken] at hi
      rw [(Seat.of_core (core_elected g next' i)).1]
      exact hall i hi
    · rw [elected_current, (Seat.of_core (core_elected g next' next')).2.2.1]
      exact solvent_of_eligible hel

theorem present_seatArrive {g : Game} (h : ∀ i < g.taken, (g.seat i).connected) (name : String)
    (hc : g.taken < mostSeats) :
    ∀ i < g.taken + 1, (((g.seatNext name).arrive g.taken).seat i).connected := by
  intro i hi
  by_cases hit : i = g.taken
  · rw [hit, seat_arrive_self _ hc]
  · rw [seat_arrive_of_ne _ hit, seat_seatNext_of_ne g name hit]
    exact h i (by omega)

theorem Manned.startIfReady {g : Game} (h : g.Manned) (hm : g.taken ≤ mostSeats) :
    g.startIfReady.1.Manned := by
  rcases g.startIfReady_cases hm with ⟨he, -⟩ | ⟨first, hi, hel, -, -, he⟩
  · rw [he]
    exact h
  · rw [he]
    refine ⟨fun i hi => ?_, fun _ => ?_⟩
    · rw [(Seat.of_core (core_startWith g first i)).1]
      exact h.present i hi
    · have hcore := core_startWith g first first
      exact (Seat.of_core hcore).2.2.1.trans (solvent_of_eligible hel)

theorem connected_putPurse (g : Game) (i : Nat) (p : Purse) (j : Nat) :
    ((g.putPurse i p).1.seat j).connected = (g.seat j).connected := by
  unfold putPurse
  dsimp only
  split_ifs
  · exact seat_modifySeat_congr (f := fun s => (s.setPurse p).ruin) Seat.connected g i
      (fun _ => rfl) j
  · exact seat_modifySeat_congr (f := fun s => (s.setPurse p).ruin) Seat.connected g i
      (fun _ => rfl) j
  · exact seat_modifySeat_congr (f := (·.setPurse p)) Seat.connected g i (fun _ => rfl) j

/-- A move of the seat whose turn it is passes the turn on, even if it ruins the seat. -/
theorem Manned.putPurse {g : Game} (h : g.Manned) (hs : g.Sound) (hj : g.Judged)
    (hp : g.phase = .playing) {i : Nat} (hi : i < g.taken) (ht : g.current = i) (p : Purse) :
    (∃ t, (g.putPurse i p).1.handed = .ok (.turn t)) ∧ (g.putPurse i p).1.passed.Manned := by
  have ho := open_putPurse (hj.opened hp) ht hi hs.taken_le_most p
  refine passed_of_present (hs.putPurse hi hp p) ((putPurse_phase g i p).trans hp) ?_ ho.paying_pos
  intro j hj
  rw [putPurse_taken] at hj
  rw [connected_putPurse]
  exact h.present j hj

theorem Manned.change {g g' : Game} {c : Call} {a : Except Fault Done} (h : g.Manned)
    (hs : g.Sound) (hj : g.Judged) (hstay : c.Stays) (hc : g.Change c a g') : g'.Manned := by
  cases hc with
  | idle => exact h
  | join name hp hc =>
    have hm := lt_most_of_lt_capacity hc
    refine Manned.startIfReady ⟨present_seatArrive h.present name hm, fun hp => ?_⟩ hm
    have hne : g.current ≠ g.taken := Nat.ne_of_lt (hs.current_lt_of_playing hp)
    change (((g.seatNext name).arrive g.taken).seat g.current).bankrupt = false
    rw [seat_arrive_of_ne _ hne, seat_seatNext_of_ne g name hne]
    exact h.solvent hp
  | connect i hp hi hc => exact absurd (hc.symm.trans (h.present i hi)) Bool.false_ne_true
  | leave => exact hstay.elim
  | yield => exact hstay.elim
  | advance hp =>
    exact (passed_of_present hs.toCoherent hp h.present (hj.opened hp).paying_pos).2
  | act i move hp hi ht => exact (h.putPurse hs hj hp hi ht _).2

theorem Manned.act {g : Game} (h : g.Manned) (hs : g.Sound) (hj : g.Judged)
    (hp : g.phase = .playing) (move : Purse → Purse) :
    ∃ t, (g.perform (.act g.current move)).answer = .ok (.turn t) := by
  have hi := hs.current_lt_of_playing hp
  have hc := perform_change g (.act g.current move)
  generalize (g.perform (.act g.current move)).answer = a at hc ⊢
  generalize (g.perform (.act g.current move)).game = g' at hc
  cases hc with
  | idle hidle =>
    rcases hidle with hn | hn | hn
    · exact absurd hp hn
    · omega
    · exact absurd rfl hn
  | act i move hp hi ht => exact (h.putPurse hs hj hp hi ht _).1

/-- The winner of a game that is over is the one who was chosen. -/
def Crowned (g : Game) : Prop := g.phase = .over → ∃ w, g.winner = some w ∧ g.Wins w

theorem Crowned.change {g g' : Game} {c : Call} {a : Except Fault Done} (h : g.Crowned)
    (hs : g.Sound) (hc : g.Change c a g') : g'.Crowned := by
  intro ho
  by_cases hp : g.phase = .over
  · obtain ⟨w, hw, hwins⟩ := h hp
    have hset := settled_change hp hc
    have hb (i : Nat) : (g'.seat i).bankrupt = (g.seat i).bankrupt := (hset.seats i).2.2.1
    have hbalance : g'.balance = g.balance := funext fun i => (hset.seats i).1
    exact ⟨w, hset.winner.trans hw, hwins.congr hs.taken_le_most hset.taken hb hbalance⟩
  · exact wins_change hs hp ho hc

/-- What holds of a game that nobody has left. -/
structure Attended (g : Game) : Prop where
  sound : g.Sound
  timely : g.Timely
  accounted : g.Accounted
  manned : g.Manned
  frank : g.Frank
  crowned : g.Crowned

namespace Attended

variable {g : Game}

theorem perform (h : g.Attended) {c : Call} (hstay : c.Stays) : (g.perform c).game.Attended := by
  have hc := perform_change g c
  have hno : ¬ g.Relapses c := by
    intro hr
    cases c with
    | act i move =>
      obtain ⟨hp, rfl, -, hb⟩ := hr
      exact Bool.false_ne_true ((h.manned.solvent hp).symm.trans hb)
    | join name => exact hr
    | connect i => exact hr
    | disconnect i => exact hr
    | advance => exact hr
  exact {
    sound := h.sound.change hc
    timely := h.timely.change h.sound hc
    accounted := h.accounted.change h.sound h.timely hc
    manned := h.manned.change h.sound h.timely.judged hstay hc
    frank := frank_change h.sound h.frank hno hc
    crowned := h.crowned.change h.sound hc }

theorem run (h : g.Attended) {calls : List Call} (hstay : ∀ c ∈ calls, c.Stays) :
    (g.run calls).Attended := by
  induction calls generalizing g with
  | nil => exact h
  | cons c calls ih =>
    rw [List.forall_mem_cons] at hstay
    exact ih (h.perform hstay.1) hstay.2

theorem new {rules : Rules} (h : rules.Valid) (saved : Option Score.Board) :
    (new rules saved).Attended where
  sound := sound_new h saved
  timely := .new rules saved
  accounted := .new rules saved
  manned := ⟨fun _ hi => absurd hi (Nat.not_lt_zero _), nofun⟩
  frank _ hi := absurd hi (Nat.not_lt_zero _)
  crowned := nofun

/-- Only the calls that report the turn as passed on count a move. -/
theorem moves_perform (h : g.Attended) {c : Call} (hstay : c.Stays) :
    (g.perform c).game.moves.toNat =
      g.moves.toNat + (turnIn? (g.perform c).answer).toList.length := by
  have hover := handsOver_iff h.sound c
  rw [HandsOver, or_iff_left hstay.not_yields] at hover
  have hc := (perform_change g c).gives h.sound
  have hcounts :=
    hc.counts h.sound.toCoherent h.timely.judged.inRounds h.accounted.no_overflow
  cases ht : turnIn? (g.perform c).answer with
  | none =>
    rw [ht] at hover
    have hsame : (g.perform c).game.moves = g.moves := by simpa using hover
    rw [hsame]
    rfl
  | some t =>
    rw [ht] at hover
    rcases hcounts with ⟨hm, -⟩ | ⟨-, -, hm, -⟩
    · exact absurd hm (hover.mp rfl)
    · exact hm

theorem moves_run (h : g.Attended) {calls : List Call} (hstay : ∀ c ∈ calls, c.Stays) :
    (g.run calls).moves.toNat =
      g.moves.toNat + ((g.answers calls).filterMap turnIn?).length := by
  induction calls generalizing g with
  | nil => rfl
  | cons c calls ih =>
    rw [List.forall_mem_cons] at hstay
    have hone := h.moves_perform hstay.1
    have hrest := ih (h.perform hstay.1) hstay.2
    rw [run_cons, hrest, hone, answers, List.filterMap_cons]
    cases turnIn? (g.perform c).answer with
    | none => simp
    | some t => simp [Nat.add_assoc, Nat.add_comm 1]

/-- The rounds last for so many moves and no more. -/
theorem over_of_moves (h : g.Attended) (hp : g.phase ≠ .waiting)
    (hm : mostSeats * g.rules.lapCap.toNat ≤ g.moves.toNat) : g.phase = .over := by
  cases hph : g.phase with
  | waiting => exact absurd hph hp
  | playing =>
    have hlt := h.accounted.moves_lt h.timely hph
    omega
  | «over» => rfl

end Attended

theorem Gives.phase_ne_waiting {g g' : Game} {x : Option Nat} (h : g.Gives x g')
    (hp : g.phase ≠ .waiting) : g'.phase ≠ .waiting := by
  cases h with
  | nobody hc hs =>
    rw [hs.phase]
    exact hp
  | start => nofun
  | pass hc hs hpl ho hn => exact (Gives.pass hc hs hpl ho hn).current.2

/-- The game once the seat whose turn it is has made a move, over and over. -/
def playOut (g : Game) : List (Purse → Purse) → Game
  | [] => g
  | move :: moves => (g.perform (.act g.current move)).game.playOut moves

theorem playOut_of_over {g : Game} (hp : g.phase = .over) (moves : List (Purse → Purse)) :
    (g.playOut moves).phase = .over := by
  induction moves generalizing g with
  | nil => exact hp
  | cons move moves ih =>
    have hset := settled_change hp (perform_change g (.act g.current move))
    exact ih (hset.phase.trans hp)

theorem Attended.over_playOut {g : Game} (h : g.Attended) (hp : g.phase ≠ .waiting)
    (moves : List (Purse → Purse))
    (hm : mostSeats * g.rules.lapCap.toNat ≤ g.moves.toNat + moves.length) :
    (g.playOut moves).phase = .over := by
  induction moves generalizing g with
  | nil => exact h.over_of_moves hp hm
  | cons move moves ih =>
    by_cases hover : g.phase = .over
    · exact playOut_of_over hover _
    · have hplay : g.phase = .playing := by
        cases hph : g.phase with
        | waiting => exact absurd hph hp
        | playing => rfl
        | «over» => exact absurd hph hover
      have hc := perform_change g (.act g.current move)
      have hnext := (hc.gives h.sound).phase_ne_waiting hp
      obtain ⟨t, ht⟩ := h.manned.act h.sound h.timely.judged hplay move
      have hmoves := h.moves_perform (c := .act g.current move) trivial
      have hone : (turnIn? (g.perform (.act g.current move)).answer).toList.length = 1 := by
        rw [ht]
        rfl
      refine ih (h.perform trivial) hnext ?_
      rw [hc.rules, hmoves, hone]
      rw [List.length_cons] at hm
      omega

/-- A game that nobody leaves goes on until it is over: the seat whose turn it is can always move,
and after as many moves as the rounds have turns the game is over. The winner can pay, and has the
most money of all players if another can pay too. -/
theorem finished_run {rules : Rules} (h : rules.Valid) (saved : Option Score.Board)
    (calls : List Call) (hstay : ∀ i, .disconnect i ∉ calls) {g : Game}
    (hg : (new rules saved).run calls = g) (hp : g.phase ≠ .waiting) :
    (g.phase = .playing → ∀ move, ∃ t, (g.perform (.act g.current move)).answer = .ok (.turn t)) ∧
    (mostSeats * rules.lapCap.toNat ≤
        (((new rules saved).answers calls).filterMap turnIn?).length → g.phase = .over) ∧
    (∀ moves : List (Purse → Purse),
      mostSeats * rules.lapCap.toNat ≤ moves.length → (g.playOut moves).phase = .over) ∧
    (g.phase = .over → ∃ w, g.winner = some w ∧ w < g.taken ∧ (g.seat w).bankrupt = false ∧
      (2 ≤ g.paying → ∀ i < g.taken, i ≠ w → Outranks g.balance w i)) := by
  have hstays : ∀ c ∈ calls, c.Stays := by
    intro c hc
    cases c with
    | disconnect i => exact hstay i hc
    | join name => trivial
    | connect i => trivial
    | advance => trivial
    | act i move => trivial
  have hnew := Attended.new h saved
  have hat : g.Attended := hg ▸ hnew.run hstays
  have hcap : g.rules.lapCap = rules.lapCap := by
    rw [← hg, run_rules]
    rfl
  have hmoves : g.moves.toNat = (((new rules saved).answers calls).filterMap turnIn?).length := by
    have hrun := hnew.moves_run hstays
    rw [hg] at hrun
    exact hrun.trans (Nat.zero_add _)
  refine ⟨fun hplay move => hat.manned.act hat.sound hat.timely.judged hplay move, fun hm => ?_,
    fun moves hm => ?_, fun ho => ?_⟩
  · apply hat.over_of_moves hp
    rw [hcap, hmoves]
    exact hm
  · apply hat.over_playOut hp
    rw [hcap]
    omega
  · obtain ⟨w, hw, hwins⟩ := hat.crowned ho
    have hcurrent := hat.sound.current_lt hp
    have hordered := hat.frank.ordered hcurrent (hat.timely.judged.closed ho).solvent
    have hdeserves := (hwins.deserves_iff hat.sound.taken_le_most).mpr (.inr hordered)
    exact ⟨w, hw, hwins.lt, hdeserves.2.1, fun htwo => (hwins.richest (by omega)).2⟩

theorem finished_run_of_ruin :
    ∃ g, (new { lapCap := 1 }).run [.join "ann", .join "bob", .join "cleo",
        .act 0 ({ · with money := -1 }), .join "dan"] = g ∧ Rules.Valid { lapCap := 1 } ∧
      g.phase = .playing ∧ g.current = 1 ∧
      (∃ t, (g.perform (.act g.current ({ · with money := -5 }))).answer = .ok (.turn t)) ∧
      (g.playOut [id, id, id, id, ({ · with money := 3 })]).phase = .over := by
  have hr : Rules.Valid { lapCap := 1 } := by decide
  obtain ⟨hmove, -, hout, -⟩ := finished_run hr none [.join "ann", .join "bob", .join "cleo",
    .act 0 ({ · with money := -1 }), .join "dan"] (by simp) rfl (by decide +kernel)
  exact ⟨_, rfl, hr, by decide +kernel, by decide +kernel, hmove (by decide +kernel) _,
    hout [id, id, id, id, ({ · with money := 3 })] (by decide)⟩

end Rota.Game
