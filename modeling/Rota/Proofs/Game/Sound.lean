import Rota.Proofs.Game.Change

namespace Rota

theorem Rules.Valid.players_le {r : Rules} (h : r.Valid) :
    fewestPlayers ≤ r.minPlayers.toNat ∧ r.minPlayers.toNat ≤ r.maxPlayers.toNat ∧
      r.maxPlayers.toNat ≤ mostSeats := by
  unfold Valid fault? at h
  split_ifs at h with h1 h2
  rw [UInt64.lt_iff_toNat_lt] at h2
  omega

theorem Rules.Valid.lapCap_pos {r : Rules} (h : r.Valid) : 0 < r.lapCap.toNat := by
  unfold Valid fault? at h
  split_ifs at h with h1 h2 h3
  rw [← UInt32.toNat_inj] at h3
  exact Nat.pos_of_ne_zero h3

theorem Rules.Valid.startingMoney_pos {r : Rules} (h : r.Valid) : 0 < r.startingMoney := by
  unfold Valid fault? at h
  split_ifs at h with h1 h2 h3 h4
  exact Int64.not_le.mp h4

theorem Rules.Valid.atTable {r : Rules} (h : r.Valid) : r.atTable.Valid := by
  unfold Valid fault? at h
  split_ifs at h with h1 h2 h3 h4
  simp [Valid, fault?, Rules.atTable, h1, h2, h3, h4]

namespace Game

/-- What every step of a call keeps. -/
structure Coherent (g : Game) : Prop where
  rules : g.rules.Valid
  taken_le : g.taken ≤ g.rules.maxPlayers.toNat
  eligible : g.eligible.toNat = g.seats.countP fun s => s.connected && s.active
  active : ∀ i < g.taken, (g.seat i).active = !(g.seat i).bankrupt
  blank : ∀ i, g.taken ≤ i → g.seat i = {}
  current_lt : g.phase ≠ .waiting → g.current < g.taken
  winner_lt : ∀ w, g.winner = some w → w < g.taken
  winner_isSome : g.winner.isSome ↔ g.phase = .over
  waiting : g.phase = .waiting → g.round = 0 ∧ g.moves = 0 ∧ ∀ i, (g.seat i).bankrupt = false

namespace Coherent

variable {g : Game}

theorem taken_le_most (h : g.Coherent) : g.taken ≤ mostSeats :=
  Nat.le_trans h.taken_le h.rules.players_le.2.2

theorem current_lt_of_playing (h : g.Coherent) (hp : g.phase = .playing) :
    g.current < g.taken :=
  h.current_lt (by rw [hp]; nofun)

theorem eligible_le (h : g.Coherent) : g.eligible.toNat ≤ mostSeats := by
  rw [h.eligible]
  refine Nat.le_trans List.countP_le_length ?_
  rw [length_seats g h.taken_le_most]
  exact h.taken_le_most

theorem inPlay (h : g.Coherent) {i : Nat} (hi : i < g.taken) :
    (g.seat i).inPlay = (g.seat i).active := by
  have ha := h.active i hi
  unfold Seat.inPlay
  cases hb : (g.seat i).bankrupt <;> simp [ha, hb]

theorem seatNext (h : g.Coherent) (name : String) (hc : g.taken < g.capacity) :
    (g.seatNext name).Coherent := by
  have hm : g.taken < mostSeats := lt_most_of_lt_capacity hc
  have hs := seat_seatNext_self g name hm
  have ho {i : Nat} (hi : i ≠ g.taken) := seat_seatNext_of_ne g name hi
  refine ⟨h.rules, Nat.lt_of_lt_of_le hc (Nat.min_le_left _ _), ?_, ?_, ?_,
    fun hp => Nat.lt_succ_of_lt (h.current_lt hp),
    fun w hw => Nat.lt_succ_of_lt (h.winner_lt w hw), h.winner_isSome, ?_⟩
  · rw [countP_seats_seatNext g name _ hm]
    exact h.eligible
  · intro i hi
    have hi : i < g.taken + 1 := hi
    by_cases hit : i = g.taken
    · rw [hit, hs]
      rfl
    · rw [ho hit]
      exact h.active i (by omega)
  · intro i hi
    have hi : g.taken + 1 ≤ i := hi
    rw [ho (by omega)]
    exact h.blank i (by omega)
  · intro hp
    obtain ⟨hr, hm, hb⟩ := h.waiting hp
    refine ⟨hr, hm, fun i => ?_⟩
    by_cases hit : i = g.taken
    · rw [hit, hs]
      rfl
    · rw [ho hit, hb]

/-- A taken seat may change if the count goes along with it. -/
theorem modify (h : g.Coherent) {i : Nat} (hi : i < g.taken) (f : Seat → Seat) (e : UInt32)
    (ha : (f (g.seat i)).active = !(f (g.seat i)).bankrupt)
    (hb : g.phase = .waiting → (f (g.seat i)).bankrupt = false)
    (he : e.toNat + ((g.seat i).connected && (g.seat i).active).toNat =
      g.eligible.toNat + ((f (g.seat i)).connected && (f (g.seat i)).active).toNat) :
    Coherent { g.modifySeat i f with eligible := e } := by
  have hm := h.taken_le_most
  have hs : (g.modifySeat i f).seat i = f (g.seat i) := seat_modifySeat_self g f (by omega)
  have ho {j : Nat} (hj : j ≠ i) := seat_modifySeat_of_ne g f hj
  refine ⟨h.rules, h.taken_le, ?_, ?_, ?_, h.current_lt, h.winner_lt, h.winner_isSome, ?_⟩
  · have hc := countP_seats_modifySeat g (fun s => s.connected && s.active) f hi hm
    rw [← h.eligible] at hc
    exact Nat.add_right_cancel (he.trans hc.symm)
  · intro j hj
    by_cases hji : j = i
    · subst hji
      exact hs ▸ ha
    · exact ho hji ▸ h.active j hj
  · intro j hj
    have hj : g.taken ≤ j := hj
    exact (ho (by omega)).trans (h.blank j hj)
  · intro hp
    obtain ⟨hr, hv, hz⟩ := h.waiting hp
    refine ⟨hr, hv, fun j => ?_⟩
    by_cases hji : j = i
    · subst hji
      exact hs ▸ hb hp
    · exact ho hji ▸ hz j

/-- Nobody is counted out who has not been counted in. -/
theorem eligible_pos (h : g.Coherent) {i : Nat} (hi : i < g.taken) (hc : (g.seat i).connected)
    (ha : (g.seat i).active) : 0 < g.eligible.toNat := by
  rw [h.eligible, countP_seats g h.taken_le_most, List.countP_pos_iff]
  exact ⟨i, List.mem_range.mpr hi, by simp [hc, ha]⟩

theorem eligible_arrive (h : g.Coherent) (i : Nat) :
    (g.arrive i).eligible.toNat = g.eligible.toNat + (g.seat i).inPlay.toNat := by
  have hle : g.eligible.toNat ≤ 5 := h.eligible_le
  unfold Game.arrive
  cases (g.seat i).inPlay with
  | false => rfl
  | true =>
    simp only [if_true, Bool.toNat_true, UInt32.toNat_add, UInt32.reduceToNat]
    omega

theorem eligible_leave (h : g.Coherent) {i : Nat} (hi : i < g.taken)
    (hc : (g.seat i).connected) :
    (g.leave i).eligible.toNat + (g.seat i).inPlay.toNat = g.eligible.toNat := by
  have hle : g.eligible.toNat ≤ 5 := h.eligible_le
  unfold Game.leave
  cases hin : (g.seat i).inPlay with
  | false => rfl
  | true =>
    have hpos := h.eligible_pos hi hc (h.inPlay hi ▸ hin)
    simp only [if_true, Bool.toNat_true, UInt32.toNat_sub, UInt32.reduceToNat]
    omega

theorem arrive (h : g.Coherent) {i : Nat} (hi : i < g.taken) (hc : (g.seat i).connected = false) :
    (g.arrive i).Coherent := by
  have he := h.eligible_arrive i
  rw [h.inPlay hi] at he
  refine h.modify hi _ _ (h.active i hi) (fun hp => (h.waiting hp).2.2 i) ?_
  rw [hc, Bool.false_and, Bool.true_and]
  exact he

/-- A player who takes the next place is there at once. -/
theorem seatArrive (h : g.Coherent) (name : String) (hc : g.taken < g.capacity) :
    ((g.seatNext name).arrive g.taken).Coherent :=
  (h.seatNext name hc).arrive (Nat.lt_succ_self _)
    (connected_seatNext g name (lt_most_of_lt_capacity hc))

theorem leave (h : g.Coherent) {i : Nat} (hi : i < g.taken) (hc : (g.seat i).connected) :
    (g.leave i).Coherent := by
  have he := h.eligible_leave hi hc
  rw [h.inPlay hi] at he
  refine h.modify hi _ _ (h.active i hi) (fun hp => (h.waiting hp).2.2 i) ?_
  rw [hc, Bool.false_and, Bool.true_and]
  exact he

theorem putPurse (h : g.Coherent) {i : Nat} (hi : i < g.taken) (hp : g.phase = .playing)
    (p : Purse) : (g.putPurse i p).1.Coherent := by
  have hp : g.phase ≠ .waiting := by rw [hp]; nofun
  unfold Game.putPurse
  dsimp only
  split_ifs with hr hs
  · have hca : (g.seat i).connected = true ∧ (g.seat i).active = true := by simpa using hs
    have hpos := h.eligible_pos hi hca.1 hca.2
    have hle : g.eligible.toNat ≤ 5 := h.eligible_le
    refine h.modify hi _ _ rfl (fun hw => absurd hw hp) ?_
    simp only [hca, Seat.ruin, Bool.and_false, Bool.true_and, Bool.toNat_false, Bool.toNat_true,
      UInt32.toNat_sub, UInt32.reduceToNat]
    omega
  · refine h.modify hi _ _ rfl (fun hw => absurd hw hp) ?_
    simp [hs, Seat.ruin]
  · exact h.modify hi _ _ (h.active i hi) (fun hw => absurd hw hp) rfl

/-- Nothing is lost when only turns and signals of seats change and the turn goes to a seat. -/
theorem of_core {g' : Game} (h : g.Coherent) (hr : g'.rules = g.rules) (ht : g'.taken = g.taken)
    (he : g'.eligible = g.eligible) (hs : ∀ i, (g'.seat i).core = (g.seat i).core)
    (hb : ∀ i, g.taken ≤ i → g'.seat i = g.seat i) (hp : g'.phase ≠ .waiting)
    (hc : g'.current < g.taken) (hw : ∀ w, g'.winner = some w → w < g.taken)
    (ho : g'.winner.isSome ↔ g'.phase = .over) : g'.Coherent := by
  refine ⟨hr ▸ h.rules, hr ▸ ht ▸ h.taken_le, ?_, ?_, ?_, fun _ => ht ▸ hc,
    fun w hw' => ht ▸ hw w hw', ho, fun hp' => absurd hp' hp⟩
  · rw [he, h.eligible]
    refine (countP_seats_congr h.taken_le_most ht fun i _ => ?_).symm
    obtain ⟨hc, ha, -⟩ := Seat.of_core (hs i)
    rw [hc, ha]
  · intro i hi
    obtain ⟨-, ha, hz, -⟩ := Seat.of_core (hs i)
    rw [ha, hz]
    exact h.active i (ht ▸ hi)
  · intro i hi
    rw [hb i (ht ▸ hi)]
    exact h.blank i (ht ▸ hi)

theorem startWith (h : g.Coherent) {first : Nat} (hi : first < g.taken) (hp : g.phase ≠ .over) :
    (g.startWith first).Coherent := by
  refine h.of_core rfl rfl rfl (core_startWith g first)
    (fun _ hle => seat_startWith_of_le g hi hle) nofun hi h.winner_lt ⟨fun hs => ?_, nofun⟩
  exact absurd (h.winner_isSome.mp hs) hp

theorem elected (h : g.Coherent) {next : Nat} (hi : next < g.taken) (hp : g.phase = .playing) :
    (g.elected next).Coherent := by
  have hw : g.phase ≠ .waiting := by rw [hp]; nofun
  have hl := (g.handTo next).champion_lt h.taken_le_most (Nat.lt_of_le_of_lt (Nat.zero_le _) hi)
  refine h.of_core (elected_rules g next) (elected_taken g next) (elected_eligible g next)
    (core_elected g next) (fun _ hle => seat_elected_of_le g hi hle) ?_
    ((elected_current g next).symm ▸ hi) ?_ ?_
  · rw [elected_phase]
    split_ifs
    · nofun
    · exact hw
  · intro w he
    rw [elected_winner] at he
    split_ifs at he
    · exact Option.some.inj he ▸ hl
    · exact h.winner_lt w he
  · rw [elected_phase, elected_winner]
    split_ifs
    · simp
    · exact h.winner_isSome

theorem passed (h : g.Coherent) (hp : g.phase = .playing) : g.passed.Coherent := by
  rcases g.passed_cases hp with ⟨-, -, he⟩ | ⟨next, hn, -, he⟩
  · rw [he]
    exact h
  · rw [he]
    exact h.elected (g.eligible_next h.taken_le_most hn).1 hp

theorem startIfReady (h : g.Coherent) : g.startIfReady.1.Coherent := by
  rcases g.startIfReady_cases h.taken_le_most with ⟨he, -⟩ | ⟨first, hi, -, hp, -, he⟩
  · rw [he]
    exact h
  · rw [he]
    exact h.startWith hi (by rw [hp]; nofun)

theorem eligible_seat (h : g.Coherent) {i : Nat} (hi : i < g.taken) :
    (g.seat i).eligible = ((g.seat i).connected && (g.seat i).active) := by
  rw [Seat.eligible, h.inPlay hi]

/-- The count is zero just when nobody can be given the turn. -/
theorem eligible_eq_zero_iff (h : g.Coherent) :
    g.eligible.toNat = 0 ↔ ∀ i < g.taken, (g.seat i).eligible = false := by
  rw [h.eligible, countP_seats g h.taken_le_most, List.countP_eq_zero]
  constructor
  · intro hz i hi
    rw [h.eligible_seat hi]
    simpa using hz i (List.mem_range.mpr hi)
  · intro hz i hi
    rw [← h.eligible_seat (List.mem_range.mp hi), hz i (List.mem_range.mp hi)]
    nofun

end Coherent

/-- What holds of a game between calls. -/
structure Sound (g : Game) : Prop extends g.Coherent where
  short : g.phase = .waiting → g.eligible.toNat < g.rules.minPlayers.toNat

namespace Sound

variable {g : Game}

theorem of_startIfReady (h : g.Coherent) : g.startIfReady.1.Sound := by
  refine ⟨h.startIfReady, ?_⟩
  rcases g.startIfReady_cases h.taken_le_most with ⟨he, hn⟩ | ⟨first, -, -, -, -, he⟩
  · rw [he]
    intro hp
    by_contra hm
    have hz := h.eligible_eq_zero_iff.mpr (hn hp (by omega))
    have hf : 3 ≤ g.rules.minPlayers.toNat := h.rules.players_le.1
    omega
  · rw [he]
    nofun

theorem of_passed (h : g.Coherent) (hp : g.phase = .playing) : g.passed.Sound := by
  refine ⟨h.passed hp, fun hw => ?_⟩
  rcases g.passed_cases hp with ⟨-, -, he⟩ | ⟨next, -, -, he⟩
  · simp [he, hp] at hw
  · rw [he, elected_phase, hp] at hw
    split_ifs at hw

theorem leave (h : g.Sound) {i : Nat} (hi : i < g.taken) (hc : (g.seat i).connected) :
    (g.leave i).Sound := by
  refine ⟨h.toCoherent.leave hi hc, fun hp => Nat.lt_of_le_of_lt ?_ (h.short hp)⟩
  have he := h.eligible_leave hi hc
  omega

theorem change {c : Call} {a : Except Fault Done} {g' : Game} (h : g.Sound)
    (hc : g.Change c a g') : g'.Sound := by
  cases hc with
  | idle => exact h
  | join name hp hc =>
    exact of_startIfReady (h.seatArrive name hc)
  | connect i hp hi hc => exact of_startIfReady (h.arrive hi hc)
  | leave i hi hc ht => exact h.leave hi hc
  | yield i hi hc hp ht => exact of_passed (h.toCoherent.leave hi hc) hp
  | advance hp => exact of_passed h.toCoherent hp
  | act i move hp hi ht =>
    exact of_passed (h.putPurse hi hp _) ((putPurse_phase g i _).trans hp)

theorem perform (h : g.Sound) (c : Call) : (g.perform c).game.Sound := h.change (perform_change g c)

theorem run (h : g.Sound) (calls : List Call) : (g.run calls).Sound := by
  induction calls generalizing g with
  | nil => exact h
  | cons c calls ih => exact ih (h.perform c)

end Sound

theorem seat_new (rules : Rules) (saved : Option Score.Board) (i : Nat) :
    (new rules saved).seat i = {} := by
  by_cases hi : i < mostSeats
  · simp [new, setUp, blank, seat, Seat.lower, hi]
  · rw [seat_of_le _ (by omega)]

theorem sound_new {rules : Rules} (h : rules.Valid) (saved : Option Score.Board) :
    (new rules saved).Sound := by
  have hm : 3 ≤ rules.minPlayers.toNat := h.players_le.1
  refine ⟨⟨h.atTable, Nat.zero_le _, rfl, fun _ hi => absurd hi (Nat.not_lt_zero _),
    fun i _ => seat_new rules saved i, fun hp => absurd rfl hp, nofun, by simp [new, setUp, blank],
    fun _ => ⟨rfl, rfl, fun i => by rw [seat_new]⟩⟩, fun _ => ?_⟩
  change 0 < rules.minPlayers.toNat
  omega

theorem sound_run {rules : Rules} (h : rules.Valid) (saved : Option Score.Board)
    (calls : List Call) : ((new rules saved).run calls).Sound :=
  (sound_new h saved).run calls

/-- What holds of a fresh game and outlasts every call holds after any run. -/
theorem run_induction {P : Game → Prop} {rules : Rules} (h : rules.Valid)
    (saved : Option Score.Board) (hnew : P (new rules saved))
    (hstep : ∀ {g g' : Game} {c : Call} {a : Except Fault Done},
      g.Sound → P g → g.Change c a g' → P g')
    (calls : List Call) : P ((new rules saved).run calls) := by
  have hrun (g : Game) (hs : g.Sound) (hg : P g) : P (g.run calls) := by
    induction calls generalizing g with
    | nil => exact hg
    | cons c calls ih => exact ih _ (hs.perform c) (hstep hs hg (perform_change g c))
  exact hrun _ (sound_new h saved) hnew

end Game
end Rota
