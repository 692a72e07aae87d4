import Rota.Proofs.Game.Sound
import Rota.Proofs.World.Keeps

namespace Rota.World

theorem run_lockedGame {w : World} {cell : Nat} {g : Game} (hg : w.games.get? cell = some g) :
    (lockedGame cell).run.run w = (.ok g, w) := by
  have hget : (get : Act World).run.run w = (.ok w, w) := rfl
  rw [lockedGame, ExceptT.run_bind, StateT.run_bind, hget]
  simp only [bind, hg]
  rfl

theorem run_lockedGame_of_none {w : World} {cell : Nat} (hg : w.games.get? cell = none) :
    (lockedGame cell).run.run w = (.error (.table (.uninitialised .mutex)), w) := by
  rw [lockedGame, run_bind_of_ok (run_get w), hg]
  rfl

/-- A call at a station whose table is set up is a call on the game of that table, and what follows
it. -/
theorem run_playAt_eq {w : World} {s : Station} {g : Game} (c : Game.Call)
    (hg : w.games.get? s.table.cell = some g) :
    (playAt s c).run.run w =
      ((g.perform c).answer.mapError (.table ∘ .game),
        ((follow s (g.perform c)).run
          { w with games := w.games.set s.table.cell (g.perform c).game }).2) := by
  have hp : (playAt s c).run.run w =
      (ofGame (g.perform c).answer).run.run
        ((follow s (g.perform c)).run
          { w with games := w.games.set s.table.cell (g.perform c).game }).2 := by
    unfold playAt
    rw [ExceptT.run_bind, StateT.run_bind, run_lockedGame hg]
    rfl
  rw [hp]
  cases (g.perform c).answer <;> rfl

theorem run_playAt {w : World} {s : Station} {g : Game} (c : Game.Call)
    (hg : w.games.get? s.table.cell = some g) :
    ((playAt s c).run.run w).1 = (g.perform c).answer.mapError (.table ∘ .game) ∧
      ((playAt s c).run.run w).2.games = w.games.set s.table.cell (g.perform c).game := by
  rw [run_playAt_eq c hg]
  exact ⟨rfl, keeps_follow s (g.perform c) _⟩

/-- Plays calls one after the other, each at a station of its own. -/
def playAll : List (Station × Game.Call) → StateM World (List (Except Fault Game.Done))
  | [] => return []
  | (s, c) :: plays => do
    let a ← (playAt s c).run
    return a :: (← playAll plays)

/-- However many stations a table has, calls at them are one run of its game. -/
theorem run_playAll {cell : Nat} (plays : List (Station × Game.Call))
    (hs : ∀ p ∈ plays, p.1.table.cell = cell) {w : World} {g : Game}
    (hg : w.games.get? cell = some g) :
    ((playAll plays).run w).1 =
        (g.answers (plays.map Prod.snd)).map (Except.mapError (.table ∘ .game)) ∧
      ((playAll plays).run w).2.games.get? cell = some (g.run (plays.map Prod.snd)) := by
  induction plays generalizing w g with
  | nil => exact ⟨rfl, hg⟩
  | cons p plays ih =>
    obtain ⟨s, c⟩ := p
    have hc : s.table.cell = cell := hs (s, c) List.mem_cons_self
    obtain ⟨ha, hw⟩ := run_playAt c (hc ▸ hg)
    have hn : ((playAt s c).run.run w).2.games.get? cell = some (g.perform c).game := by
      rw [hw, hc, Register.get?_set_self]
    obtain ⟨hr, hl⟩ := ih (fun p hp => hs p (List.mem_cons_of_mem _ hp)) hn
    refine ⟨?_, hl⟩
    change ((playAt s c).run.run w).1 :: ((playAll plays).run ((playAt s c).run.run w).2).1 = _
    rw [ha, hr]
    rfl

/-- Sets a table up in fresh memory and plays calls at it. -/
def setUpAndPlay (cell : Nat) (rules : Rules) (saved : Option Score.Board)
    (plays : List (Station × Game.Call)) : StateM World (List (Except Fault Game.Done)) := do
  setUpTable cell rules saved
  playAll plays

theorem get?_games_setUpTable {w : World} {cell : Nat} (hw : w.games.get? cell = none)
    (rules : Rules) (saved : Option Score.Board) :
    ((setUpTable cell rules saved).run w).2.games.get? cell = some (Game.new rules saved) := by
  change (w.games.set cell (((w.games.get? cell).getD .blank).setUp rules saved)).get? cell = _
  rw [hw, Register.get?_set_self]
  rfl

theorem game_setUpAndPlay {w : World} {cell : Nat} (hw : w.games.get? cell = none)
    (rules : Rules) (saved : Option Score.Board) {plays : List (Station × Game.Call)}
    (hs : ∀ p ∈ plays, p.1.table.cell = cell) :
    ((setUpAndPlay cell rules saved plays).run w).2.games.get? cell =
        some ((Game.new rules saved).run (plays.map Prod.snd)) ∧
      ((setUpAndPlay cell rules saved plays).run w).1.filterMap Game.seatIn? =
        List.range ((Game.new rules saved).run (plays.map Prod.snd)).taken := by
  obtain ⟨ha, hl⟩ := run_playAll plays hs (get?_games_setUpTable hw rules saved)
  have hm : Game.seatIn? ∘ Except.mapError (Fault.table ∘ Table.Fault.game) = Game.seatIn? :=
    funext fun a => Game.seatIn?_mapError _ a
  refine ⟨hl, ?_⟩
  change ((playAll plays).run
    ((setUpTable cell rules saved).run w).2).1.filterMap Game.seatIn? = _
  rw [ha, List.filterMap_map, hm, Game.range_taken_run]
  rfl

/-- What holds of the game of a table after any calls at any of its stations, refused ones
included. -/
theorem setUpAndPlay_coherent {rules : Rules} (hr : rules.Valid) (saved : Option Score.Board)
    {w : World} {cell : Nat} (hw : w.games.get? cell = none)
    {plays : List (Station × Game.Call)} (hs : ∀ p ∈ plays, p.1.table.cell = cell) :
    ∃ g, ((setUpAndPlay cell rules saved plays).run w).2.games.get? cell = some g ∧
      (g.taken ≤ rules.maxPlayers.toNat ∧ rules.maxPlayers.toNat ≤ mostSeats) ∧
      ((setUpAndPlay cell rules saved plays).run w).1.filterMap Game.seatIn? =
        List.range g.taken ∧
      g.eligible.toNat = (g.seats.countP fun s => s.connected && s.active) ∧
      (∀ i < g.taken, (g.seat i).connected → (g.seat i).active → 0 < g.eligible.toNat) ∧
      (∀ i, (g.seat i).active ↔ i < g.taken ∧ (g.seat i).bankrupt = false) ∧
      (∀ i, g.taken ≤ i → g.seat i = {}) ∧
      (g.phase = .waiting → g.eligible.toNat < rules.minPlayers.toNat ∧ g.round = 0 ∧
        g.moves = 0 ∧ ∀ i, (g.seat i).bankrupt = false) ∧
      (g.phase ≠ .waiting → g.current < g.taken) ∧
      (∀ i, g.winner = some i → i < g.taken) ∧
      (g.winner.isSome ↔ g.phase = .over) := by
  obtain ⟨hg, ha⟩ := game_setUpAndPlay hw rules saved hs
  have h := Game.sound_run hr saved (plays.map Prod.snd)
  have hrules : ((Game.new rules saved).run (plays.map Prod.snd)).rules = rules.atTable :=
    Game.run_rules _ _
  generalize (Game.new rules saved).run (plays.map Prod.snd) = g at *
  have hmax : g.rules.maxPlayers = rules.maxPlayers := by rw [hrules]; rfl
  have hmin : g.rules.minPlayers = rules.minPlayers := by rw [hrules]; rfl
  refine ⟨g, hg, ⟨hmax ▸ h.taken_le, hr.players_le.2.2⟩, ha, h.eligible,
    fun i hi hc ha => h.eligible_pos hi hc ha, fun i => ⟨fun ha => ?_, fun ⟨hi, hb⟩ => ?_⟩,
    h.blank, fun hp => ⟨hmin ▸ h.short hp, h.waiting hp⟩, h.current_lt, h.winner_lt,
    h.winner_isSome⟩
  · have hi : i < g.taken := by
      by_contra hn
      rw [h.blank i (by omega)] at ha
      exact Bool.false_ne_true ha
    rw [h.active i hi] at ha
    exact ⟨hi, by simpa using ha⟩
  · rw [h.active i hi, hb]
    rfl

theorem setUpAndPlay_coherent_two_stations :
    Rules.Valid {} ∧ ({} : World).games.get? 0 = none ∧
      ∃ g, ((setUpAndPlay 0 {} none
          [({ table := ⟨"t", 0, 816⟩ }, .join "ann"), ({ table := ⟨"/t", 0, 816⟩ }, .join "bob"),
            ({ table := ⟨"t", 0, 816⟩ }, .connect 7)]).run {}).2.games.get? 0 = some g ∧
        List.range g.taken = [0, 1] ∧ ∀ i, 2 ≤ i → g.seat i = {} := by
  have hr : Rules.Valid {} := by decide
  have hw : ({} : World).games.get? 0 = none := rfl
  have hs : ∀ p ∈ ([({ table := ⟨"t", 0, 816⟩ }, .join "ann"),
      ({ table := ⟨"/t", 0, 816⟩ }, .join "bob"), ({ table := ⟨"t", 0, 816⟩ }, .connect 7)] :
        List (Station × Game.Call)), p.1.table.cell = 0 := by simp
  obtain ⟨g, hg, -, ha, -, -, -, hb, -⟩ := setUpAndPlay_coherent hr none hw hs
  have ht : List.range g.taken = [0, 1] := ha.symm.trans (by decide +kernel)
  have hl := congrArg List.length ht
  rw [List.length_range] at hl
  exact ⟨hr, hw, g, hg, ht, fun i hi => hb i (hl ▸ hi)⟩

end Rota.World
