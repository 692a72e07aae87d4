import Rota.Proofs.Game.Circuit
import Rota.Proofs.World.Keeping
import Rota.Proofs.World.Labels

namespace Rota.World

section tick

variable {w w' : World} {s : Station}

theorem run_tickUpTo_of_next {limit i : Nat}
    (h : (playAt s .advance).run.run w = (.ok (.turn (.next i)), w')) :
    (tickUpTo s (limit + 1)).run w =
      (((tickUpTo s limit).run w').1 + 1, ((tickUpTo s limit).run w').2) := by
  rw [tickUpTo, StateT.run_bind, h]
  rfl

theorem run_tickUpTo_of_over {limit i : Nat}
    (h : (playAt s .advance).run.run w = (.ok (.turn (.over i)), w')) :
    (tickUpTo s (limit + 1)).run w = (1, w') := by
  rw [tickUpTo, StateT.run_bind, h]
  rfl

/-- A ticker at a table where it is alone passes the turn on once an interval until the game is
over. -/
theorem run_tickUpTo {e : List Nat} {g : Game} {n : Nat} (h : g.Spinning e 0)
    (hn : e.length * g.rules.lapCap.toNat = n) (limit : Nat) {k : Nat} (hk : k < n)
    (hg : w.games.get? s.table.cell = some (g.spun k)) :
    ((tickUpTo s limit).run w).1 = min limit (n - k) ∧
      ((tickUpTo s limit).run w).2.games.get? s.table.cell =
        some (g.spun (k + min limit (n - k))) := by
  induction limit generalizing w k with
  | zero =>
    rw [Nat.zero_min, Nat.add_zero]
    exact ⟨rfl, hg⟩
  | succ limit ih =>
    obtain ⟨w', hw'⟩ : ∃ w', ((playAt s .advance).run.run w).2 = w' := ⟨_, rfl⟩
    have hanswer := (run_playAt .advance hg).1
    have hgame := get?_games_playAt hg .advance
    rw [(Game.perform_advance _).2, ← Game.spun_succ, hw'] at hgame
    by_cases hlast : k + 1 < n
    · rw [Game.answer_spun h hn hlast] at hanswer
      obtain ⟨hticks, hleft⟩ := ih hlast hgame
      rw [run_tickUpTo_of_next (Prod.ext hanswer hw')]
      refine ⟨?_, ?_⟩
      · dsimp only
        omega
      · rw [hleft]
        congr 2
        omega
    · obtain rfl : n = k + 1 := by omega
      obtain ⟨winner, hover⟩ := (Game.over_spun h hn (Nat.succ_pos k)).1
      rw [Nat.add_sub_cancel] at hover
      rw [hover] at hanswer
      rw [run_tickUpTo_of_over (Prod.ext hanswer hw')]
      have hone : min (limit + 1) (k + 1 - k) = 1 := by omega
      rw [hone]
      exact ⟨rfl, hgame⟩

/-- There is time for all passes of the turn. -/
theorem le_movesLeft {e : List Nat} {g : Game} (h : g.Spinning e 0) :
    e.length * g.rules.lapCap.toNat ≤ g.movesLeft := by
  have hround : g.round.toNat = 0 := by
    rw [h.turned.round, Nat.zero_div]
  have hlen : e.length ≤ mostSeats := by
    rw [← h.turned.circuit, Game.circuit]
    have hfilter := List.length_filter_le (fun i => (g.seat i).eligible) (List.range g.taken)
    rw [List.length_range] at hfilter
    exact Nat.le_trans hfilter h.sound.taken_le_most
  calc e.length * g.rules.lapCap.toNat
      ≤ mostSeats * (g.rules.lapCap.toNat - g.round.toNat + 1) :=
        Nat.mul_le_mul hlen (by omega)
    _ = g.movesLeft := Nat.mul_comm _ _

theorem run_tick {label : String} {serial : Nat} {e : List Nat} {g : Game} {n : Nat}
    (h : g.Spinning e 0) (hn : e.length * g.rules.lapCap.toNat = n) (hpos : 0 < n)
    (ho : w.objects.get? label = some (serial, .station s))
    (hg : w.games.get? s.table.cell = some g) :
    ((tick label).run.run w).1 = .ok n ∧
      ((tick label).run.run w).2.games.get? s.table.cell = some (g.spun n) := by
  have hgame : w.game s.table.cell = g := by rw [game, hg, Option.getD_some]
  have hrun : (tick label).run.run w =
      (.ok ((tickUpTo s g.movesLeft).run w).1, ((tickUpTo s g.movesLeft).run w).2) := by
    rw [tick, run_bind_of_ok (run_stationAt ho), run_bind_of_ok (run_get w)]
    dsimp only
    rw [hgame, if_pos h.phase]
    rfl
  obtain ⟨hticks, hleft⟩ := run_tickUpTo h hn g.movesLeft hpos hg
  have hmin : min g.movesLeft (n - 0) = n := by
    have hle := le_movesLeft h
    omega
  rw [hmin] at hticks hleft
  rw [hrun, hticks, hleft, Nat.zero_add]
  exact ⟨rfl, rfl⟩

end tick

/-- A game that has just started and in which nothing happens but that the turn is passed on goes
round the seats that can have it until the rounds are used up, one pass for each seat and round. A
ticker that is alone at the table passes the turn on just as often. -/
theorem rotation_afterAll {rules : Rules} (h : rules.Valid) (saved : Option Score.Board)
    (deeds : List Game.Deed) (c : Game.Call) {before g : Game}
    (hbefore : (Game.new rules saved).afterAll deeds = before) (hwait : before.phase = .waiting)
    (hg : (before.perform c).game = g) (hp : g.phase = .playing) {e : List Nat}
    (he : g.circuit = e) {n : Nat} (hn : e.length * rules.lapCap.toNat = n) :
    e.Pairwise (· < ·) ∧ (∀ i, i ∈ e ↔ i < g.taken ∧ (g.seat i).connected) ∧ 0 < n ∧
    (∀ k, k + 1 < n → ∃ i, e[(k + 1) % e.length]? = some i ∧
      ((g.spun k).perform .advance).answer = .ok (.turn (.next i))) ∧
    (∀ k < n, (g.spun k).phase = .playing ∧ e[k % e.length]? = some (g.spun k).current ∧
      (g.spun k).round.toNat = k / e.length ∧ (g.spun k).moves.toNat = k ∧
      ∀ j i, e[j]? = some i → ((g.spun k).seat i).turns.toNat = Game.visits e.length k j) ∧
    (∃ winner, ((g.spun (n - 1)).perform .advance).answer = .ok (.turn (.over winner))) ∧
    (g.spun n).phase = .over ∧ (g.spun n).round = rules.lapCap ∧
    (∀ k, n ≤ k → ((g.spun k).perform .advance).answer = .error .over) ∧
    ∀ (w : World) (label : String) (serial : Nat) (s : Station),
      w.objects.get? label = some (serial, .station s) →
      w.games.get? s.table.cell = some g →
      ((tick label).run.run w).1 = .ok n ∧
        ((tick label).run.run w).2.games.get? s.table.cell = some (g.spun n) ∧
        ∀ intervals, ((tickUpTo s intervals).run w).1 = min intervals n := by
  have hnew := Game.sound_new h saved
  have htnew := Game.Timely.new rules saved
  have hs : before.Sound := hbefore ▸ hnew.afterAll deeds
  have ht : before.Timely := hbefore ▸ htnew.afterAll hnew deeds
  have ha : before.Accounted := hbefore ▸ (Game.Accounted.new rules saved).afterAll hnew htnew deeds
  have hc := hg ▸ Game.perform_change before c
  have hrules : g.rules.lapCap = rules.lapCap := by
    rw [hc.rules, ← hbefore, Game.afterAll_rules hnew]
    rfl
  obtain ⟨hspin, hthere⟩ := Game.spinning_start hc hs ht ha hwait hp
  have hpairwise := g.pairwise_circuit
  rw [he] at hspin hthere hpairwise
  rw [← hrules] at hn
  have hcap := hs.rules.lapCap_pos
  rw [← hc.rules] at hcap
  have hpos : 0 < n := hn ▸ Nat.mul_pos hspin.length_pos hcap
  obtain ⟨hlast, hphase, hround⟩ := Game.over_spun hspin hn hpos
  refine ⟨hpairwise, hthere, hpos, ?_, ?_, hlast, hphase, hround.trans hrules, ?_, ?_⟩
  · intro k hk
    have hnext := (Game.spinning_spun hspin hn hk).1.turned.current
    exact ⟨_, hnext, Game.answer_spun hspin hn hk⟩
  · intro k hk
    obtain ⟨⟨hturned, hplay, -⟩, -⟩ := Game.spinning_spun hspin hn hk
    exact ⟨hplay, hturned.current, hturned.round, hturned.moves, hturned.turns⟩
  · intro k hk
    exact Game.error_spun hspin hn hpos hk
  · intro w label serial s ho hw
    obtain ⟨hticks, hleft⟩ := run_tick hspin hn hpos ho hw
    refine ⟨hticks, hleft, ?_⟩
    intro intervals
    exact (run_tickUpTo hspin hn intervals hpos hw).1

theorem rotation_afterAll_of_absent :
    ∃ before g, (Game.new { lapCap := 2 }).afterAll [.call (.join "ann"), .call (.join "bob"),
        .call (.disconnect 1), .call (.join "cleo")] = before ∧
      (before.perform (.join "dan")).game = g ∧
      Rules.Valid { lapCap := 2 } ∧ before.phase = .waiting ∧ g.phase = .playing ∧
      g.circuit = [0, 2, 3] ∧ [0, 2, 3].length * (2 : UInt32).toNat = 6 ∧
      ((g.spun 3).perform .advance).answer = .ok (.turn (.next 2)) ∧
      ((g.spun 4).seat 2).turns.toNat = 2 ∧ (g.spun 6).round = 2 ∧
      ((tick "h").run.run
        { games := Register.set {} 0 g
          objects := Register.set {} "h" (1, .station { table := ⟨"t", 0, 816⟩ }) }).1 =
        .ok 6 := by
  have hr : Rules.Valid { lapCap := 2 } := by decide
  obtain ⟨-, -, -, hanswer, hstate, -, -, hround, -, htick⟩ :=
    rotation_afterAll hr none [.call (.join "ann"), .call (.join "bob"), .call (.disconnect 1),
      .call (.join "cleo")] (.join "dan") rfl (by decide +kernel) rfl (by decide +kernel)
      (e := [0, 2, 3]) (by decide +kernel) (n := 6) (by decide)
  refine ⟨_, _, rfl, rfl, hr, by decide +kernel, by decide +kernel, by decide +kernel, by decide,
    ?_, ?_, hround, ?_⟩
  · obtain ⟨i, hi, ha⟩ := hanswer 3 (by decide)
    obtain rfl : i = 2 := Option.some.inj (hi.symm.trans (by decide))
    exact ha
  · exact ((hstate 4 (by decide)).2.2.2.2 1 2 (by decide)).trans (by decide)
  · exact (htick _ "h" 1 { table := ⟨"t", 0, 816⟩ } rfl rfl).1

end Rota.World
