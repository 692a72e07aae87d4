import Rota.Proofs.Game.Giving
import Rota.Proofs.Game.History
import Rota.Proofs.Game.Winner

namespace Rota

namespace Score

theorem Entry.wins_count (e : Entry) (p : Prop) [Decidable p] :
    (e.count p).wins = e.wins + if p then 1 else 0 := by
  by_cases hp : p <;> simp [count, hp]

namespace Sheet

variable (t : Sheet) (seats winner : Nat) (i : Fin mostSeats)

theorem games_count :
    ((t.count seats winner).entries.get i).games =
      (t.entries.get i).games + if i.val < seats then 1 else 0 := by
  rw [get_count]
  split_ifs
  · rfl
  · exact (UInt32.add_zero _).symm

theorem wins_count (h : winner < seats) :
    ((t.count seats winner).entries.get i).wins =
      (t.entries.get i).wins + if i.val = winner then 1 else 0 := by
  rw [get_count]
  by_cases hi : i.val < seats
  · rw [if_pos hi, Entry.wins_count]
  · rw [if_neg hi, if_neg (by omega), UInt32.add_zero]

end Sheet
end Score

namespace Game

/-- What a game that is over holds for good. -/
structure Settled (g g' : Game) : Prop where
  phase : g'.phase = g.phase
  winner : g'.winner = g.winner
  current : g'.current = g.current
  round : g'.round = g.round
  moves : g'.moves = g.moves
  taken : g'.taken = g.taken
  scores : g'.scores = g.scores
  seats : ∀ i, (g'.seat i).money = (g.seat i).money ∧ (g'.seat i).position = (g.seat i).position ∧
    (g'.seat i).bankrupt = (g.seat i).bankrupt ∧ (g'.seat i).active = (g.seat i).active ∧
    (g'.seat i).turns = (g.seat i).turns

namespace Settled

variable {g h k : Game}

theorem refl (g : Game) : g.Settled g :=
  ⟨rfl, rfl, rfl, rfl, rfl, rfl, rfl, fun _ => ⟨rfl, rfl, rfl, rfl, rfl⟩⟩

theorem trans (hg : g.Settled h) (hk : h.Settled k) : g.Settled k := by
  refine ⟨hk.phase.trans hg.phase, hk.winner.trans hg.winner, hk.current.trans hg.current,
    hk.round.trans hg.round, hk.moves.trans hg.moves, hk.taken.trans hg.taken,
    hk.scores.trans hg.scores, fun i => ?_⟩
  obtain ⟨hm, hp, hb, ha, ht⟩ := hg.seats i
  obtain ⟨hm', hp', hb', ha', ht'⟩ := hk.seats i
  exact ⟨hm'.trans hm, hp'.trans hp, hb'.trans hb, ha'.trans ha, ht'.trans ht⟩

/-- Players may come and go, and signals may go up and down. -/
theorem modify (g : Game) (i : Nat) {f : Seat → Seat} (e : UInt32)
    (hf : ∀ s, { f s with connected := s.connected, signal := s.signal } = s) :
    g.Settled { g.modifySeat i f with eligible := e } := by
  refine ⟨rfl, rfl, rfl, rfl, rfl, rfl, rfl, fun j => ?_⟩
  have hseat := seat_modifySeat_congr
    (fun s => (s.money, s.position, s.bankrupt, s.active, s.turns)) g i (f := f)
    (fun s => by conv_rhs => rw [← hf s]) j
  simp only [Prod.mk.injEq] at hseat
  exact hseat

end Settled

theorem settled_change {g g' : Game} {c : Call} {a : Except Fault Done} (hp : g.phase = .over)
    (hc : g.Change c a g') : g.Settled g' := by
  have hplay : g.phase ≠ .playing := by rw [hp]; nofun
  cases hc with
  | idle => exact .refl g
  | join name hno => exact absurd hp hno
  | connect i hno => exact absurd hp hno
  | leave i hi hc ht => exact .modify g i _ fun _ => rfl
  | yield i hi hc hpl => exact absurd hpl hplay
  | advance hpl => exact absurd hpl hplay
  | act i move hpl => exact absurd hpl hplay

/-- Nothing that is to last changes any more once a game is over. -/
theorem settled_afterAll {g : Game} (hs : g.Sound) (hp : g.phase = .over) (deeds : List Deed) :
    g.Settled (g.afterAll deeds) :=
  hs.afterAll_induction (P := g.Settled)
    (fun _ hg hc => hg.trans (settled_change (hg.phase.trans hp) hc))
    (fun {h i} _ hg _ => hg.trans (.modify h i h.eligible fun _ => rfl)) (.refl g) deeds

/-- Calls that are there to play on with. -/
def Call.PlaysOn : Call → Prop
  | .join _ | .advance | .act _ _ => True
  | .connect _ | .disconnect _ => False

/-- Calls that may pass the turn on. -/
def Call.PassesOn : Call → Prop
  | .disconnect _ | .advance | .act _ _ => True
  | .join _ | .connect _ => False

theorem answer_of_over {g : Game} (hp : g.phase = .over) {c : Call} (hc : c.PlaysOn) :
    (g.perform c).answer = .error .over := by
  cases c with
  | join name => simp [perform, join, isOver, hp, Reply.refuse, Reply.map, Except.map]
  | connect i => exact hc.elim
  | disconnect i => exact hc.elim
  | advance => simp [perform, advance, handOver, hp, Reply.refuse, Reply.map, Except.map]
  | act i move => simp [perform, act, mover, hp, Reply.refuse, Reply.map, Except.map]

/-- Only a call that may pass the turn on ends a game. -/
theorem Change.passesOn {g g' : Game} {c : Call} {a : Except Fault Done} (hc : g.Change c a g')
    (hb : g.phase ≠ .over) (ho : g'.phase = .over) : c.PassesOn := by
  cases hc with
  | idle => exact absurd ho hb
  | join name hp hc =>
    exact absurd ho (startIfReady_phase_ne ((g.seatNext name).arrive g.taken) hp)
  | connect i hp hi hc => exact absurd ho (startIfReady_phase_ne (g.arrive i) hp)
  | leave => trivial
  | yield => trivial
  | advance => trivial
  | act => trivial

theorem phase_of_handOver {g : Game} {r : Handover × Game × List Event}
    (h : g.handOver = .ok r) : g.phase = .playing := by
  by_contra hp
  obtain ⟨f, hf⟩ := g.handOver_of_not_playing hp
  exact nomatch hf.symm.trans h

theorem settle_ended {g : Game} (hp : g.phase = .playing) (events : List Event) :
    (g.settle events).ended ↔ g.phase ≠ .over ∧ g.passed.phase = .over := by
  have hno : g.phase ≠ .over := by rw [hp]; nofun
  rw [and_iff_right hno]
  unfold settle passed
  cases g.handOver with
  | error f => exact iff_of_false Bool.false_ne_true hno
  | ok r => exact decide_eq_true_iff

theorem connect_ended (g : Game) (i : Nat) : (g.connect i).ended = false := by
  unfold connect
  cases g.seated i with
  | error f => rfl
  | ok s =>
    dsimp only
    split_ifs <;> rfl

theorem join_ended (g : Game) (name : String) : (g.join name).ended = false := by
  unfold join
  split_ifs
  · rfl
  · rfl
  · exact connect_ended _ _

theorem disconnect_ended (g : Game) (i : Nat) :
    (g.disconnect i).ended ↔ g.phase ≠ .over ∧ (g.disconnect i).game.phase = .over := by
  unfold disconnect
  by_cases hi : i < g.taken
  · rw [seated_of_lt g hi]
    dsimp only
    split_ifs with hc ht
    · have hp : g.phase = .playing := (by simpa [isTurnOf] using ht : _ ∧ _).1
      have hs := settle_ended (g := g.leave i) hp [.disconnected i]
      rw [← settle_game _ [.disconnected i]] at hs
      exact hs
    · exact iff_of_false not_false fun h => h.1 h.2
    · exact iff_of_false not_false fun h => h.1 h.2
  · rw [seated_of_le g (by omega)]
    exact iff_of_false Bool.false_ne_true fun h => h.1 h.2

theorem advance_ended (g : Game) :
    g.advance.ended ↔ g.phase ≠ .over ∧ g.advance.game.phase = .over := by
  rw [advance_game]
  unfold advance
  cases h : g.handOver with
  | error f =>
    have hsame : g.passed = g := by rw [passed, h]
    rw [hsame]
    exact iff_of_false Bool.false_ne_true fun h => h.1 h.2
  | ok r =>
    have hp := phase_of_handOver h
    exact settle_ended hp []

theorem act_ended (g : Game) (i : Nat) (move : Purse → Purse) :
    (g.act i move).ended ↔ g.phase ≠ .over ∧ (g.act i move).game.phase = .over := by
  unfold act
  by_cases h : g.Idles (.act i move)
  · obtain ⟨f, hf⟩ := g.mover_of_idle h
    rw [hf]
    exact iff_of_false Bool.false_ne_true fun h => h.1 h.2
  · obtain ⟨hp, hi, ht⟩ : g.phase = .playing ∧ i < g.taken ∧ g.current = i := by
      simpa [Idles] using h
    rw [g.mover_of_turn hp hi ht]
    dsimp only
    rw [settle_game]
    have hs := settle_ended ((putPurse_phase g i (move (g.seat i).purse)).trans hp)
      (g.putPurse i (move (g.seat i).purse)).2
    rw [putPurse_phase] at hs
    exact hs

/-- Just the call that ends a game says so. -/
theorem perform_ended (g : Game) (c : Call) :
    (g.perform c).ended ↔ g.phase ≠ .over ∧ (g.perform c).game.phase = .over := by
  have hchange := perform_change g c
  cases c with
  | join name =>
    have hended : (g.perform (.join name)).ended = false := join_ended g name
    rw [hended]
    exact iff_of_false Bool.false_ne_true fun h => hchange.passesOn h.1 h.2
  | connect i =>
    have hended : (g.perform (.connect i)).ended = false := connect_ended g i
    rw [hended]
    exact iff_of_false Bool.false_ne_true fun h => hchange.passesOn h.1 h.2
  | disconnect i => exact disconnect_ended g i
  | advance => exact advance_ended g
  | act i move => exact act_ended g i move

theorem settled_stage {g : Game} (hs : g.Sound) (deeds : List Deed) {j k : Nat} (hjk : j ≤ k)
    (hp : (g.stage deeds j).phase = .over) : (g.stage deeds j).Settled (g.stage deeds k) := by
  obtain ⟨n, rfl⟩ := Nat.exists_eq_add_of_le hjk
  have hlater : g.stage deeds (j + n) = (g.stage deeds j).afterAll ((deeds.drop j).take n) := by
    rw [stage, List.take_add, afterAll_append, stage]
  rw [hlater]
  exact settled_afterAll (hs.afterAll _) hp _

/-- If a history ends a game, one call of it does, and that call may pass the turn on. -/
theorem exists_ending {g : Game} (hs : g.Sound) (hp : g.phase ≠ .over) {deeds : List Deed}
    (ho : (g.afterAll deeds).phase = .over) :
    ∃ k, ∃ hk : k < deeds.length, ∃ c : Call, deeds[k] = .call c ∧ c.PassesOn ∧
      (g.stage deeds k).phase ≠ .over ∧ (g.stage deeds (k + 1)).phase = .over := by
  induction deeds generalizing g with
  | nil => exact absurd ho hp
  | cons d deeds ih =>
    by_cases hd : (g.after d).phase = .over
    · cases d with
      | call c =>
        exact ⟨0, Nat.zero_lt_succ _, c, rfl, (perform_change g c).passesOn hp hd, hp, hd⟩
      | take i => exact absurd ((phase_after_take g i).symm.trans hd) hp
    · obtain ⟨k, hk, c, hc⟩ := ih (hs.afterAll [d]) hd ho
      exact ⟨k + 1, Nat.succ_lt_succ hk, c, hc⟩

/-- The scores of a game against those it began with: an ended game counts once, for everyone who
has a seat in it, and as won for the winner. -/
structure Scored (t : Score.Sheet) (g : Game) : Prop where
  total : g.scores.totalGames = t.totalGames + if g.phase = .over then 1 else 0
  games : ∀ i : Fin mostSeats, (g.scores.entries.get i).games =
    (t.entries.get i).games + if g.phase = .over ∧ i.val < g.taken then 1 else 0
  wins : ∀ i : Fin mostSeats, (g.scores.entries.get i).wins =
    (t.entries.get i).wins + if g.winner = some i.val then 1 else 0

theorem Scored.sameTurn {t : Score.Sheet} {g h : Game} (hg : Scored t g) (hs : g.SameTurn h) :
    Scored t h where
  total := by rw [hs.total, hs.phase, hg.total]
  games i := by
    rw [(hs.counts i).2, hg.games i, hs.phase]
    by_cases hp : g.phase = .over
    · rw [hs.taken hp]
    · rw [if_neg fun hn => hp hn.1, if_neg fun hn => hp hn.1]
  wins i := by rw [(hs.counts i).1, hs.winner, hg.wins i]

/-- Nobody has won a game that is not over. -/
theorem Coherent.winner_eq_none {g : Game} (h : g.Coherent) (hp : g.phase ≠ .over) :
    g.winner = none := by
  rw [← Option.not_isSome_iff_eq_none, h.winner_isSome]
  exact hp

theorem Scored.of_not_over {t : Score.Sheet} {g g' : Game} (h : Scored t g)
    (hp : g.phase ≠ .over) (hp' : g'.phase ≠ .over) (hw : g'.winner = g.winner)
    (hs : g'.scores = g.scores) : Scored t g' where
  total := by rw [hs, h.total, if_neg hp, if_neg hp']
  games i := by
    rw [hs, h.games i, if_neg fun hn => hp hn.1, if_neg fun hn => hp' hn.1]
  wins i := by rw [hs, hw, h.wins i]

theorem scored_finish {t : Score.Sheet} {g : Game} (h : Scored t g) (hp : g.phase ≠ .over)
    (hw : g.winner = none) {winner : Nat} (hlt : winner < g.taken) :
    Scored t (g.finish winner) := by
  refine ⟨?_, fun i => ?_, fun i => ?_⟩
  · have htotal := h.total
    rw [if_neg hp, UInt32.add_zero] at htotal
    exact congrArg (· + 1) htotal
  · have hgames := h.games i
    rw [if_neg fun hn => hp hn.1, UInt32.add_zero] at hgames
    have hover : (g.finish winner).phase = .over := rfl
    rw [← hgames, if_congr (and_iff_right hover) rfl rfl]
    exact g.scores.games_count g.taken winner i
  · have hwins := h.wins i
    rw [hw, if_neg nofun, UInt32.add_zero] at hwins
    have hself : (g.finish winner).winner = some i.val ↔ i.val = winner :=
      ⟨fun he => (Option.some.inj he).symm, fun he => congrArg some he.symm⟩
    rw [← hwins, if_congr hself rfl rfl]
    exact g.scores.wins_count g.taken winner i hlt

theorem Gives.scored {t : Score.Sheet} {g g' : Game} {x : Option Nat} (h : g.Gives x g')
    (hg : Scored t g) : Scored t g' := by
  cases h with
  | nobody hc hs => exact hg.sameTurn hs
  | start hc hs hw hi =>
    exact (hg.sameTurn hs).of_not_over (by rw [hs.phase, hw]; nofun) nofun rfl rfl
  | @pass h hc hs hp ho next hn =>
    have hm := hc.taken_le_most
    have hpos : 0 < h.taken := Nat.lt_of_le_of_lt (Nat.zero_le _) (hc.next_lt hn)
    have hph : h.phase ≠ .over := by rw [hs.phase, hp]; nofun
    have hturn : Scored t (h.handTo next) :=
      (hg.sameTurn hs).of_not_over hph hph rfl rfl
    rw [elected_eq]
    split_ifs
    · exact scored_finish hturn hph (hc.winner_eq_none hph) ((h.handTo next).champion_lt hm hpos)
    · exact hturn.of_not_over hph hph rfl rfl

/-- A game is scored when it ends, once, and not before. -/
theorem scored_afterAll {rules : Rules} (h : rules.Valid) (saved : Option Score.Board)
    (deeds : List Deed) : Scored (new rules saved).scores ((new rules saved).afterAll deeds) := by
  refine (sound_new h saved).afterAll_induction (fun hs hg hc => (hc.gives hs).scored hg)
    (fun _ hg _ => ⟨hg.total, hg.games, hg.wins⟩) ?_ deeds
  exact ⟨(UInt32.add_zero _).symm, fun i => (UInt32.add_zero _).symm,
    fun i => (UInt32.add_zero _).symm⟩

end Game
end Rota
