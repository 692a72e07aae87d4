import Rota.Proofs.Game.Sound
import Rota.Proofs.Score.Sheet

namespace Rota

theorem Score.Sheet.entry_rename (t : Sheet) (seat : Nat) (name : String) (i : Fin mostSeats) :
    ((t.rename seat name).entries.get i).wins = (t.entries.get i).wins ∧
      ((t.rename seat name).entries.get i).games = (t.entries.get i).games := by
  rw [get_rename]
  split_ifs
  · exact Entry.counts_rename _ _
  · exact ⟨rfl, rfl⟩

namespace Game

/-- Two games with the turn, the signals and the counts of the scores alike. -/
structure SameTurn (g h : Game) : Prop where
  rules : h.rules = g.rules
  phase : h.phase = g.phase
  current : h.current = g.current
  round : h.round = g.round
  moves : h.moves = g.moves
  winner : h.winner = g.winner
  taken : g.phase = .over → h.taken = g.taken
  turns : ∀ i, (h.seat i).turns = (g.seat i).turns
  signal : ∀ i, (h.seat i).signal = (g.seat i).signal
  total : h.scores.totalGames = g.scores.totalGames
  counts : ∀ i : Fin mostSeats, (h.scores.entries.get i).wins = (g.scores.entries.get i).wins ∧
    (h.scores.entries.get i).games = (g.scores.entries.get i).games

namespace SameTurn

variable {g h k : Game}

theorem refl (g : Game) : g.SameTurn g :=
  ⟨rfl, rfl, rfl, rfl, rfl, rfl, fun _ => rfl, fun _ => rfl, fun _ => rfl, rfl,
    fun _ => ⟨rfl, rfl⟩⟩

theorem trans (hg : g.SameTurn h) (hk : h.SameTurn k) : g.SameTurn k where
  rules := hk.rules.trans hg.rules
  phase := hk.phase.trans hg.phase
  current := hk.current.trans hg.current
  round := hk.round.trans hg.round
  moves := hk.moves.trans hg.moves
  winner := hk.winner.trans hg.winner
  taken := fun hp => (hk.taken (hg.phase.trans hp)).trans (hg.taken hp)
  turns := fun i => (hk.turns i).trans (hg.turns i)
  signal := fun i => (hk.signal i).trans (hg.signal i)
  total := hk.total.trans hg.total
  counts := fun i => ⟨(hk.counts i).1.trans (hg.counts i).1, (hk.counts i).2.trans (hg.counts i).2⟩

/-- A seat may change in all but its turns and its signal. -/
theorem modify (g : Game) (i : Nat) {f : Seat → Seat} (e : UInt32)
    (ht : ∀ s, (f s).turns = s.turns) (hs : ∀ s, (f s).signal = s.signal) :
    g.SameTurn { g.modifySeat i f with eligible := e } where
  rules := rfl
  phase := rfl
  current := rfl
  round := rfl
  moves := rfl
  winner := rfl
  taken := fun _ => rfl
  turns := seat_modifySeat_congr Seat.turns g i ht
  signal := seat_modifySeat_congr Seat.signal g i hs
  total := rfl
  counts := fun _ => ⟨rfl, rfl⟩

theorem arrive (g : Game) (i : Nat) : g.SameTurn (g.arrive i) :=
  modify g i _ (fun _ => rfl) fun _ => rfl

theorem leave (g : Game) (i : Nat) : g.SameTurn (g.leave i) :=
  modify g i _ (fun _ => rfl) fun _ => rfl

theorem putPurse (g : Game) (i : Nat) (p : Purse) : g.SameTurn (g.putPurse i p).1 := by
  unfold Game.putPurse
  dsimp only
  split_ifs
  · exact modify g i _ (fun _ => rfl) fun _ => rfl
  · exact modify g i _ (fun _ => rfl) fun _ => rfl
  · exact modify g i g.eligible (fun _ => rfl) fun _ => rfl

theorem seatNext (hc : g.Coherent) (name : String) (hp : g.phase ≠ .over)
    (hm : g.taken < mostSeats) : g.SameTurn (g.seatNext name) where
  rules := rfl
  phase := rfl
  current := rfl
  round := rfl
  moves := rfl
  winner := rfl
  taken := fun ho => absurd ho hp
  turns := by
    intro i
    by_cases hi : i = g.taken
    · -- nobody has had a turn on a place that has not been taken
      rw [hi, seat_seatNext_self g name hm, hc.blank g.taken (Nat.le_refl _)]
      rfl
    · rw [seat_seatNext_of_ne g name hi]
  signal := seat_modifySeat_congr Seat.signal g g.taken fun _ => rfl
  total := rfl
  counts := g.scores.entry_rename g.taken name

end SameTurn

/-- The seat that is given the turn between two games: by the start, or by a move of the turn. -/
def elects? (g g' : Game) : Option Nat :=
  if g'.moves ≠ g.moves ∨ g.phase = .waiting ∧ g'.phase ≠ .waiting then some g'.current else none

/-- A call settles who is there and what they own, and then may give the turn to a seat. -/
inductive Gives (g : Game) : Option Nat → Game → Prop
  | nobody {h : Game} (hc : h.Coherent) (hs : g.SameTurn h) : Gives g none h
  | start {h : Game} (hc : h.Coherent) (hs : g.SameTurn h) (hp : g.phase = .waiting) {first : Nat}
      (hi : first < h.taken) : Gives g (some first) (h.startWith first)
  | pass {h : Game} (hc : h.Coherent) (hs : g.SameTurn h) (hp : g.phase = .playing)
      (ho : ∀ j, j ≠ g.current → h.seat j = g.seat j) {next : Nat}
      (hn : nextSeat? h.seats h.current = some next) : Gives g (some next) (h.elected next)

theorem Coherent.next_lt {g : Game} (h : g.Coherent) {next : Nat}
    (hn : nextSeat? g.seats g.current = some next) : next < g.taken :=
  (g.eligible_next h.taken_le_most hn).1

@[simp] theorem elected_moves (g : Game) (next : Nat) :
    (g.elected next).moves = g.moves + 1 := by
  rw [elected_eq]
  split_ifs <;> rfl

theorem Gives.elects? {g g' : Game} {x : Option Nat} (h : g.Gives x g') : g.elects? g' = x := by
  unfold Game.elects?
  cases h with
  | nobody hc hs =>
    refine if_neg ?_
    rintro (hm | ⟨hw, hp⟩)
    · exact hm hs.moves
    · exact hp (hs.phase.trans hw)
  | start hc hs hp hi => exact if_pos (.inr ⟨hp, nofun⟩)
  | @pass h hc hs hp ho next hn =>
    have hm : (h.elected next).moves ≠ g.moves := by
      rw [elected_moves, hs.moves]
      intro he
      have hn := congrArg UInt64.toNat he
      rw [UInt64.toNat_add, UInt64.toNat_one] at hn
      omega
    rw [if_pos (.inl hm), elected_current]

theorem gives_startIfReady {g h : Game} (hc : h.Coherent) (hs : g.SameTurn h) :
    ∃ x, g.Gives x h.startIfReady.1 := by
  rcases h.startIfReady_cases hc.taken_le_most with ⟨he, -⟩ | ⟨first, hi, -, hp, -, he⟩
  · rw [he]
    exact ⟨_, .nobody hc hs⟩
  · rw [he]
    exact ⟨_, .start hc hs (hs.phase.symm.trans hp) hi⟩

theorem gives_passed {g h : Game} (hc : h.Coherent) (hs : g.SameTurn h) (hp : g.phase = .playing)
    (ho : ∀ j, j ≠ g.current → h.seat j = g.seat j) : ∃ x, g.Gives x h.passed := by
  rcases h.passed_cases (hs.phase.trans hp) with ⟨-, -, he⟩ | ⟨next, hn, -, he⟩
  · rw [he]
    exact ⟨_, .nobody hc hs⟩
  · rw [he]
    exact ⟨_, .pass hc hs hp ho hn⟩

theorem Change.gives {g g' : Game} {c : Call} {a : Except Fault Done} (h : g.Sound)
    (hc : g.Change c a g') : g.Gives (g.elects? g') g' := by
  have hx : ∃ x, g.Gives x g' := by
    cases hc with
    | idle => exact ⟨_, .nobody h.toCoherent (.refl g)⟩
    | join name hp hc =>
      have hs := SameTurn.seatNext h.toCoherent name hp (lt_most_of_lt_capacity hc)
      exact gives_startIfReady (h.seatArrive name hc) (hs.trans (.arrive _ _))
    | connect i hp hi hc => exact gives_startIfReady (h.arrive hi hc) (.arrive g i)
    | leave i hi hc ht => exact ⟨_, .nobody (h.toCoherent.leave hi hc) (.leave g i)⟩
    | yield i hi hc hp ht =>
      exact gives_passed (h.toCoherent.leave hi hc) (.leave g i) hp fun j hj =>
        seat_leave_of_ne g (ht ▸ hj)
    | advance hp => exact gives_passed h.toCoherent (.refl g) hp fun _ _ => rfl
    | act i move hp hi ht =>
      exact gives_passed (h.putPurse hi hp _) (.putPurse g i _) hp fun j hj =>
        seat_putPurse_of_ne g _ (ht ▸ hj)
  obtain ⟨x, hx⟩ := hx
  rwa [hx.elects?]

end Game
end Rota
