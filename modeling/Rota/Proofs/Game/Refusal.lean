import Rota.Proofs.Game.History

namespace Rota.Game

/-- Between two games lies nothing but a move of seat `i`, and its ruin if that is due. -/
structure Moved (g : Game) (i : Nat) (p : Purse) (g' : Game) : Prop where
  lt : i < g.taken
  seat : g'.seat i =
    if p.money < 0 ∧ (g.seat i).bankrupt = false then
      { g.seat i with money := p.money, position := p.position, bankrupt := true, active := false }
    else { g.seat i with money := p.money, position := p.position }
  others : ∀ j, j ≠ i → g'.seat j = g.seat j
  eligible : g'.eligible =
    if p.money < 0 ∧ (g.seat i).bankrupt = false ∧ (g.seat i).connected ∧ (g.seat i).active then
      g.eligible - 1
    else g.eligible
  rest : { g' with places := g.places, eligible := g.eligible } = g

theorem moved_putPurse (g : Game) {i : Nat} (hi : i < g.taken) (hm : g.taken ≤ mostSeats)
    (p : Purse) : g.Moved i p (g.putPurse i p).1 := by
  have hlt : i < mostSeats := Nat.lt_of_lt_of_le hi hm
  unfold putPurse
  by_cases hr : p.money < 0 ∧ (g.seat i).bankrupt = false
  · rw [if_pos (by simpa using hr)]
    refine ⟨hi, ?_, fun j hj => seat_modifySeat_of_ne g _ hj, ?_, rfl⟩
    · rw [if_pos hr]
      exact seat_modifySeat_self g (fun s => (s.setPurse p).ruin) hlt
    · simp only [hr, true_and, Bool.and_eq_true]
  · rw [if_neg (by simpa using hr)]
    refine ⟨hi, ?_, fun j hj => seat_modifySeat_of_ne g _ hj, ?_, rfl⟩
    · rw [if_neg hr]
      exact seat_modifySeat_self g (·.setPurse p) hlt
    · rw [if_neg fun hn => hr ⟨hn.1, hn.2.1⟩]
      rfl

/-- Whoever may not move is told so, and not that nobody can take the turn. -/
theorem mover_ne_nobodyEligible (g : Game) (i : Nat) :
    g.mover i ≠ .error .nobodyEligible := by
  unfold mover
  cases g.phase with
  | waiting => nofun
  | «over» => nofun
  | playing =>
    by_cases hi : i < g.taken
    · rw [seated_of_lt g hi]
      change (if g.current = i then _ else _) ≠ _
      split_ifs <;> nofun
    · rw [seated_of_le g (by omega)]
      nofun

/-- A turn that is not passed on stays where it is, for want of anybody to take it. -/
theorem passed_of_error {g : Game} {f : Fault} (hp : g.phase = .playing)
    (h : g.handed = .error f) :
    nextSeat? g.seats g.current = none ∧ f = .nobodyEligible ∧ g.passed = g := by
  rcases g.passed_cases hp with ⟨hn, ha, he⟩ | ⟨next, -, ha, -⟩
  · exact ⟨hn, Except.error.inj (h.symm.trans ha), he⟩
  · exact absurd (h.symm.trans ha) nofun

/-- A move of the player who has the turn is put down, and the turn is passed on. -/
theorem perform_act (g : Game) {i : Nat} (hp : g.phase = .playing) (hi : i < g.taken)
    (ht : g.current = i) (move : Purse → Purse) :
    (g.perform (.act i move)).answer = (g.putPurse i (move (g.seat i).purse)).1.handed ∧
      (g.perform (.act i move)).game = (g.putPurse i (move (g.seat i).purse)).1.passed := by
  have hact : g.act i move = (g.putPurse i (move (g.seat i).purse)).1.settle
      (g.putPurse i (move (g.seat i).purse)).2 := by
    rw [act, g.mover_of_turn hp hi ht]
  constructor
  · rw [perform, hact, ← settle_answer]
    rfl
  · rw [perform, hact, ← settle_game]
    rfl

/-- A move is refused before anything happens, or else it stands and the turn is passed on. -/
theorem act_cases (g : Game) (i : Nat) (move : Purse → Purse) :
    (∃ f, f ≠ .nobodyEligible ∧ (g.perform (.act i move)).answer = .error f ∧
      (g.perform (.act i move)).game = g) ∨
    g.phase = .playing ∧ i < g.taken ∧
      (g.perform (.act i move)).answer = (g.putPurse i (move (g.seat i).purse)).1.handed ∧
      (g.perform (.act i move)).game = (g.putPurse i (move (g.seat i).purse)).1.passed := by
  by_cases h : g.Idles (.act i move)
  · obtain ⟨f, hf⟩ := g.mover_of_idle h
    have hact : g.act i move = .refuse g f := by rw [act, hf]
    refine .inl ⟨f, ?_, ?_, ?_⟩
    · rintro rfl
      exact g.mover_ne_nobodyEligible i hf
    · rw [perform, hact]
      rfl
    · rw [perform, hact]
      rfl
  · obtain ⟨hp, hi, ht⟩ : g.phase = .playing ∧ i < g.taken ∧ g.current = i := by
      simpa [Idles] using h
    exact .inr ⟨hp, hi, g.perform_act hp hi ht move⟩

/-- A call that is refused does nothing, unless it is a move for which nobody is left. -/
theorem game_of_error {g : Game} {c : Call} {f : Fault} (ha : (g.perform c).answer = .error f)
    (hf : f = .nobodyEligible → ∀ i move, c ≠ .act i move) : (g.perform c).game = g := by
  have hc := perform_change g c
  generalize (g.perform c).answer = a at ha hc
  generalize (g.perform c).game = g' at hc ⊢
  cases hc with
  | idle => rfl
  | join => nomatch ha
  | connect => nomatch ha
  | leave => nomatch ha
  | yield => nomatch ha
  | advance hp => exact (passed_of_error hp ha).2.2
  | act i move hp hi ht =>
    obtain ⟨-, hn, -⟩ := passed_of_error ((putPurse_phase g i _).trans hp) ha
    exact absurd rfl (hf hn i move)

theorem act_nobodyEligible {g : Game} (hm : g.taken ≤ mostSeats) {i : Nat}
    {move : Purse → Purse} (ha : (g.perform (.act i move)).answer = .error .nobodyEligible) :
    g.Moved i (move (g.seat i).purse) (g.perform (.act i move)).game ∧
      ∀ j < g.taken, ((g.perform (.act i move)).game.seat j).eligible = false := by
  rcases g.act_cases i move with ⟨f, hf, he, -⟩ | ⟨hp, hi, he, hg⟩
  · exact absurd (Except.error.inj (he.symm.trans ha)) hf
  · obtain ⟨hn, -, hsame⟩ := passed_of_error ((putPurse_phase g i _).trans hp) (he.symm.trans ha)
    rw [hg, hsame]
    refine ⟨g.moved_putPurse hi hm _, fun j hj => ?_⟩
    have ht := putPurse_taken g i (move (g.seat i).purse)
    exact (next_eq_none_iff _ (ht ▸ hm)).mp hn j (ht ▸ hj)

/-- What a refused call leaves behind: the game as it was, or the game with nothing but the move
done if nobody can take the turn. A player who can still pay after the move keeps the turn. -/
theorem refused_afterAll {rules : Rules} (h : rules.Valid) (saved : Option Score.Board)
    (deeds : List Deed) {g : Game} (hg : (new rules saved).afterAll deeds = g) :
    (∀ c f, (g.perform c).answer = .error f →
      (f = .nobodyEligible → ∀ i move, c ≠ .act i move) → (g.perform c).game = g) ∧
    (∀ i move, (g.perform (.act i move)).answer = .error .nobodyEligible →
      g.Moved i (move (g.seat i).purse) (g.perform (.act i move)).game) ∧
    (∀ i move, (g.seat i).connected → (g.seat i).active →
      ((g.perform (.act i move)).game.seat i).bankrupt = false →
      (g.perform (.act i move)).answer ≠ .error .nobodyEligible) := by
  have hs : g.Sound := hg ▸ (sound_new h saved).afterAll deeds
  have hm := hs.taken_le_most
  refine ⟨fun c f ha hf => game_of_error ha hf, fun i move ha => (act_nobodyEligible hm ha).1,
    fun i move hc hact hb ha => ?_⟩
  obtain ⟨hmoved, hnone⟩ := act_nobodyEligible hm ha
  have hseat := hmoved.seat
  split_ifs at hseat with hr
  · rw [hseat] at hb
    exact absurd hb nofun
  · have hel : ((g.perform (.act i move)).game.seat i).eligible = true := by
      rw [Seat.eligible, Seat.inPlay, hb, hseat, hc, hact]
      rfl
    exact Bool.false_ne_true ((hnone i hmoved.lt).symm.trans hel)

theorem refused_afterAll_of_ruin :
    ∃ g, (new {}).afterAll [.call (.join "ann"), .call (.join "bob"), .call (.join "cleo"),
        .call (.disconnect 1), .call (.disconnect 2)] = g ∧ Rules.Valid {} ∧
      (g.perform (.act 1 id)).game = g ∧
      g.Moved 0 ⟨-1, 7⟩ (g.perform (.act 0 fun _ => ⟨-1, 7⟩)).game ∧
      (g.perform (.act 0 id)).answer ≠ .error .nobodyEligible := by
  have hr : Rules.Valid {} := by decide
  obtain ⟨hsame, hmoved, hpasses⟩ := refused_afterAll hr none [.call (.join "ann"),
    .call (.join "bob"), .call (.join "cleo"), .call (.disconnect 1), .call (.disconnect 2)] rfl
  refine ⟨_, rfl, hr, ?_, ?_, ?_⟩
  · exact hsame _ (.notYourTurn 1 0) (by decide +kernel) nofun
  · exact hmoved 0 (fun _ => ⟨-1, 7⟩) (by decide +kernel)
  · exact hpasses 0 id (by decide +kernel) (by decide +kernel) (by decide +kernel)

end Rota.Game
