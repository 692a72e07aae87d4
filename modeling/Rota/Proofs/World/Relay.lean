import Rota.Proofs.Game.Balance
import Rota.Proofs.World.Keeping

namespace Rota

namespace Game

/-- Whoever owes money is out. -/
def Barred (g : Game) : Prop := ∀ i < g.taken, (g.seat i).money < 0 → (g.seat i).bankrupt

section barred

variable {g g' : Game}

theorem Barred.change {c : Call} {a : Except Fault Done} (hs : g.Sound) (h : g.Barred)
    (hc : g.Change c a g') : g'.Barred := by
  intro i _
  have haccount := hc.accounts hs i
  show (g'.seat i).account.2 < 0 → (g'.seat i).account.1
  generalize (g'.seat i).account = account at haccount ⊢
  intro hneg
  cases haccount with
  | kept =>
    by_cases hi : i < g.taken
    · exact h i hi hneg
    · rw [hs.blank i (by omega)] at hneg
      exact absurd hneg (by decide)
  | opened => exact absurd hneg (Int64.lt_asymm hs.rules.startingMoney_pos)
  | moved move =>
    show ((g.seat i).bankrupt || decide ((move (g.seat i).purse).money < 0)) = true
    rw [decide_eq_true hneg, Bool.or_true]

theorem Barred.took (h : g.Barred) (i : Nat) : (g.took i).Barred := by
  intro j hj
  have haccount : ((g.took i).seat j).account = (g.seat j).account :=
    seat_modifySeat_congr (f := Seat.wake) Seat.account g i (fun _ => rfl) j
  obtain ⟨hb, hm⟩ := Prod.mk.inj haccount
  rw [hb, hm]
  exact h j hj

theorem barred_afterAll {rules : Rules} (h : rules.Valid) (saved : Option Score.Board)
    (deeds : List Deed) : ((new rules saved).afterAll deeds).Barred := by
  apply (sound_new h saved).afterAll_induction
  · intro g g' c a hs hb hc
    exact hb.change hs hc
  · intro g i _ hb _
    exact hb.took i
  · intro i hi
    exact absurd hi (Nat.not_lt_zero i)

/-- Putting a purse down that has not been touched changes nothing. -/
theorem Barred.putPurse (h : g.Barred) {i : Nat} (hi : i < g.taken) :
    g.putPurse i (g.seat i).purse = (g, []) := by
  have hno : ¬((g.seat i).purse.money < 0 ∧ !(g.seat i).bankrupt) := by
    rintro ⟨hneg, hb⟩
    have hbankrupt := h i hi hneg
    simp [hbankrupt] at hb
  rw [Game.putPurse, if_neg hno]
  have hsame : g.modifySeat i (·.setPurse (g.seat i).purse) = g := g.modifySeat_eq_self rfl
  rw [hsame]

end barred

/-- Passing the turn on by itself differs from doing so after a move in that nobody is woken if it
fails. -/
theorem settle_eq (g : Game) (events : List Event) :
    g.settle events = { g.advance with events := events ++ g.advance.events, woke := true } := by
  unfold settle advance
  cases hh : g.handOver with
  | error f => simp [Reply.refuse]
  | ok r => simp [settle, hh]

theorem perform_act_id {g : Game} (hb : g.Barred) (hp : g.phase = .playing)
    (hc : g.current < g.taken) :
    g.perform (.act g.current id) = { g.perform .advance with woke := true } := by
  have hact : g.act g.current id = g.settle [] := by
    rw [act, g.mover_of_turn hp hc rfl]
    dsimp only [id]
    rw [hb.putPurse hc]
  show (g.act g.current id).map Done.turn = _
  rw [hact, settle_eq]
  rfl

theorem perform_disconnect {g : Game} {i : Nat} (hp : g.phase = .playing) (ht : g.current = i)
    (hi : i < g.taken) (hc : (g.seat i).connected) :
    g.perform (.disconnect i) =
      { (g.leave i).perform .advance with
        answer := .ok .done
        events := .disconnected i :: ((g.leave i).perform .advance).events
        woke := true } := by
  have hturn : g.isTurnOf i = true := by simp [isTurnOf, hp, ht]
  have hdisconnect : g.disconnect i =
      { ((g.leave i).settle [.disconnected i]).map (fun _ => ()) with answer := .ok () } := by
    rw [disconnect, seated_of_lt g hi]
    dsimp only
    rw [if_pos hc, if_pos hturn]
  show (g.disconnect i).map (fun _ => Done.done) = _
  rw [hdisconnect, settle_eq]
  rfl

theorem answer_advance {g : Game} (hp : g.phase = .playing) :
    (∃ h, (g.perform .advance).answer = .ok (.turn h)) ∨
      (g.perform .advance).answer = .error .nobodyEligible := by
  have hanswer : (g.perform .advance).answer = g.handed := g.advance_answer
  rw [hanswer]
  rcases g.passed_cases hp with ⟨-, h, -⟩ | ⟨next, -, h, -⟩
  · exact .inr h
  · exact .inl ⟨_, h⟩

theorem advance_hushed (g : Game) :
    (g.perform .advance).woke = true ∨
      (g.perform .advance).events = [] ∧ (g.perform .advance).ended = false := by
  show g.advance.woke = true ∨ g.advance.events = [] ∧ g.advance.ended = false
  unfold advance
  cases hh : g.handOver with
  | error f => exact .inr ⟨rfl, rfl⟩
  | ok r =>
    left
    simp [settle, hh]

end Game

namespace World

/-- The world with nobody waiting in it. -/
def unattended (w : World) : World := { w with waiters := [] }

theorem unattended_follow (s : Station) (r : Game.Reply Game.Done) (w : World)
    (h : r.woke = true ∨ r.events = [] ∧ r.ended = false) :
    ((follow s { r with woke := true }).run w).2.unattended =
      ((follow s r).run w).2.unattended := by
  rcases h with hwoke | ⟨hevents, hended⟩
  · rw [← hwoke]
  · have hrun (woke : Bool) : ((follow s { r with woke }).run w).2 =
        ((rouse s { r with woke }).run w).2 := by
      unfold follow
      simp only [hevents, hended, announce]
      cases s.log <;> rfl
    have hplain : ((follow s r).run w).2 = ((rouse s r).run w).2 := hrun r.woke
    rw [hrun true, hplain]
    rfl

section agreement

variable {w : World} {s : Station} {g : Game}

/-- A move that changes nothing does at a station what passing the turn on does there, but that it
wakes those who wait even if the turn cannot be passed on. -/
theorem act_agrees (hs : g.Sound) (hb : g.Barred) (hp : g.phase = .playing)
    (hg : w.games.get? s.table.cell = some g) :
    ((playAt s (.act g.current id)).run.run w).1 = ((playAt s .advance).run.run w).1 ∧
      ((playAt s (.act g.current id)).run.run w).2.unattended =
        ((playAt s .advance).run.run w).2.unattended := by
  have hreply := Game.perform_act_id hb hp (hs.current_lt_of_playing hp)
  rw [run_playAt_eq _ hg, run_playAt_eq _ hg, hreply]
  constructor
  · rfl
  · apply unattended_follow
    exact g.advance_hushed

/-- A player who leaves on their turn leaves at a station what passing the turn on leaves there
once they have gone. -/
theorem disconnect_agrees (hs : g.Sound) (hp : g.phase = .playing)
    (hc : (g.seat g.current).connected) (hg : w.games.get? s.table.cell = some g)
    {left : World} (hleft : { w with games := w.games.set s.table.cell (g.leave g.current) } = left) :
    ((playAt s (.disconnect g.current)).run.run w).1 = .ok .done ∧
      ((playAt s (.disconnect g.current)).run.run w).2.games =
        ((playAt s .advance).run.run left).2.games ∧
      ((playAt s (.disconnect g.current)).run.run w).2.shelf =
        ((playAt s .advance).run.run left).2.shelf := by
  have hreply := Game.perform_disconnect hp rfl (hs.current_lt_of_playing hp) hc
  have hset : left.games.get? s.table.cell = some (g.leave g.current) := by
    rw [← hleft]
    exact Register.get?_set_self _ _ _
  have hgames : left.games = w.games.set s.table.cell (g.leave g.current) := by
    rw [← hleft]
  have hshelf : left.shelf = w.shelf := by
    rw [← hleft]
    rfl
  refine ⟨?_, ?_, ?_⟩
  · rw [(run_playAt _ hg).1, hreply]
    rfl
  · rw [(run_playAt _ hg).2, (run_playAt _ hset).2, hgames, Register.set_set, hreply]
  · rw [shelf_playAt hg, shelf_playAt hset, hshelf, hreply]

end agreement

/-- The turn is passed on in the same way by its own call, by a move of the player whose turn it is
that changes nothing, and by that player's leaving, once the player is counted out. -/
theorem relay_afterAll {rules : Rules} (h : rules.Valid) (saved : Option Score.Board)
    (deeds : List Game.Deed) {g : Game} (hg : (Game.new rules saved).afterAll deeds = g)
    (hp : g.phase = .playing) {c : Nat} (hc : g.current = c) :
    g.perform (.act c id) = { g.perform .advance with woke := true } ∧
    (∀ (w : World) (s : Station), w.games.get? s.table.cell = some g →
      ((playAt s (.act c id)).run.run w).1 = ((playAt s .advance).run.run w).1 ∧
        ((playAt s (.act c id)).run.run w).2.unattended =
          ((playAt s .advance).run.run w).2.unattended) ∧
    ((g.seat c).connected → ∀ {left : Game.Reply Game.Done}, (g.leave c).perform .advance = left →
      g.perform (.disconnect c) =
        { left with answer := .ok .done, events := .disconnected c :: left.events, woke := true } ∧
      ((∃ t, left.answer = .ok (.turn t)) ∨ left.answer = .error .nobodyEligible) ∧
      ∀ (w w' : World) (s : Station), w.games.get? s.table.cell = some g →
        { w with games := w.games.set s.table.cell (g.leave c) } = w' →
        ((playAt s (.disconnect c)).run.run w).1 = .ok .done ∧
          ((playAt s (.disconnect c)).run.run w).2.games =
            ((playAt s .advance).run.run w').2.games ∧
          ((playAt s (.disconnect c)).run.run w).2.shelf =
            ((playAt s .advance).run.run w').2.shelf) := by
  have hs : g.Sound := hg ▸ (Game.sound_new h saved).afterAll deeds
  have hb : g.Barred := hg ▸ Game.barred_afterAll h saved deeds
  have hlt := hs.current_lt_of_playing hp
  subst hc
  refine ⟨Game.perform_act_id hb hp hlt, ?_, ?_⟩
  · intro w s hw
    exact act_agrees hs hb hp hw
  · rintro hcon left rfl
    refine ⟨Game.perform_disconnect hp rfl hlt hcon, ?_, ?_⟩
    · apply Game.answer_advance
      exact hp
    · intro w w' s hw hleft
      exact disconnect_agrees hs hp hcon hw hleft

theorem relay_afterAll_of_debt :
    ∃ g, (Game.new {}).afterAll [.call (.join "ann"), .call (.join "bob"), .call (.join "cleo"),
        .call (.join "dan"), .call (.act 0 fun _ => ⟨-5, 3⟩), .call (.act 1 id)] = g ∧
      Rules.Valid {} ∧ g.phase = .playing ∧ g.current = 2 ∧ (g.seat 2).connected ∧
      (g.perform (.act 2 id)).game = (g.perform .advance).game ∧
      (g.perform (.disconnect 2)).game = ((g.leave 2).perform .advance).game ∧
      (g.perform (.disconnect 2)).game.current = 3 ∧
      ((playAt { table := ⟨"t", 0, 816⟩ } (.act 2 id)).run.run
          { games := Register.set {} 0 g }).2.unattended =
        ((playAt { table := ⟨"t", 0, 816⟩ } .advance).run.run
          { games := Register.set {} 0 g }).2.unattended := by
  have hr : Rules.Valid {} := by decide
  obtain ⟨hact, htable, hleave⟩ := relay_afterAll hr none [.call (.join "ann"), .call (.join "bob"),
    .call (.join "cleo"), .call (.join "dan"), .call (.act 0 fun _ => ⟨-5, 3⟩),
    .call (.act 1 id)] rfl (by decide +kernel) (c := 2) (by decide +kernel)
  have hsame := (hleave (by decide +kernel) rfl).1
  refine ⟨_, rfl, hr, by decide +kernel, by decide +kernel, by decide +kernel, ?_, ?_, ?_, ?_⟩
  · rw [hact]
  · rw [hsame]
  · decide +kernel
  · exact (htable _ { table := ⟨"t", 0, 816⟩ } rfl).2

end World
end Rota
