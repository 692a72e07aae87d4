import Rota.Proofs.Game.Rolling
import Rota.Proofs.Game.Staying

namespace Rota.Game

theorem stalls_concat (g : Game) (calls : List Call) (c : Call) :
    g.stalls (calls ++ [c]) = g.stalls calls + if (g.run calls).Stalls c then 1 else 0 := by
  induction calls generalizing g with
  | nil => exact Nat.add_comm _ _
  | cons d calls ih =>
    rw [List.cons_append, stalls, stalls, ih, Nat.add_assoc]
    rfl

/-- A run by the dice, in which nobody can follow `n` moves, leads from one game to the other. -/
def RollsTo (g : Game) (n : Nat) (g' : Game) : Prop :=
  ∃ calls, (∀ c ∈ calls, c.ByDice) ∧ g.stalls calls = n ∧ g.run calls = g'

namespace RollsTo

variable {g g' : Game} {n : Nat}

theorem refl (g : Game) : g.RollsTo 0 g := ⟨[], nofun, rfl, rfl⟩

theorem call (h : g.RollsTo n g') {c : Call} (hc : c.ByDice) :
    g.RollsTo (n + if g'.Stalls c then 1 else 0) (g'.perform c).game := by
  obtain ⟨calls, hdice, rfl, rfl⟩ := h
  refine ⟨calls ++ [c], ?_, stalls_concat g calls c, List.foldl_concat ..⟩
  intro d hd
  rcases List.mem_append.mp hd with hd | hd
  · exact hdice d hd
  · exact List.mem_singleton.mp hd ▸ hc

theorem sound (h : g.RollsTo n g') (hs : g.Sound) : g'.Sound := by
  obtain ⟨calls, -, -, rfl⟩ := h
  exact hs.run calls

theorem timely (h : g.RollsTo n g') (hs : g.Sound) (ht : g.Timely) : g'.Timely := by
  obtain ⟨calls, -, -, rfl⟩ := h
  induction calls generalizing g with
  | nil => exact ht
  | cons c calls ih => exact ih (hs.perform c) (ht.change hs (perform_change g c))

theorem rules (h : g.RollsTo n g') : g'.rules = g.rules := by
  obtain ⟨calls, -, -, rfl⟩ := h
  exact run_rules g calls

end RollsTo

/-- Before the start everybody who is there counts. -/
theorem eligible_of_waiting {g : Game} (h : g.Coherent) (hw : g.phase = .waiting)
    (hall : ∀ i < g.taken, (g.seat i).connected) : g.eligible.toNat = g.taken := by
  have hm := h.taken_le_most
  rw [h.eligible, ← length_seats g hm, List.countP_eq_length, seats_eq_map g hm]
  intro s hs
  obtain ⟨i, hi, rfl⟩ := List.mem_map.mp hs
  have hi := List.mem_range.mp hi
  rw [hall i hi, h.active i hi, (h.waiting hw).2.2 i]
  rfl

/-- So many players have come, nobody has left and nobody has moved. -/
structure Gathered (g : Game) (count : Nat) : Prop where
  taken : g.taken = count
  present : ∀ i < g.taken, (g.seat i).connected
  fresh : ∀ i < g.taken,
    ((g.seat i).bankrupt, (g.seat i).purse) = (false, ⟨g.rules.startingMoney, 0⟩)
  round : g.round = 0
  waiting : count < g.rules.minPlayers.toNat → g.phase = .waiting
  playing : count = g.rules.minPlayers.toNat → g.phase = .playing

theorem Gathered.join {g : Game} {count : Nat} (h : g.Gathered count) (hs : g.Sound)
    (hfew : count < g.rules.minPlayers.toNat) (name : String) :
    (g.perform (.join name)).game.Gathered (count + 1) := by
  obtain ⟨rfl, hpresent, hfresh, hround, hwaiting, -⟩ := h
  have hw := hwaiting hfew
  have hplayers := hs.rules.players_le
  have hroom : g.taken < g.capacity := by
    rw [capacity]
    omega
  have hc := perform_change g (.join name)
  have hcases := hc.seat_cases (fun s => (s.bankrupt, s.purse)) (fun _ => rfl) (fun _ _ => rfl)
  have hrules := hc.rules
  generalize (g.perform (.join name)).answer = a at hc
  generalize (g.perform (.join name)).game = g' at hc hcases hrules ⊢
  cases hc with
  | idle hidle =>
    rcases hidle with ho | hfull
    · exact absurd (hw.symm.trans ho) (by decide)
    · omega
  | join _ ho _ =>
    have hco := hs.seatArrive name hroom
    have hall := present_seatArrive hpresent name (lt_most_of_lt_capacity hroom)
    have hcount := eligible_of_waiting hco hw hall
    refine ⟨startIfReady_taken _, fun i hi => ?_, fun i hi => ?_, ?_, fun hlt => ?_, fun heq => ?_⟩
    · rw [startIfReady_taken] at hi
      rw [(Seat.of_core (core_startIfReady _ i)).1]
      exact hall i hi
    · rw [hrules]
      rcases hcases i with ⟨hlt, he⟩ | ⟨-, he⟩ | ⟨_, hact, -⟩
      · exact he.trans (hfresh i (hlt hi))
      · exact he
      · cases hact
    · rcases startIfReady_eq ((g.seatNext name).arrive g.taken) with he | ⟨first, he⟩
      · rw [he]
        exact hround
      · rw [he]
        rfl
    · rcases startIfReady_cases _ hco.taken_le_most with ⟨he, -⟩ | ⟨first, -, -, -, hmin, -⟩
      · rw [he]
        exact hw
      · rw [startIfReady_rules] at hlt
        rw [hcount] at hmin
        exact absurd hlt (Nat.not_lt.mpr hmin)
    · rcases startIfReady_cases _ hco.taken_le_most with ⟨-, hnone⟩ | ⟨first, -, -, -, -, he⟩
      · rw [startIfReady_rules] at heq
        have hno := hnone hw (Nat.le_of_eq (heq.symm.trans hcount.symm)) g.taken
          (Nat.lt_succ_self _)
        have hyes := eligible_of_present hco hall (Nat.lt_succ_self g.taken)
          ((hco.waiting hw).2.2 g.taken)
        exact absurd (hno.symm.trans hyes) Bool.false_ne_true
      · rw [he]
        rfl

theorem exists_gathered {rules : Rules} (h : rules.Valid) (saved : Option Score.Board) {count : Nat}
    (hle : count ≤ rules.minPlayers.toNat) :
    ∃ g, (new rules saved).RollsTo 0 g ∧ g.Gathered count := by
  induction count with
  | zero =>
    refine ⟨_, .refl _, rfl, fun i hi => absurd hi (Nat.not_lt_zero i),
      fun i hi => absurd hi (Nat.not_lt_zero i), rfl, fun _ => rfl, fun hzero => ?_⟩
    have hmin : 3 ≤ rules.minPlayers.toNat := h.players_le.1
    have hzero : 0 = rules.minPlayers.toNat := hzero
    omega
  | succ count ih =>
    obtain ⟨g, hg, hgathered⟩ := ih (Nat.le_of_succ_le hle)
    have hfew : count < g.rules.minPlayers.toNat := by
      rw [hg.rules]
      exact hle
    exact ⟨_, hg.call (c := .join "") trivial,
      hgathered.join (hg.sound (sound_new h saved)) hfew ""⟩

section presence

variable {g : Game} {i j : Nat}

theorem seat_attended_of_ne (there : Bool) (h : j ≠ i) :
    (g.attended there i).seat j = g.seat j := by
  unfold attended
  split_ifs
  · exact g.seat_mark_of_ne there h
  · rfl

theorem connected_attended (hs : g.Sound) (i : Nat) :
    ((g.attended false i).seat i).connected = false := by
  unfold attended
  split_ifs with h
  · rw [seat_mark_self g false (Nat.lt_of_lt_of_le h.1 hs.taken_le_most)]
  · by_cases hi : i < g.taken
    · simpa [hi] using h
    · rw [hs.blank i (Nat.not_lt.mp hi)]

end presence

/-- All others can leave the player who has the turn. -/
theorem exists_left {g₀ g : Game} {n : Nat} (hg : g₀.RollsTo n g) (h₀ : g₀.Sound)
    (hp : g.phase = .playing) (l : List Nat) (hl : g.current ∉ l) :
    ∃ g', g₀.RollsTo n g' ∧ g'.phase = .playing ∧ g'.current = g.current ∧ g'.round = g.round ∧
      g'.seat g.current = g.seat g.current ∧
      ∀ i, i ∈ l ∨ (g.seat i).connected = false → (g'.seat i).connected = false := by
  induction l generalizing g with
  | nil => exact ⟨g, hg, hp, rfl, rfl, rfl, fun i hi => hi.resolve_left nofun⟩
  | cons k l ih =>
    have hk : g.current ≠ k := fun he => hl (he ▸ List.mem_cons_self)
    have hleft : g₀.RollsTo n (g.attended false k) := by
      rw [← game_presence false hp hk]
      exact hg.call (c := .disconnect k) trivial
    obtain ⟨hphase, hcurrent, -⟩ := attended_rest (g := g) false (i := k)
    have hround : (g.attended false k).round = g.round := by
      unfold attended
      split_ifs <;> rfl
    obtain ⟨g', hg', hp', hc', hr', hs', haway⟩ := ih hleft (hphase.trans hp)
      (hcurrent ▸ fun hmem => hl (List.mem_cons_of_mem k hmem))
    rw [hcurrent] at hc' hs'
    refine ⟨g', hg', hp', hc', hr'.trans hround, hs'.trans (seat_attended_of_ne false hk), ?_⟩
    intro i hi
    apply haway
    by_cases hik : i = k
    · right
      rw [hik]
      exact connected_attended (hg.sound h₀) k
    · rw [seat_attended_of_ne false hik]
      exact hi.imp_left fun hmem => (List.mem_cons.mp hmem).resolve_left hik

/-- The player who has the turn of a game in play can pay, and nobody else is there. -/
structure Alone (g : Game) : Prop where
  phase : g.phase = .playing
  solvent : (g.seat g.current).bankrupt = false
  away : ∀ i, i ≠ g.current → (g.seat i).connected = false

namespace Alone

variable {g : Game}

/-- Whoever is left alone may put down a purse, and has the turn again if they are there. -/
theorem putPurse (h : g.Alone) (hs : g.Sound) {p : Purse} (hp : 0 ≤ p.money) :
    ∃ g', (g.putPurse g.current p).1 = g' ∧ g'.Alone ∧ g'.current = g.current ∧
      g'.round = g.round ∧ g'.rules = g.rules ∧ g'.paying = g.paying ∧
      g'.seat g.current = (g.seat g.current).setPurse p := by
  have hi := hs.current_lt_of_playing h.phase
  have hm := hs.taken_le_most
  have hsolvent : ¬ (p.money < 0 ∧ !(g.seat g.current).bankrupt) :=
    fun hn => Int64.not_lt.mpr hp hn.1
  have hseat : (g.modifySeat g.current (·.setPurse p)).seat g.current =
      (g.seat g.current).setPurse p := seat_modifySeat_self g _ (Nat.lt_of_lt_of_le hi hm)
  refine ⟨g.modifySeat g.current (·.setPurse p), ?_,
    ⟨h.phase, ?_, fun j (hj : j ≠ g.current) => ?_⟩, rfl, rfl, rfl, paying_modify hm _ g.eligible fun _ => rfl, hseat⟩
  · rw [Game.putPurse, if_neg hsolvent]
  · change ((g.modifySeat g.current (·.setPurse p)).seat g.current).bankrupt = false
    rw [hseat]
    exact h.solvent
  · rw [seat_modifySeat_of_ne g _ hj]
    exact h.away j hj

/-- Nobody but the player left alone can be given the turn. -/
theorem next (h : g.Alone) (hs : g.Coherent) :
    nextSeat? g.seats g.current =
      if (g.seat g.current).connected then some g.current else none := by
  have hm := hs.taken_le_most
  have hi := hs.current_lt_of_playing h.phase
  have hone {j : Nat} (he : (g.seat j).eligible) : j = g.current := by
    by_contra hj
    rw [Seat.eligible, h.away j hj] at he
    cases he
  split_ifs with hc
  · cases hn : nextSeat? g.seats g.current with
    | some next => rw [hone (g.eligible_next hm hn).2]
    | none =>
      have hno := (g.next_eq_none_iff hm).mp hn g.current hi
      rw [hs.eligible_seat hi, hs.active _ hi, hc, h.solvent] at hno
      cases hno
  · rw [g.next_eq_none_iff hm]
    intro j hj
    by_contra he
    have he : (g.seat j).eligible := by simpa using he
    rw [hone he, Seat.eligible, Bool.eq_false_iff.mpr hc] at he
    cases he

theorem passed_of_absent (h : g.Alone) (hs : g.Coherent)
    (hc : (g.seat g.current).connected = false) : g.passed = g := by
  have hnone := h.next hs
  rw [if_neg (Bool.eq_false_iff.mp hc)] at hnone
  rcases g.passed_cases h.phase with ⟨-, -, he⟩ | ⟨next, hsome, -⟩
  · exact he
  · exact absurd (hsome.symm.trans hnone) nofun

/-- Once the player left alone leaves as well, the turn stays with them. -/
theorem leave (h : g.Alone) (hs : g.Sound) (hc : (g.seat g.current).connected) {g' : Game}
    (hg : (g.perform (.disconnect g.current)).game = g') :
    g'.Alone ∧ (g'.seat g'.current).connected = false ∧
      (g'.seat g'.current).purse = (g.seat g.current).purse := by
  have hi := hs.current_lt_of_playing h.phase
  have hseat : (g.leave g.current).seat g.current =
      { g.seat g.current with connected := false } :=
    seat_modifySeat_self g _ (Nat.lt_of_lt_of_le hi hs.taken_le_most)
  have halone : (g.leave g.current).Alone := by
    refine ⟨h.phase, ?_, fun j (hj : j ≠ g.current) => ?_⟩
    · change ((g.leave g.current).seat g.current).bankrupt = false
      rw [hseat]
      exact h.solvent
    · rw [seat_leave_of_ne g hj]
      exact h.away j hj
  have hgone : ((g.leave g.current).seat g.current).connected = false := by rw [hseat]
  have hgame : g' = g.leave g.current := by
    rw [← hg, ← halone.passed_of_absent (hs.toCoherent.leave hi hc) hgone]
    have hturn : g.isTurnOf g.current := by simp [isTurnOf, h.phase]
    change (g.disconnect g.current).game = _
    rw [disconnect, seated_of_lt g hi]
    dsimp only
    rw [if_pos hc, if_pos hturn]
    exact settle_game _ _
  rw [hgame]
  refine ⟨halone, hgone, ?_⟩
  change ((g.leave g.current).seat g.current).purse = _
  rw [hseat]
  rfl

/-- A player who is alone and there has the turn again, in the next round. -/
theorem elected (h : g.Alone) (hs : g.Coherent) (htwo : 2 ≤ g.paying)
    (hround : g.round.toNat + 1 < g.rules.lapCap.toNat) :
    (g.elected g.current).Alone ∧ (g.elected g.current).current = g.current ∧
      (g.elected g.current).round.toNat = g.round.toNat + 1 := by
  have hcore := core_elected g g.current
  have hmore : g.round < g.rules.lapCap := by
    rw [UInt32.lt_iff_toNat_lt]
    omega
  have hnext := round_elected hmore g.current
  rw [if_pos (Nat.le_refl _)] at hnext
  have hpaying : (g.handTo g.current).paying = g.paying :=
    paying_of_core hs.taken_le_most rfl (core_handTo g g.current)
  have hon : ¬ (g.handTo g.current).decided := by
    rw [(g.handTo g.current).decided_iff hs.taken_le_most, hpaying, UInt32.le_iff_toNat_le,
      ← elected_round, hnext]
    change ¬ (g.paying ≤ 1 ∨ g.rules.lapCap.toNat ≤ _)
    omega
  refine ⟨⟨?_, ?_, fun j hj => ?_⟩, elected_current g _, hnext⟩
  · rw [elected_phase, if_neg hon]
    exact h.phase
  · rw [elected_current, (Seat.of_core (hcore _)).2.2.1]
    exact h.solvent
  · rw [elected_current] at hj
    rw [(Seat.of_core (hcore j)).1]
    exact h.away j hj

/-- A move of a player who is alone is followed by their next turn if they are there, as long as
there are rounds left, and by nothing if they are not. -/
theorem act (h : g.Alone) (hs : g.Sound) (hj : g.Judged) {move : Purse → Purse}
    (hmove : 0 ≤ (move (g.seat g.current).purse).money) {g' : Game}
    (hg : (g.perform (.act g.current move)).game = g') :
    ((g.seat g.current).connected = true → g.round.toNat + 1 < g.rules.lapCap.toNat →
      ¬ g.Stalls (.act g.current move) ∧ g'.Alone ∧ g'.round.toNat = g.round.toNat + 1 ∧
        (g'.seat g'.current).connected = true ∧
        (g'.seat g'.current).purse = move (g.seat g.current).purse) ∧
    ((g.seat g.current).connected = false →
      g'.Alone ∧ (g'.seat g'.current).connected = false ∧
        (g'.seat g'.current).purse = move (g.seat g.current).purse) := by
  have hi := hs.current_lt_of_playing h.phase
  have hco := hs.putPurse hi h.phase (move (g.seat g.current).purse)
  obtain ⟨hanswer, hgame⟩ := g.perform_act h.phase hi rfl move
  obtain ⟨k, hk, halone, hcurrent, hround, hrules, hpaying, hseat⟩ := h.putPurse hs hmove
  rw [hk] at hanswer hgame hco
  rw [hg] at hgame
  have hnext := halone.next hco
  rw [hcurrent, hseat] at hnext
  refine ⟨fun hc hleft => ?_, fun hc => ?_⟩
  · rcases k.passed_cases halone.phase with ⟨hnone, -⟩ | ⟨next, hsome, hturn, hpassed⟩
    · rw [hcurrent, hnext] at hnone
      simp [Seat.setPurse, hc] at hnone
    · have hself : next = k.current := by
        rw [hcurrent, hnext] at hsome
        simpa [Seat.setPurse, hc, hcurrent, eq_comm] using hsome
      have htwo := (hj.opened h.phase).two_le h.solvent
      obtain ⟨hagain, hstays, hlater⟩ := halone.elected hco (by omega)
        (by rw [hround, hrules]; exact hleft)
      have hcore := Seat.of_core (core_elected k k.current k.current)
      rw [hpassed, hself] at hgame
      rw [hgame]
      refine ⟨?_, hagain, by rw [hlater, hround], ?_, ?_⟩
      · intro hstall
        cases (hanswer.trans hturn).symm.trans hstall
      · rw [hstays, hcore.1, hcurrent, hseat]
        exact hc
      · rw [hstays, Seat.purse, hcore.2.2.2.1, hcore.2.2.2.2, hcurrent, hseat]
        rfl
  · rw [halone.passed_of_absent hco (by rw [hcurrent, hseat]; exact hc)] at hgame
    rw [hgame, hcurrent, hseat]
    exact ⟨halone, hc, rfl⟩

end Alone

section lucky

variable {rules : Rules} (h : rules.Valid) (saved : Option Score.Board)
include h

theorem exists_alone :
    ∃ g, (new rules saved).RollsTo 0 g ∧ g.Alone ∧ g.round = 0 ∧
      (g.seat g.current).connected ∧ (g.seat g.current).purse = ⟨rules.startingMoney, 0⟩ := by
  have hnew := sound_new h saved
  obtain ⟨g, hg, hgathered⟩ := exists_gathered h saved (Nat.le_refl _)
  have hrules := hg.rules
  have hp := hgathered.playing (by rw [hrules]; rfl)
  have hlt := (hg.sound hnew).current_lt_of_playing hp
  obtain ⟨hsolvent, hpurse⟩ := Prod.mk.inj (hgathered.fresh _ hlt)
  obtain ⟨g', hg', hp', hcurrent, hround, hseat, haway⟩ :=
    exists_left hg hnew hp ((List.range g.taken).filter (· ≠ g.current)) (by simp)
  refine ⟨g', hg', ⟨hp', ?_, fun i hi => haway i ?_⟩, hround.trans hgathered.round, ?_, ?_⟩
  · rw [hcurrent, hseat]
    exact hsolvent
  · by_cases hit : i < g.taken
    · left
      simp only [List.mem_filter, List.mem_range, decide_eq_true_eq]
      exact ⟨hit, hcurrent ▸ hi⟩
    · right
      rw [(hg.sound hnew).blank i (Nat.not_lt.mp hit)]
  · rw [hcurrent, hseat]
    exact hgathered.present _ hlt
  · rw [hcurrent, hseat, hpurse, hrules]
    rfl

omit saved in
theorem startingMoney_nonneg : 0 ≤ rules.startingMoney.toInt :=
  Int.le_of_lt (Int64.lt_iff_toInt_lt.mp h.startingMoney_pos)

/-- Lucky rolls of a player who is alone but there take a round each. -/
theorem exists_lucky_lap {count : Nat} (hcount : count < rules.lapCap.toNat)
    (hfits : Dice.fortune rules.startingMoney.toInt count ≤ Int64.maxValue.toInt) :
    ∃ g, (new rules saved).RollsTo 0 g ∧ g.Alone ∧ g.round.toNat = count ∧
      (g.seat g.current).connected ∧
      Dice.Lucky rules.startingMoney.toInt count (g.seat g.current).purse := by
  induction count with
  | zero =>
    obtain ⟨g, hg, halone, hround, hc, hpurse⟩ := exists_alone h saved
    refine ⟨g, hg, halone, by rw [hround]; rfl, hc, ?_⟩
    rw [hpurse]
    exact Dice.lucky_start rules.startingMoney
  | succ count ih =>
    obtain ⟨g, hg, halone, hround, hc, hlucky⟩ :=
      ih (by omega) (Int.le_trans (Dice.fortune_mono _ (Nat.le_succ count)) hfits)
    have hnew := sound_new h saved
    have hnext := hlucky.rolled hfits
    obtain ⟨hthere, -⟩ := halone.act (hg.sound hnew) (hg.timely hnew (.new rules saved)).judged
      (hnext.nonneg (startingMoney_nonneg h)) rfl
    obtain ⟨hstall, halone', hround', hc', hpurse⟩ := hthere hc
      (by rw [hround, hg.rules]; exact hcount)
    have hcall := hg.call (c := .act g.current (Dice.rolled Dice.lucky)) ⟨_, rfl⟩
    rw [if_neg hstall] at hcall
    exact ⟨_, hcall, halone', by rw [hround', hround], hc', hpurse ▸ hnext⟩

/-- Lucky rolls of a player who is not even there take no rounds. -/
theorem exists_lucky_rest {count : Nat}
    (hfits : Dice.fortune rules.startingMoney.toInt count ≤ Int64.maxValue.toInt) :
    ∃ n g, (new rules saved).RollsTo n g ∧ g.Alone ∧ (g.seat g.current).connected = false ∧
      Dice.Lucky rules.startingMoney.toInt count (g.seat g.current).purse := by
  have hnew := sound_new h saved
  induction count with
  | zero =>
    obtain ⟨g, hg, halone, -, hc, hpurse⟩ := exists_alone h saved
    obtain ⟨hleft, haway, hkept⟩ := halone.leave (hg.sound hnew) hc rfl
    refine ⟨_, _, hg.call (c := .disconnect g.current) trivial, hleft, haway, ?_⟩
    rw [hkept, hpurse]
    exact Dice.lucky_start rules.startingMoney
  | succ count ih =>
    obtain ⟨n, g, hg, halone, hc, hlucky⟩ :=
      ih (Int.le_trans (Dice.fortune_mono _ (Nat.le_succ count)) hfits)
    have hnext := hlucky.rolled hfits
    obtain ⟨-, hgone⟩ := halone.act (hg.sound hnew) (hg.timely hnew (.new rules saved)).judged
      (hnext.nonneg (startingMoney_nonneg h)) rfl
    obtain ⟨halone', hc', hpurse⟩ := hgone hc
    exact ⟨_, _, hg.call (c := .act g.current (Dice.rolled Dice.lucky)) ⟨_, rfl⟩, halone', hc',
      hpurse ▸ hnext⟩

omit saved h in
/-- Money that does not fit after some rolls has stopped fitting with one of them. -/
theorem exists_last_fit {start : Int} (hstart : start ≤ Int64.maxValue.toInt) {count : Nat}
    (hover : Int64.maxValue.toInt < Dice.fortune start count) :
    ∃ k < count, Dice.fortune start k ≤ Int64.maxValue.toInt ∧
      Int64.maxValue.toInt < Dice.fortune start (k + 1) := by
  induction count with
  | zero =>
    rw [Dice.fortune_zero] at hover
    omega
  | succ count ih =>
    by_cases hfits : Dice.fortune start count ≤ Int64.maxValue.toInt
    · exact ⟨count, Nat.lt_succ_self count, hfits, hover⟩
    · obtain ⟨k, hk, hlast⟩ := ih (Int.not_le.mp hfits)
      exact ⟨k, Nat.lt_succ_of_lt hk, hlast⟩

omit saved h in
theorem not_canRoll_of_error {g : Game} {i : Nat} {s : Seat} (hm : g.mover i = .ok s)
    {dice : Dice.Source} {o : Dice.Overflow} (hr : Dice.roll dice s.purse = .error o) :
    ¬ g.CanRoll := by
  intro hroll
  obtain ⟨r, hok⟩ := hroll i s hm dice
  cases hok.symm.trans hr

omit saved h in
theorem Alone.not_canRoll {g : Game} (halone : g.Alone) (hs : g.Sound) {count : Nat} {start : Int}
    (hlucky : Dice.Lucky start count (g.seat g.current).purse)
    (hover : Int64.maxValue.toInt < Dice.fortune start (count + 1)) : ¬ g.CanRoll := by
  have hlt := hs.current_lt_of_playing halone.phase
  exact not_canRoll_of_error (g.mover_of_turn halone.phase hlt rfl) (hlucky.roll_error hover)

omit saved h in
theorem exists_fortune_over (start : Int) (hstart : 0 ≤ start) :
    ∃ count, Int64.maxValue.toInt < Dice.fortune start count := by
  have hmax : Int64.maxValue.toInt = 9223372036854775807 := rfl
  refine ⟨Dice.boardSize * 9223372036854775808, ?_⟩
  unfold Dice.fortune Dice.boardSize Dice.bonus Dice.faces
  omega

/-- Who rolls once a turn can never roll too much if the bonus of all rounds fits, and otherwise
can. Each move that nobody can follow allows for one more roll, and with enough of them a roll fails
whatever the rules. -/
theorem canRoll_laws :
    (∀ n g, (new rules saved).RollsTo n g →
      Dice.Fits rules.startingMoney.toInt (rules.lapCap.toNat + n) → g.CanRoll) ∧
    ((∀ g, (new rules saved).RollsTo 0 g → g.CanRoll) ↔
      Dice.fortune rules.startingMoney.toInt rules.lapCap.toNat ≤ Int64.maxValue.toInt) ∧
    ∃ n g, (new rules saved).RollsTo n g ∧ ¬ g.CanRoll := by
  have hnew := sound_new h saved
  have hstart := rules.startingMoney.toInt_le
  have hsafe (n : Nat) (g : Game) (hg : (new rules saved).RollsTo n g)
      (hfits : Dice.Fits rules.startingMoney.toInt (rules.lapCap.toNat + n)) : g.CanRoll := by
    obtain ⟨calls, hdice, rfl, rfl⟩ := hg
    have ht := Timely.new rules saved
    have hrationed := (Rationed.new rules saved).run hnew ht hdice
    rw [Nat.zero_add] at hrationed
    refine hrationed.canRoll (RollsTo.timely ⟨calls, hdice, rfl, rfl⟩ hnew ht) ?_
    rw [run_rules]
    exact hfits
  refine ⟨hsafe, ⟨fun hall => ?_, fun hfits g hg => hsafe 0 g hg ⟨?_, hfits⟩⟩, ?_⟩
  · by_contra hover
    obtain ⟨k, hk, hlast, hnext⟩ := exists_last_fit hstart (Int.not_le.mp hover)
    obtain ⟨g, hg, halone, -, -, hlucky⟩ := exists_lucky_lap h saved hk hlast
    exact halone.not_canRoll (hg.sound hnew) hlucky hnext (hall g hg)
  · have hcap := rules.lapCap.toNat_lt
    have hmin : Int64.minValue.toInt = -9223372036854775808 := rfl
    have hpos := startingMoney_nonneg h
    unfold Dice.highestRent
    omega
  · obtain ⟨count, hover⟩ := exists_fortune_over _ (startingMoney_nonneg h)
    obtain ⟨k, -, hlast, hnext⟩ := exists_last_fit hstart hover
    obtain ⟨n, g, hg, halone, -, hlucky⟩ := exists_lucky_rest h saved hlast
    exact ⟨n, g, hg, halone.not_canRoll (hg.sound hnew) hlucky hnext⟩

end lucky

theorem canRoll_laws_of_fifty_rounds :
    Rules.Valid {} ∧ (∀ g, (new {}).RollsTo 0 g → g.CanRoll) ∧
      ∃ n g, (new {}).RollsTo n g ∧ ¬ g.CanRoll := by
  have hr : Rules.Valid {} := by decide
  obtain ⟨-, hsafe, hstalled⟩ := canRoll_laws hr none
  exact ⟨hr, hsafe.mpr (by decide), hstalled⟩

/-- With all the money there is to start from, the first to come round the board gets too much. -/
theorem not_canRoll_of_riches :
    ∃ rules : Rules, rules = { startingMoney := 9223372036854775807 } ∧ rules.Valid ∧
      ∃ g, (new rules).RollsTo 0 g ∧ g.mover 0 = .ok (g.seat 0) ∧
        (g.seat 0).purse = ⟨9223372036854775807, 18⟩ ∧
        Dice.roll Dice.lucky (g.seat 0).purse = .error .add ∧ ¬ g.CanRoll := by
  obtain ⟨calls, hcalls⟩ : ∃ calls : List Call, calls = [.join "ann", .join "bob", .join "cleo"] ++
      (List.replicate 3 ((List.range 3).map fun i => .act i (Dice.rolled Dice.lucky))).flatten :=
    ⟨_, rfl⟩
  obtain ⟨g, hg⟩ : ∃ g, (new { startingMoney := 9223372036854775807 }).run calls = g := ⟨_, rfl⟩
  have hmover : g.mover 0 = .ok (g.seat 0) := by
    rw [← hg, hcalls]
    decide +kernel
  have hpurse : (g.seat 0).purse = ⟨9223372036854775807, 18⟩ := by
    rw [← hg, hcalls]
    decide +kernel
  have hroll : Dice.roll Dice.lucky (g.seat 0).purse = .error .add := by
    rw [hpurse]
    decide
  refine ⟨_, rfl, by decide, g, ⟨calls, ?_, by rw [hcalls]; decide +kernel, hg⟩, hmover, hpurse,
    hroll, not_canRoll_of_error hmover hroll⟩
  intro c hc
  rw [hcalls] at hc
  rcases List.mem_append.mp hc with hc | hc
  · cases c with
    | act i move => simp at hc
    | _ => trivial
  · simp only [List.mem_flatten, List.mem_replicate] at hc
    obtain ⟨_, ⟨-, rfl⟩, hc⟩ := hc
    obtain ⟨i, -, rfl⟩ := List.mem_map.mp hc
    exact ⟨_, rfl⟩

end Rota.Game
