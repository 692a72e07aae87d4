import Rota.Proofs.Game.Fairness
import Rota.Proofs.Game.Signals
import Mathlib.Algebra.BigOperators.Group.Finset.Piecewise
import Mathlib.Algebra.Group.Action.Defs
import Mathlib.Algebra.Order.BigOperators.Group.Finset

namespace Rota.Game

/-- The turns that all seats have had together. -/
def turnsGiven (g : Game) : Nat := ∑ i ∈ Finset.range mostSeats, (g.seat i).turns.toNat

/-- What an answer says about the turn, if it says that it has been passed on. -/
def turnIn? {ε : Type} : Except ε Done → Option Handover
  | .ok (.turn h) => some h
  | _ => none

/-- The player whose turn it is leaves while somebody else could have it. -/
def Yields (g : Game) : Call → Prop
  | .disconnect i => g.phase = .playing ∧ g.current = i ∧ (g.seat i).connected ∧
      ∃ j, j ≠ i ∧ (g.seat j).eligible
  | _ => False

/-- A call that gives the turn of a game in play to a seat. -/
def HandsOver (g : Game) (c : Call) : Prop :=
  (turnIn? (g.perform c).answer).isSome ∨ g.Yields c

section moves

variable (g : Game)

@[simp] theorem leave_moves (i : Nat) : (g.leave i).moves = g.moves := rfl

@[simp] theorem arrive_moves (i : Nat) : (g.arrive i).moves = g.moves := rfl

@[simp] theorem seatNext_moves (name : String) : (g.seatNext name).moves = g.moves := rfl

@[simp] theorem putPurse_moves (i : Nat) (p : Purse) : (g.putPurse i p).1.moves = g.moves :=
  (SameTurn.putPurse g i p).moves

@[simp] theorem startIfReady_moves : g.startIfReady.1.moves = g.moves := by
  rcases startIfReady_eq g with h | ⟨first, h⟩
  · rw [h]
  · rw [h]
    rfl

/-- A turn that is passed on is counted, and reported as passed on. -/
theorem passed_moves_ne_iff (hp : g.phase = .playing) :
    (g.passed.moves ≠ g.moves ↔ nextSeat? g.seats g.current ≠ none) ∧
      (g.passed.moves ≠ g.moves ↔ (turnIn? g.handed).isSome) := by
  rcases g.passed_cases hp with ⟨hn, ha, he⟩ | ⟨next, hn, ha, he⟩
  · rw [hn, ha, he]
    simp [turnIn?]
  · rw [hn, ha, he]
    simp [turnIn?]

end moves

theorem Idles.not_yields {g : Game} {c : Call} (h : g.Idles c) (hs : g.Sound) : ¬ g.Yields c := by
  intro hy
  cases c with
  | disconnect i =>
    obtain ⟨hp, hcur, hcon, -⟩ := hy
    have hlt := hs.current_lt_of_playing hp
    rcases h with h | h
    · omega
    · exact Bool.false_ne_true (h.symm.trans hcon)
  | join name => exact hy
  | connect i => exact hy
  | advance => exact hy
  | act i move => exact hy

theorem eligible_leave_self (g : Game) (i : Nat) : ((g.leave i).seat i).eligible = false := by
  by_cases hi : i < mostSeats
  · have hseat : (g.leave i).seat i = { g.seat i with connected := false } :=
      seat_modifySeat_self g _ hi
    rw [hseat]
    rfl
  · rw [seat_of_le _ (by omega)]
    rfl

theorem next_leave_iff {g : Game} (h : g.Coherent) (i : Nat) :
    nextSeat? (g.leave i).seats (g.leave i).current ≠ none ↔
      ∃ j, j ≠ i ∧ (g.seat j).eligible := by
  have hm : (g.leave i).taken ≤ mostSeats := h.taken_le_most
  rw [Ne, next_eq_none_iff _ hm]
  constructor
  · intro hn
    simp only [not_forall, Bool.not_eq_false] at hn
    obtain ⟨j, -, hj⟩ := hn
    have hne : j ≠ i := by
      rintro rfl
      exact Bool.false_ne_true ((g.eligible_leave_self j).symm.trans hj)
    exact ⟨j, hne, by rwa [seat_leave_of_ne g hne] at hj⟩
  · rintro ⟨j, hne, hj⟩ hall
    have hfalse := hall j (h.lt_of_eligible hj)
    rw [seat_leave_of_ne g hne, hj] at hfalse
    exact Bool.false_ne_true hfalse.symm

/-- Moves are counted by the calls that hand the turn over, and by no others. -/
theorem Change.moves_ne_iff {g g' : Game} {c : Call} {a : Except Fault Done} (h : g.Sound)
    (hc : g.Change c a g') : g'.moves ≠ g.moves ↔ (turnIn? a).isSome ∨ g.Yields c := by
  cases hc with
  | idle hi ha =>
    have hnone : turnIn? a = none := by rcases ha with rfl | ⟨f, rfl⟩ <;> rfl
    simp [hnone, hi.not_yields h]
  | join name hp hc => simp [turnIn?, Yields]
  | connect i hp hi hc => simp [turnIn?, Yields]
  | leave i hi hc ht =>
    have hno : ¬ g.Yields (.disconnect i) := fun hy => ht ⟨hy.1, hy.2.1⟩
    simp [turnIn?, hno]
  | yield i hi hc hp ht =>
    have hleave := ((g.leave i).passed_moves_ne_iff hp).1
    rw [leave_moves, next_leave_iff h.toCoherent i] at hleave
    rw [hleave]
    simp [turnIn?, Yields, hp, ht, hc]
  | advance hp =>
    rw [(g.passed_moves_ne_iff hp).2]
    simp [Yields]
  | act i move hp hi ht =>
    have hput := (passed_moves_ne_iff _ ((putPurse_phase g i (move (g.seat i).purse)).trans hp)).2
    rw [putPurse_moves] at hput
    rw [hput]
    simp [Yields]

theorem handsOver_iff {g : Game} (h : g.Sound) (c : Call) :
    g.HandsOver c ↔ (g.perform c).game.moves ≠ g.moves :=
  ((perform_change g c).moves_ne_iff h).symm

/-- Nobody has had more turns than there have been rounds. -/
theorem Paced.turnsGiven_le {g : Game} (h : g.Paced) :
    g.turnsGiven ≤ mostSeats * (g.round.toNat + 1) := by
  have hle : ∀ i ∈ Finset.range mostSeats, (g.seat i).turns.toNat ≤ g.round.toNat + 1 := by
    intro i _
    have hi := h i
    unfold pace at hi
    split_ifs at hi <;> omega
  have hsum := Finset.sum_le_card_nsmul _ _ _ hle
  rwa [Finset.card_range, smul_eq_mul] at hsum

theorem Gives.lt_most {g g' : Game} {x : Nat} (h : g.Gives (some x) g') : x < mostSeats := by
  cases h with
  | start hc hs hw hi => exact Nat.lt_of_lt_of_le hi hc.taken_le_most
  | pass hc hs hp ho hn => exact Nat.lt_of_lt_of_le (hc.next_lt hn) hc.taken_le_most

theorem Gives.turnsGiven {g g' : Game} {x : Option Nat} (h : g.Gives x g') (hp : g.Paced) :
    g'.turnsGiven = g.turnsGiven + if x.isSome then 1 else 0 := by
  have hsum : g'.turnsGiven = ∑ i ∈ Finset.range mostSeats,
      ((g.seat i).turns.toNat + if x = some i then 1 else 0) :=
    Finset.sum_congr rfl fun i _ => h.turns hp i
  rw [hsum, Finset.sum_add_distrib]
  congr 1
  cases x with
  | none => simp
  | some x => simp [h.lt_most]

/-- What a call does to the counts of rounds and moves: nothing, or one move more, and one round
more if the turn does not go to a later seat. -/
theorem Gives.counts {g g' : Game} {x : Option Nat} (h : g.Gives x g') (hs : g.Coherent)
    (hr : g.InRounds) (hm : g.moves.toNat + 1 < UInt64.size) :
    g'.moves = g.moves ∧ g'.round = g.round ∨
      g.phase = .playing ∧ x = some g'.current ∧ g'.moves.toNat = g.moves.toNat + 1 ∧
        g'.round.toNat = g.round.toNat + if g'.current ≤ g.current then 1 else 0 := by
  cases h with
  | nobody hc ht => exact .inl ⟨ht.moves, ht.round⟩
  | start hc ht hw hi => exact .inl ⟨ht.moves, (hs.waiting hw).1.symm⟩
  | @pass h hc ht hp ho next hn =>
    have hround := round_elected (g := h) (by rw [ht.round, ht.rules]; exact hr hp) next
    refine .inr ⟨hp, by rw [elected_current], ?_, ?_⟩
    · rw [elected_moves, ht.moves, UInt64.toNat_add, UInt64.toNat_one]
      exact Nat.mod_eq_of_lt hm
    · rw [hround, ht.round, ht.current, elected_current]

/-- How the counts of a game stand between calls. -/
structure Accounted (g : Game) : Prop where
  turns : g.turnsGiven = g.moves.toNat + if g.phase = .waiting then 0 else 1
  round_le : g.round.toNat ≤ g.rules.lapCap.toNat
  moves_le : g.moves.toNat ≤ mostSeats * g.rules.lapCap.toNat

/-- As long as the game goes on, there is a move left within the rounds. -/
theorem Accounted.moves_lt {g : Game} (h : g.Accounted) (ht : g.Timely) (hp : g.phase = .playing) :
    g.moves.toNat < mostSeats * g.rules.lapCap.toNat := by
  have hsum := h.turns
  rw [hp, if_neg nofun] at hsum
  have hle := ht.paced.turnsGiven_le
  have hround := UInt32.lt_iff_toNat_lt.mp (ht.judged.inRounds hp)
  have hmul : mostSeats * (g.round.toNat + 1) ≤ mostSeats * g.rules.lapCap.toNat :=
    Nat.mul_le_mul_left _ hround
  omega

theorem Accounted.no_overflow {g : Game} (h : g.Accounted) :
    g.moves.toNat + 1 < UInt64.size := by
  have hle := h.moves_le
  have hcap := g.rules.lapCap.toNat_lt
  have hmost : mostSeats = 5 := rfl
  have hsize : UInt64.size = 18446744073709551616 := rfl
  rw [hmost] at hle
  omega

theorem Gives.turns_eq {g g' : Game} {x : Option Nat} (h : g.Gives x g') (hg : g.Accounted)
    (hp : g.Paced) : g'.turnsGiven = g'.moves.toNat + if g'.phase = .waiting then 0 else 1 := by
  have hsum := h.turnsGiven hp
  rw [hg.turns] at hsum
  cases h with
  | nobody hc hs =>
    rw [hsum, hs.moves, hs.phase]
    rfl
  | @start h hc hs hw first hi =>
    have hmoves : (h.startWith first).moves = g.moves := hs.moves
    rw [hsum, hw, hmoves]
    rfl
  | @pass h hc hs hpl ho next hn =>
    have hphase : (h.elected next).phase ≠ .waiting := (Gives.pass hc hs hpl ho hn).current.2
    rw [hsum, hpl, if_neg hphase, elected_moves, hs.moves, UInt64.toNat_add, UInt64.toNat_one]
    rw [Nat.mod_eq_of_lt hg.no_overflow]
    rfl

namespace Accounted

variable {g g' : Game}

theorem change {c : Call} {a : Except Fault Done} (h : g.Accounted) (hs : g.Sound)
    (ht : g.Timely) (hc : g.Change c a g') : g'.Accounted := by
  have hgives := hc.gives hs
  have hcounts := hgives.counts hs.toCoherent ht.judged.inRounds h.no_overflow
  refine ⟨hgives.turns_eq h ht.paced, ?_, ?_⟩
  · rw [hc.rules]
    rcases hcounts with ⟨-, hround⟩ | ⟨hp, -, -, hround⟩
    · rw [hround]
      exact h.round_le
    · have hlt := UInt32.lt_iff_toNat_lt.mp (ht.judged.inRounds hp)
      rw [hround]
      split_ifs <;> omega
  · rw [hc.rules]
    rcases hcounts with ⟨hmoves, -⟩ | ⟨hp, -, hmoves, -⟩
    · rw [hmoves]
      exact h.moves_le
    · rw [hmoves]
      exact h.moves_lt ht hp

theorem took (h : g.Accounted) (i : Nat) : (g.took i).Accounted := by
  refine ⟨?_, h.round_le, h.moves_le⟩
  have hturns : (g.took i).turnsGiven = g.turnsGiven :=
    Finset.sum_congr rfl fun j _ => by rw [turns_took]
  exact hturns.trans h.turns

theorem new (rules : Rules) (saved : Option Score.Board) : (new rules saved).Accounted := by
  refine ⟨?_, Nat.zero_le _, Nat.zero_le _⟩
  apply Finset.sum_eq_zero
  intro i _
  rw [seat_new]
  rfl

theorem afterAll (h : g.Accounted) (hs : g.Sound) (ht : g.Timely) (deeds : List Deed) :
    (g.afterAll deeds).Accounted := by
  have hboth : (g.afterAll deeds).Timely ∧ (g.afterAll deeds).Accounted :=
    hs.afterAll_induction (P := fun g => g.Timely ∧ g.Accounted)
      (fun hs hg hc => ⟨hg.1.change hs hc, hg.2.change hs hg.1 hc⟩)
      (fun hs hg _ => ⟨hg.1.took hs _, hg.2.took _⟩) ⟨ht, h⟩ deeds
  exact hboth.2

end Accounted

theorem afterAll_rules {g : Game} (hs : g.Sound) (deeds : List Deed) :
    (g.afterAll deeds).rules = g.rules :=
  hs.afterAll_induction (P := fun h => h.rules = g.rules) (fun _ hg hc => hc.rules.trans hg)
    (fun _ hg _ => hg) rfl deeds

theorem counts_le_after {g : Game} (hs : g.Sound) (ht : g.Timely) (ha : g.Accounted) (d : Deed) :
    g.round ≤ (g.after d).round ∧ g.moves ≤ (g.after d).moves := by
  rw [UInt32.le_iff_toNat_le, UInt64.le_iff_toNat_le]
  cases d with
  | call c =>
    have hc := (perform_change g c).gives hs
    rcases hc.counts hs.toCoherent ht.judged.inRounds ha.no_overflow with
      ⟨hm, hr⟩ | ⟨-, -, hm, hr⟩
    · exact ⟨Nat.le_of_eq (congrArg _ hr.symm), Nat.le_of_eq (congrArg _ hm.symm)⟩
    · dsimp only [after]
      omega
  | take i =>
    rcases g.take_cases i with ⟨-, he⟩ | ⟨-, -, -, he⟩
    · rw [he]
      exact ⟨Nat.le_refl _, Nat.le_refl _⟩
    · rw [he]
      exact ⟨Nat.le_refl _, Nat.le_refl _⟩

/-- Rounds and moves are not taken back. -/
theorem counts_le_afterAll {g : Game} (hs : g.Sound) (ht : g.Timely) (ha : g.Accounted)
    (deeds : List Deed) :
    g.round ≤ (g.afterAll deeds).round ∧ g.moves ≤ (g.afterAll deeds).moves := by
  induction deeds generalizing g with
  | nil => exact ⟨UInt32.le_refl _, UInt64.le_refl _⟩
  | cons d deeds ih =>
    obtain ⟨hround, hmoves⟩ := counts_le_after hs ht ha d
    have hrest := ih (hs.afterAll [d]) (ht.afterAll hs [d]) (ha.afterAll hs ht [d])
    exact ⟨UInt32.le_trans hround hrest.1, UInt64.le_trans hmoves hrest.2⟩

/-- Every turn is counted, for its seat and for the game, and a round is counted when the turn does
not go to a later seat. No seat has two turns in a round, and no count comes to the end of its
range, since the rounds are used up before. -/
theorem accounted_afterAll {rules : Rules} (h : rules.Valid) (saved : Option Score.Board)
    (deeds : List Deed) {g : Game} (hg : (new rules saved).afterAll deeds = g) :
    (g.phase ≠ .waiting → g.turnsGiven = g.moves.toNat + 1 ∧
      ∀ i, (g.seat i).turns.toNat ≤ g.round.toNat + if i ≤ g.current then 1 else 0) ∧
    (g.phase = .playing → g.round < rules.lapCap) ∧ g.round ≤ rules.lapCap ∧
    g.moves.toNat ≤ mostSeats * rules.lapCap.toNat ∧
    (∀ more, g.round ≤ (g.afterAll more).round ∧ g.moves ≤ (g.afterAll more).moves) ∧
    ∀ c g', (g.perform c).game = g' →
      (g.HandsOver c → g'.moves.toNat = g.moves.toNat + 1 ∧
        g'.round.toNat = g.round.toNat + if g'.current ≤ g.current then 1 else 0) ∧
      (¬ g.HandsOver c → g'.moves = g.moves ∧ g'.round = g.round) ∧
      ∀ i, (g'.seat i).turns.toNat =
        (g.seat i).turns.toNat + if g.elects? g' = some i then 1 else 0 := by
  have hnew := sound_new h saved
  have htnew := Timely.new rules saved
  have hs : g.Sound := hg ▸ hnew.afterAll deeds
  have ht : g.Timely := hg ▸ htnew.afterAll hnew deeds
  have ha : g.Accounted := hg ▸ (Accounted.new rules saved).afterAll hnew htnew deeds
  have hcap : g.rules.lapCap = rules.lapCap := by
    rw [← hg, afterAll_rules hnew]
    rfl
  rw [← hcap]
  refine ⟨fun hp => ⟨?_, fun i => ?_⟩, ht.judged.inRounds, ha.round_le, ha.moves_le,
    counts_le_afterAll hs ht ha, ?_⟩
  · have hturns := ha.turns
    rwa [if_neg hp] at hturns
  · have hpace := ht.paced i
    rwa [pace, if_congr (and_iff_right hp) rfl rfl] at hpace
  · rintro c g' rfl
    have hgives := (perform_change g c).gives hs
    have hcounts := hgives.counts hs.toCoherent ht.judged.inRounds ha.no_overflow
    rw [handsOver_iff hs]
    refine ⟨fun hne => ?_, fun heq => ?_, hgives.turns ht.paced⟩
    · rcases hcounts with ⟨hm, -⟩ | ⟨-, -, hm, hr⟩
      · exact absurd hm hne
      · exact ⟨hm, hr⟩
    · rcases hcounts with ⟨hm, hr⟩ | ⟨-, -, hm, -⟩
      · exact ⟨hm, hr⟩
      · have hsame := congrArg UInt64.toNat (not_not.mp heq)
        omega

theorem accounted_afterAll_of_newcomer :
    ∃ g, (new { lapCap := 2 }).afterAll [.call (.join "ann"), .call (.join "bob"),
        .call (.join "cleo"), .call (.act 0 id), .call (.join "dan"), .call (.disconnect 1),
        .call .advance] = g ∧ Rules.Valid { lapCap := 2 } ∧ g.turnsGiven = g.moves.toNat + 1 ∧
      g.moves = 3 ∧ g.HandsOver (.act 3 id) ∧
      (g.perform (.act 3 id)).game.round.toNat = g.round.toNat + 1 := by
  have hr : Rules.Valid { lapCap := 2 } := by decide
  obtain ⟨hturns, -, -, -, -, hstep⟩ := accounted_afterAll hr none [.call (.join "ann"),
    .call (.join "bob"), .call (.join "cleo"), .call (.act 0 id), .call (.join "dan"),
    .call (.disconnect 1), .call .advance] rfl
  refine ⟨_, rfl, hr, (hturns (by decide +kernel)).1, by decide +kernel,
    .inl (by decide +kernel), ?_⟩
  have hover := (hstep (.act 3 id) _ rfl).1 (.inl (by decide +kernel))
  exact hover.2.trans (by decide +kernel)

end Rota.Game
