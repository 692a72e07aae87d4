import Rota.Proofs.Game.Sound

namespace Rota.Game

/-- A game in play that anybody could be given the turn in has given it to such a seat. -/
def Led (g : Game) : Prop :=
  g.phase = .playing → 0 < g.eligible.toNat → (g.seat g.current).eligible

instance (g : Game) : Decidable g.Led := inferInstanceAs (Decidable (_ → _))

/-- Calls that bring a player into a resting game whose turn is another's. -/
def Rouses (g : Game) : Call → Prop
  | .join _ => g.phase = .playing ∧ g.eligible.toNat = 0 ∧ g.taken < g.capacity
  | .connect i => g.phase = .playing ∧ g.eligible.toNat = 0 ∧ i < g.taken ∧ (g.seat i).inPlay ∧
      i ≠ g.current
  | _ => False

instance (g : Game) : (c : Call) → Decidable (g.Rouses c)
  | .join _ | .connect _ => inferInstanceAs (Decidable (_ ∧ _))
  | .disconnect _ | .advance | .act _ _ => inferInstanceAs (Decidable False)

theorem led_of_not_playing {g : Game} (h : g.phase ≠ .playing) : g.Led :=
  fun hp => absurd hp h

/-- Where the turn has been passed on, either a seat has it that may move or there is none. -/
theorem led_passed {g : Game} (h : g.Coherent) (hp : g.phase = .playing) : g.passed.Led := by
  rcases g.passed_cases hp with ⟨hn, -, he⟩ | ⟨next, hn, -, he⟩
  · rw [he]
    intro _ hpos
    have hz := h.eligible_eq_zero_iff.mpr ((g.next_eq_none_iff h.taken_le_most).mp hn)
    omega
  · rw [he]
    intro _ _
    rw [elected_current, Seat.eligible_of_core (core_elected g next next)]
    exact (g.eligible_next h.taken_le_most hn).2

theorem led_startIfReady {g : Game} (h : g.Coherent) (hp : g.phase = .waiting) :
    g.startIfReady.1.Led := by
  rcases g.startIfReady_cases h.taken_le_most with ⟨he, -⟩ | ⟨first, -, hf, -, -, he⟩
  · rw [he]
    exact led_of_not_playing (by rw [hp]; nofun)
  · rw [he]
    intro _ _
    exact (Seat.eligible_of_core (core_startWith g first first)).trans hf

theorem eligible_arrive_self (g : Game) {i : Nat} (h : i < mostSeats) :
    ((g.arrive i).seat i).eligible = (g.seat i).inPlay := by
  rw [seat_arrive_self g h]
  rfl

/-- An arrival finds the turn at a seat that may move unless it ends a rest at another's turn. -/
theorem led_arrive_iff {g : Game} (h : g.Coherent) (hl : g.Led) (hp : g.phase = .playing)
    {i : Nat} (hi : i < g.taken) (hc : (g.seat i).connected = false) :
    (g.arrive i).Led ↔ ¬ (g.eligible.toNat = 0 ∧ (g.seat i).inPlay ∧ i ≠ g.current) := by
  have he := h.eligible_arrive i
  have hself := g.eligible_arrive_self (Nat.lt_of_lt_of_le hi h.taken_le_most)
  by_cases hz : g.eligible.toNat = 0
  · by_cases hin : (g.seat i).inPlay
    · -- The count rises to one, so the turn has to lie with the seat that comes.
      rw [hz, hin] at he
      by_cases hcur : i = g.current
      · subst hcur
        exact ⟨fun _ hr => hr.2.2 rfl, fun _ _ _ => hself.trans hin⟩
      · refine ⟨fun hled => ?_, fun hr => absurd ⟨hz, hin, hcur⟩ hr⟩
        have hcurrent : ((g.arrive i).seat g.current).eligible :=
          hled hp (by rw [he]; exact Nat.one_pos)
        rw [seat_arrive_of_ne g (Ne.symm hcur),
          h.eligible_eq_zero_iff.mp hz _ (h.current_lt_of_playing hp)] at hcurrent
        exact absurd hcurrent Bool.false_ne_true
    · refine ⟨fun _ hr => hin hr.2.1, fun _ _ hpos => ?_⟩
      rw [he, hz, eq_false_of_ne_true hin] at hpos
      exact absurd hpos (Nat.lt_irrefl 0)
  · have hcurrent : (g.seat g.current).eligible := hl hp (Nat.pos_of_ne_zero hz)
    have hcur : g.current ≠ i := by
      rintro rfl
      rw [Seat.eligible, hc, Bool.false_and] at hcurrent
      exact Bool.noConfusion hcurrent
    refine ⟨fun _ hr => hz hr.1, fun _ _ _ => ?_⟩
    change ((g.arrive i).seat g.current).eligible
    rw [seat_arrive_of_ne g hcur]
    exact hcurrent

theorem led_seatNext {g : Game} (h : g.Coherent) (hl : g.Led) (name : String) :
    (g.seatNext name).Led := by
  intro hp hpos
  have hlt := h.current_lt_of_playing hp
  have hs := seat_seatNext_of_ne g name (Nat.ne_of_lt hlt)
  change ((g.seatNext name).seat g.current).eligible
  rw [hs]
  exact hl hp hpos

theorem led_leave {g : Game} (h : g.Coherent) (hl : g.Led) {i : Nat} (hi : i < g.taken)
    (hc : (g.seat i).connected) (ht : ¬ (g.phase = .playing ∧ g.current = i)) :
    (g.leave i).Led := by
  intro hp hpos
  have hcur : g.current ≠ i := fun hcur => ht ⟨hp, hcur⟩
  have he := h.eligible_leave hi hc
  change ((g.leave i).seat g.current).eligible
  rw [seat_leave_of_ne g hcur]
  exact hl hp (by omega)

theorem not_rouses_of_idles {g : Game} {c : Call} (h : g.Coherent) (hi : g.Idles c) :
    ¬ g.Rouses c := by
  intro hr
  cases c with
  | join name =>
    obtain ⟨hp, -, hlt⟩ := hr
    rcases hi with ho | hf
    · simp [hp] at ho
    · omega
  | connect i =>
    obtain ⟨hp, hz, hlt, hin, -⟩ := hr
    rcases hi with hf | hc | ho
    · omega
    · have hf := h.eligible_eq_zero_iff.mp hz i hlt
      rw [Seat.eligible, hc, hin] at hf
      exact Bool.noConfusion hf
    · simp [hp] at ho
  | disconnect i => exact hr
  | advance => exact hr
  | act i move => exact hr

/-- Of all calls only one that rouses a resting game leaves the turn with a seat that cannot use
it. -/
theorem led_change_iff {g g' : Game} {c : Call} {a : Except Fault Done} (h : g.Sound)
    (hl : g.Led) (hc : g.Change c a g') : g'.Led ↔ ¬ g.Rouses c := by
  cases hc with
  | idle hi ha => exact ⟨fun _ => not_rouses_of_idles h.toCoherent hi, fun _ => hl⟩
  | join name hp hc =>
    have hm := lt_most_of_lt_capacity hc
    have hcon := connected_seatNext g name hm
    have hin : ((g.seatNext name).seat g.taken).inPlay := by
      rw [seat_seatNext_self g name hm]
      rfl
    have hn := h.seatNext name hc
    cases hph : g.phase with
    | waiting =>
      refine ⟨fun _ hr => by simp [Rouses, hph] at hr, fun _ => ?_⟩
      exact led_startIfReady (h.seatArrive name hc) hph
    | playing =>
      have hlt := h.current_lt_of_playing hph
      rw [startIfReady_of_playing ((g.seatNext name).arrive g.taken) hph,
        led_arrive_iff hn (led_seatNext h.toCoherent hl name) hph (Nat.lt_succ_self _) hcon]
      refine not_congr ⟨fun hr => ⟨hph, hr.1, hc⟩, fun hr => ⟨hr.2.1, hin, ?_⟩⟩
      exact (Nat.ne_of_lt hlt).symm
    | «over» => exact absurd hph hp
  | connect i hp hi hc =>
    cases hph : g.phase with
    | waiting =>
      refine ⟨fun _ hr => by simp [Rouses, hph] at hr, fun _ => ?_⟩
      exact led_startIfReady (h.arrive hi hc) hph
    | playing =>
      rw [startIfReady_of_playing (g.arrive i) hph, led_arrive_iff h.toCoherent hl hph hi hc]
      exact not_congr ⟨fun hr => ⟨hph, hr.1, hi, hr.2⟩, fun hr => ⟨hr.2.1, hr.2.2.2⟩⟩
    | «over» => exact absurd hph hp
  | leave i hi hc ht => exact ⟨fun _ hr => hr, fun _ => led_leave h.toCoherent hl hi hc ht⟩
  | yield i hi hc hp ht =>
    exact ⟨fun _ hr => hr, fun _ => led_passed (h.toCoherent.leave hi hc) hp⟩
  | advance hp => exact ⟨fun _ hr => hr, fun _ => led_passed h.toCoherent hp⟩
  | act i move hp hi ht =>
    exact ⟨fun _ hr => hr, fun _ =>
      led_passed (h.putPurse hi hp _) ((putPurse_phase g i _).trans hp)⟩

theorem led_perform_iff {g : Game} (h : g.Sound) (hl : g.Led) (c : Call) :
    (g.perform c).game.Led ↔ ¬ g.Rouses c :=
  led_change_iff h hl (perform_change g c)

/-- All through a run the turn lies with a seat that may move, where there is one, just when no
call of the run rouses a resting game. -/
theorem led_run_iff {rules : Rules} (h : rules.Valid) (saved : Option Score.Board)
    (calls : List Call) :
    (∀ k ≤ calls.length, ((new rules saved).run (calls.take k)).Led) ↔
      ∀ k (hk : k < calls.length), ¬ ((new rules saved).run (calls.take k)).Rouses calls[k] := by
  have hs (k : Nat) : ((new rules saved).run (calls.take k)).Sound := sound_run h saved _
  constructor
  · intro hl k hk
    have hn := hl (k + 1) hk
    rw [run_take_succ _ hk] at hn
    exact (led_perform_iff (hs k) (hl k (Nat.le_of_lt hk)) _).mp hn
  · intro hr k hk
    induction k with
    | zero => exact led_of_not_playing nofun
    | succ k ih =>
      rw [run_take_succ _ hk]
      exact (led_perform_iff (hs k) (ih (Nat.le_of_lt hk)) _).mpr (hr k hk)

theorem led_run_of_disconnect :
    Rules.Valid {} ∧ ∀ k ≤ 5, ((new {}).run
      ([.join "ann", .join "bob", .join "cleo", .disconnect 0, .connect 0].take k)).Led :=
  ⟨by decide, (led_run_iff (by decide) none
    [.join "ann", .join "bob", .join "cleo", .disconnect 0, .connect 0]).mpr (by decide +kernel)⟩

/-- The turn may lie with a seat that is gone while another could take it. -/
theorem not_led_of_return :
    Rules.Valid {} ∧ ¬ ((new {}).run [.join "ann", .join "bob", .join "cleo", .disconnect 1,
      .disconnect 2, .disconnect 0, .connect 1]).Led := by
  decide +kernel

end Rota.Game
