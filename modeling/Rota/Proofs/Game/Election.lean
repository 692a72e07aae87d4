import Rota.Proofs.Game.Places
import Rota.Proofs.Game.Turn

namespace Rota.Game

/-- The game after the turn has been passed on; it stays as it is if nobody can take the turn. -/
def passed (g : Game) : Game :=
  match g.handOver with
  | .ok (_, h, _) => h
  | .error _ => g

/-- What passing the turn on answers. -/
def handed (g : Game) : Except Fault Done := g.handOver.map fun r => .turn r.1

theorem eligible_next (g : Game) (h : g.taken ≤ mostSeats) {next : Nat}
    (hn : nextSeat? g.seats g.current = some next) :
    next < g.taken ∧ (g.seat next).eligible := by
  have he := eligible_of_nextSeat? hn
  rw [getElem?_seats g h] at he
  split_ifs at he with hi
  · exact ⟨hi, he⟩
  · simp at he

theorem next_eq_none_iff (g : Game) (h : g.taken ≤ mostSeats) :
    nextSeat? g.seats g.current = none ↔ ∀ i < g.taken, (g.seat i).eligible = false := by
  rw [nextSeat?_eq_none_iff, length_seats g h]
  refine forall_congr' fun i => forall_congr' fun hi => ?_
  rw [getElem?_seats g h, if_pos hi, Option.any_some, Bool.not_eq_true]

theorem passed_eq (g : Game) : g.passed = g ∨ ∃ next, g.passed = g.elected next := by
  unfold passed handOver
  cases g.phase with
  | waiting => exact .inl rfl
  | playing =>
    cases nextSeat? g.seats g.current with
    | none => exact .inl rfl
    | some next => exact .inr ⟨next, rfl⟩
  | «over» => exact .inl rfl

theorem startIfReady_eq (g : Game) :
    g.startIfReady.1 = g ∨ ∃ first, g.startIfReady.1 = g.startWith first := by
  unfold startIfReady start
  split_ifs
  · cases g.seats.findIdx? Seat.eligible with
    | none => exact .inl rfl
    | some first => exact .inr ⟨first, rfl⟩
  · exact .inl rfl

theorem core_passed (g : Game) (j : Nat) : (g.passed.seat j).core = (g.seat j).core := by
  rcases passed_eq g with h | ⟨next, h⟩
  · rw [h]
  · rw [h]
    exact core_elected g next j

theorem core_startIfReady (g : Game) (j : Nat) :
    (g.startIfReady.1.seat j).core = (g.seat j).core := by
  rcases startIfReady_eq g with h | ⟨first, h⟩
  · rw [h]
  · rw [h]
    exact core_startWith g first j

/-- The turn stays if nobody is eligible, and else goes to the next seat that is. -/
theorem passed_cases (g : Game) (h : g.phase = .playing) :
    (nextSeat? g.seats g.current = none ∧ g.handed = .error .nobodyEligible ∧ g.passed = g) ∨
    ∃ next, nextSeat? g.seats g.current = some next ∧
      g.handed = .ok (.turn (g.elect next).1) ∧ g.passed = g.elected next := by
  unfold handed passed handOver
  rw [h]
  cases hn : nextSeat? g.seats g.current with
  | none => exact .inl ⟨rfl, rfl, rfl⟩
  | some next => exact .inr ⟨next, rfl, rfl, rfl⟩

/-- A game starts if it waits, enough seats are counted and one of them is eligible. -/
theorem startIfReady_cases (g : Game) (h : g.taken ≤ mostSeats) :
    (g.startIfReady.1 = g ∧ (g.phase = .waiting →
      g.rules.minPlayers.toNat ≤ g.eligible.toNat → ∀ i < g.taken, (g.seat i).eligible = false)) ∨
    ∃ first < g.taken, (g.seat first).eligible ∧ g.phase = .waiting ∧
      g.rules.minPlayers.toNat ≤ g.eligible.toNat ∧ g.startIfReady.1 = g.startWith first := by
  unfold startIfReady
  split_ifs with hr
  · unfold start
    cases hf : g.seats.findIdx? Seat.eligible with
    | none =>
      refine .inl ⟨rfl, fun _ _ i hi => ?_⟩
      rw [List.findIdx?_eq_none_iff] at hf
      refine hf _ (List.mem_of_getElem? (i := i) ?_)
      rw [getElem?_seats g h, if_pos hi]
    | some first =>
      obtain ⟨hl, he, -⟩ := List.findIdx?_eq_some_iff_getElem.mp hf
      rw [length_seats g h] at hl
      refine .inr ⟨first, hl, ?_, hr.1, hr.2, rfl⟩
      have hs := getElem?_seats g h first
      rw [if_pos hl, List.getElem?_eq_getElem (by rwa [length_seats g h]),
        Option.some.injEq] at hs
      rwa [hs] at he
  · exact .inl ⟨rfl, fun hp hm => absurd ⟨hp, hm⟩ hr⟩

theorem startIfReady_of_playing (g : Game) (h : g.phase = .playing) : g.startIfReady.1 = g := by
  rw [startIfReady, if_neg (by simp [h])]

theorem mem_solvent (g : Game) (h : g.taken ≤ mostSeats) (i : Nat) :
    i ∈ solvent g.seats ↔ i < g.taken ∧ (g.seat i).bankrupt = false := by
  rw [solvent, List.mem_filter, List.mem_range, length_seats g h, getElem?_seats g h]
  refine and_congr_right fun hi => ?_
  rw [if_pos hi, Option.any_some, Bool.not_eq_true']

theorem length_solvent (g : Game) (h : g.taken ≤ mostSeats) :
    (solvent g.seats).length = g.seats.countP fun s => !s.bankrupt := by
  rw [solvent, ← List.countP_eq_length_filter, length_seats g h, countP_seats g h]
  refine List.countP_congr fun i hi => ?_
  rw [getElem?_seats g h, if_pos (List.mem_range.mp hi), Option.any_some]

/-- The richest seat leads all seats, those included that cannot pay. -/
theorem leads_richest_seats (g : Game) (h : g.taken ≤ mostSeats) (hpos : 0 < g.taken) :
    Leads (fun i => (g.seat i).money) g.taken (richest g.seats) := by
  have hl := length_seats g h
  rw [← hl]
  refine leads_richest (fun hn => by simp [hn] at hl; omega) fun k s hk => ?_
  rw [getElem?_seats g h] at hk
  split_ifs at hk
  rw [Option.some.inj hk]

theorem champion_cases (seats : List Seat) :
    (∃ w, solvent seats = [w] ∧ champion seats = w) ∨
      (solvent seats).length ≠ 1 ∧ champion seats = richest seats := by
  unfold champion
  split
  · next w hw => exact .inl ⟨w, hw, rfl⟩
  · next hw =>
    refine .inr ⟨fun hl => ?_, rfl⟩
    obtain ⟨w, he⟩ := List.length_eq_one_iff.mp hl
    exact hw w he

theorem champion_lt (g : Game) (h : g.taken ≤ mostSeats) (hpos : 0 < g.taken) :
    champion g.seats < g.taken := by
  rcases champion_cases g.seats with ⟨w, hs, hw⟩ | ⟨-, hw⟩
  · rw [hw]
    exact ((mem_solvent g h w).mp (by simp [hs])).1
  · rw [hw]
    exact (leads_richest_seats g h hpos).1

section elected

variable (g : Game) (next : Nat)

@[simp] theorem elected_rules : (g.elected next).rules = g.rules := by
  rw [elected_eq]
  split_ifs <;> rfl

@[simp] theorem elected_taken : (g.elected next).taken = g.taken := by
  rw [elected_eq]
  split_ifs <;> rfl

@[simp] theorem elected_eligible : (g.elected next).eligible = g.eligible := by
  rw [elected_eq]
  split_ifs <;> rfl

@[simp] theorem elected_current : (g.elected next).current = next := by
  rw [elected_eq]
  split_ifs <;> rfl

@[simp] theorem elected_round : (g.elected next).round = (g.handTo next).round := by
  rw [elected_eq]
  split_ifs <;> rfl

theorem elected_phase :
    (g.elected next).phase = if (g.handTo next).decided then .over else g.phase := by
  rw [elected_eq]
  split_ifs <;> rfl

theorem elected_winner :
    (g.elected next).winner =
      if (g.handTo next).decided then some (champion (g.handTo next).seats) else g.winner := by
  rw [elected_eq]
  split_ifs <;> rfl

end elected

@[simp] theorem passed_taken (g : Game) : g.passed.taken = g.taken := by
  rcases passed_eq g with h | ⟨next, h⟩
  · rw [h]
  · rw [h, elected_taken]

@[simp] theorem passed_rules (g : Game) : g.passed.rules = g.rules := by
  rcases passed_eq g with h | ⟨next, h⟩
  · rw [h]
  · rw [h, elected_rules]

@[simp] theorem startIfReady_taken (g : Game) : g.startIfReady.1.taken = g.taken := by
  rcases startIfReady_eq g with h | ⟨first, h⟩
  · rw [h]
  · rw [h]
    rfl

@[simp] theorem startIfReady_rules (g : Game) : g.startIfReady.1.rules = g.rules := by
  rcases startIfReady_eq g with h | ⟨first, h⟩
  · rw [h]
  · rw [h]
    rfl

end Rota.Game
