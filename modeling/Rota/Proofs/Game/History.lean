import Rota.Proofs.Game.Decision

namespace Rota

/-- Takes one wake-up of a seat. -/
def Seat.wake (s : Seat) : Seat := { s with signal := s.signal - 1 }

namespace Game

/-- What happens to a game: a call, or somebody takes the wake-up of a seat if there is one. -/
inductive Deed
  | call (c : Call)
  | take (seat : Nat)

def after (g : Game) : Deed → Game
  | .call c => (g.perform c).game
  | .take i =>
    match g.takeSignal i with
    | .ok (_, h) => h
    | .error _ => g

/-- The seat whose wake-up is taken, if one is. -/
def takes? (g : Game) : Deed → Option Nat
  | .call _ => none
  | .take i =>
    match g.takeSignal i with
    | .ok (true, _) => some i
    | _ => none

/-- The game after a history, in which anything may be refused. -/
def afterAll (g : Game) (deeds : List Deed) : Game := deeds.foldl after g

/-- The game after the first `k` deeds of a history. -/
def stage (g : Game) (deeds : List Deed) (k : Nat) : Game := g.afterAll (deeds.take k)

/-- How many wake-ups of a seat are taken in a history. -/
def wakeUps (g : Game) (i : Nat) : List Deed → Nat
  | [] => 0
  | d :: deeds => (if g.takes? d = some i then 1 else 0) + (g.after d).wakeUps i deeds

/-- The game once a wake-up of a seat is taken. -/
def took (g : Game) (i : Nat) : Game := g.modifySeat i Seat.wake

theorem takeSignal_of_lt (g : Game) {i : Nat} (h : i < g.taken) :
    g.takeSignal i = .ok (if (g.seat i).signal = 0 then (false, g) else (true, g.took i)) := by
  rw [takeSignal, seated_of_lt g h]
  change (if (g.seat i).signal = 0 then _ else _) = _
  split_ifs <;> rfl

theorem takeSignal_of_le (g : Game) {i : Nat} (h : g.taken ≤ i) :
    g.takeSignal i = .error (.notSeated i g.taken) := by
  rw [takeSignal, seated_of_le g h]
  rfl

/-- A wake-up is taken from a seat that has one, and else nothing happens. -/
theorem take_cases (g : Game) (i : Nat) :
    (g.takes? (.take i) = none ∧ g.after (.take i) = g) ∨
      i < g.taken ∧ 0 < (g.seat i).signal ∧ g.takes? (.take i) = some i ∧
        g.after (.take i) = g.took i := by
  dsimp only [takes?, after]
  by_cases hi : i < g.taken
  · rw [takeSignal_of_lt g hi]
    by_cases hs : (g.seat i).signal = 0
    · rw [if_pos hs]
      exact .inl ⟨rfl, rfl⟩
    · rw [if_neg hs]
      exact .inr ⟨hi, Nat.pos_of_ne_zero hs, rfl, rfl⟩
  · rw [takeSignal_of_le g (by omega)]
    exact .inl ⟨rfl, rfl⟩

theorem phase_after_take (g : Game) (i : Nat) : (g.after (.take i)).phase = g.phase := by
  rcases g.take_cases i with ⟨-, he⟩ | ⟨-, -, -, he⟩ <;> rw [he]
  rfl

theorem afterAll_cons (g : Game) (d : Deed) (deeds : List Deed) :
    g.afterAll (d :: deeds) = (g.after d).afterAll deeds :=
  rfl

theorem afterAll_append (g : Game) (deeds more : List Deed) :
    g.afterAll (deeds ++ more) = (g.afterAll deeds).afterAll more :=
  List.foldl_append

theorem afterAll_take_succ (g : Game) {deeds : List Deed} {k : Nat} (hk : k < deeds.length) :
    g.afterAll (deeds.take (k + 1)) = (g.afterAll (deeds.take k)).after deeds[k] := by
  rw [List.take_succ_eq_append_getElem hk, afterAll_append]
  rfl

theorem stage_length (g : Game) (deeds : List Deed) :
    g.stage deeds deeds.length = g.afterAll deeds := by
  rw [stage, List.take_length]

section took

variable (g : Game) (i j : Nat)

theorem turns_took : ((g.took i).seat j).turns = (g.seat j).turns :=
  seat_modifySeat_congr (f := Seat.wake) Seat.turns g i (fun _ => rfl) j

theorem signal_took_le : ((g.took i).seat j).signal ≤ (g.seat j).signal := by
  by_cases hj : j = i
  · by_cases hi : i < mostSeats
    · rw [hj, took, seat_modifySeat_self g _ hi]
      exact Nat.sub_le _ _
    · have hnone : (g.took i).seat j = g.seat j := by
        rw [seat_of_le (g.took i) (by omega), seat_of_le g (by omega)]
      exact Nat.le_of_eq (congrArg Seat.signal hnone)
  · have hother : (g.took i).seat j = g.seat j := seat_modifySeat_of_ne g _ hj
    exact Nat.le_of_eq (congrArg Seat.signal hother)

end took

theorem Coherent.took {g : Game} (h : g.Coherent) {i : Nat} (hi : i < g.taken) :
    (g.took i).Coherent :=
  h.modify hi _ g.eligible (h.active i hi) (fun hp => (h.waiting hp).2.2 i) rfl

theorem Sound.took {g : Game} (h : g.Sound) {i : Nat} (hi : i < g.taken) : (g.took i).Sound :=
  ⟨h.toCoherent.took hi, h.short⟩

theorem Judged.took {g : Game} (h : g.Judged) (hm : g.taken ≤ mostSeats) (i : Nat) :
    (g.took i).Judged where
  opened hp := (h.opened hp).modify hm i g.eligible fun _ => rfl
  closed hp := (h.closed hp).modify hm i g.eligible fun _ => rfl

/-- What outlasts every call and every wake-up outlasts a history. -/
theorem Sound.afterAll_induction {P : Game → Prop}
    (hcall : ∀ {g g' : Game} {c : Call} {a : Except Fault Done},
      g.Sound → P g → g.Change c a g' → P g')
    (htake : ∀ {g : Game} {i : Nat}, g.Sound → P g → i < g.taken → P (g.took i))
    {g : Game} (hs : g.Sound) (hg : P g) (deeds : List Deed) : P (g.afterAll deeds) := by
  induction deeds generalizing g with
  | nil => exact hg
  | cons d deeds ih =>
    cases d with
    | call c => exact ih (hs.perform c) (hcall hs hg (perform_change g c))
    | take i =>
      rw [afterAll_cons]
      rcases g.take_cases i with ⟨-, he⟩ | ⟨hi, -, -, he⟩
      · rw [he]
        exact ih hs hg
      · rw [he]
        exact ih (hs.took hi) (htake hs hg hi)

theorem Sound.afterAll {g : Game} (h : g.Sound) (deeds : List Deed) : (g.afterAll deeds).Sound :=
  h.afterAll_induction (fun _ hs hc => hs.change hc) (fun _ hs hi => hs.took hi) h deeds

theorem Judged.afterAll {g : Game} (h : g.Judged) (hs : g.Sound) (deeds : List Deed) :
    (g.afterAll deeds).Judged :=
  hs.afterAll_induction judged_change (fun hs hj _ => hj.took hs.taken_le_most _) h deeds

end Game
end Rota
