import Rota.Game.Call
import Mathlib.Tactic.Common

namespace Rota

/-- A seat apart from its turns and its signal, which an election changes. -/
def Seat.core (s : Seat) : Seat := { s with turns := 0, signal := 0 }

theorem Seat.of_core {s t : Seat} (h : s.core = t.core) :
    s.connected = t.connected ∧ s.active = t.active ∧ s.bankrupt = t.bankrupt ∧
      s.money = t.money ∧ s.position = t.position := by
  simpa [Seat.core] using h

theorem Seat.eligible_of_core {s t : Seat} (h : s.core = t.core) : s.eligible = t.eligible := by
  obtain ⟨hc, ha, hb, -⟩ := Seat.of_core h
  rw [eligible, inPlay, hc, ha, hb]
  rfl

namespace Game

theorem seat_of_le (g : Game) {i : Nat} (h : mostSeats ≤ i) : g.seat i = {} := by
  simp [seat, h]

theorem seat_mapPlaces (g : Game) (f : Nat → Seat → Seat) {i : Nat} (h : i < mostSeats) :
    (g.mapPlaces f).seat i = f i (g.seat i) := by
  simp [seat, mapPlaces, h]

/-- What a change leaves alone about a seat stays. -/
theorem seat_mapPlaces_congr {β : Type} (p : Seat → β) (g : Game) {f : Nat → Seat → Seat} {i : Nat}
    (h : ∀ s, p (f i s) = p s) : p ((g.mapPlaces f).seat i) = p (g.seat i) := by
  by_cases hi : i < mostSeats
  · rw [seat_mapPlaces g f hi, h]
  · rw [seat_of_le _ (by omega), seat_of_le _ (by omega)]

theorem seat_modifySeat_congr {β : Type} (p : Seat → β) (g : Game) (i : Nat) {f : Seat → Seat}
    (h : ∀ s, p (f s) = p s) (j : Nat) : p ((g.modifySeat i f).seat j) = p (g.seat j) := by
  refine seat_mapPlaces_congr p g fun s => ?_
  split_ifs
  · exact h s
  · rfl

theorem seat_modifySeat_self (g : Game) (f : Seat → Seat) {i : Nat} (h : i < mostSeats) :
    (g.modifySeat i f).seat i = f (g.seat i) := by
  rw [modifySeat, seat_mapPlaces g _ h, if_pos rfl]

theorem seat_modifySeat_of_ne (g : Game) (f : Seat → Seat) {i j : Nat} (h : j ≠ i) :
    (g.modifySeat i f).seat j = g.seat j :=
  seat_mapPlaces_congr id g fun _ => if_neg h

theorem seat_arrive_self (g : Game) {i : Nat} (h : i < mostSeats) :
    (g.arrive i).seat i = { g.seat i with connected := true } :=
  seat_modifySeat_self g _ h

theorem seat_arrive_of_ne (g : Game) {i j : Nat} (h : j ≠ i) : (g.arrive i).seat j = g.seat j :=
  seat_modifySeat_of_ne g _ h

theorem seat_leave_of_ne (g : Game) {i j : Nat} (h : j ≠ i) : (g.leave i).seat j = g.seat j :=
  seat_modifySeat_of_ne g _ h

theorem lt_most_of_lt_capacity {g : Game} (h : g.taken < g.capacity) : g.taken < mostSeats :=
  Nat.lt_of_lt_of_le h (Nat.min_le_right _ _)

theorem seats_eq_map (g : Game) (h : g.taken ≤ mostSeats) :
    g.seats = (List.range g.taken).map g.seat := by
  apply List.ext_getElem
  · simp [seats, h]
  · intro i hi hi'
    simp only [List.length_map, List.length_range] at hi'
    simp [seats, seat, show i < mostSeats by omega]

theorem length_seats (g : Game) (h : g.taken ≤ mostSeats) : g.seats.length = g.taken := by
  rw [seats_eq_map g h, List.length_map, List.length_range]

theorem getElem?_seats (g : Game) (h : g.taken ≤ mostSeats) (i : Nat) :
    g.seats[i]? = if i < g.taken then some (g.seat i) else none := by
  rw [seats_eq_map g h, List.getElem?_map]
  split_ifs with hi
  · rw [List.getElem?_range hi, Option.map_some]
  · rw [List.getElem?_eq_none (by simpa using hi), Option.map_none]

theorem countP_seats (g : Game) (h : g.taken ≤ mostSeats) (p : Seat → Bool) :
    g.seats.countP p = (List.range g.taken).countP fun i => p (g.seat i) := by
  rw [seats_eq_map g h, List.countP_map]
  rfl

theorem countP_seats_congr {g h : Game} {p : Seat → Bool} (hg : g.taken ≤ mostSeats)
    (ht : h.taken = g.taken) (hp : ∀ i < g.taken, p (h.seat i) = p (g.seat i)) :
    h.seats.countP p = g.seats.countP p := by
  rw [countP_seats g hg, countP_seats h (ht ▸ hg), ht]
  refine List.countP_congr fun i hi => ?_
  rw [hp i (List.mem_range.mp hi)]

private theorem countP_range_update {p q : Nat → Bool} {i n : Nat} (hi : i < n)
    (h : ∀ j, j ≠ i → p j = q j) :
    (List.range n).countP p + (q i).toNat = (List.range n).countP q + (p i).toNat := by
  induction n with
  | zero => omega
  | succ n ih =>
    rw [List.range_succ, List.countP_append, List.countP_append, List.countP_singleton,
      List.countP_singleton]
    by_cases hn : i = n
    · subst hn
      have hb : (List.range i).countP p = (List.range i).countP q := by
        refine List.countP_congr fun j hj => ?_
        rw [h j (by have := List.mem_range.mp hj; omega)]
      rw [hb]
      cases p i <;> cases q i <;> simp
    · have hb := ih (by omega)
      rw [h n (by omega)]
      omega

/-- A count over the seats changes by what the changed seat counts. -/
theorem countP_seats_modifySeat (g : Game) (p : Seat → Bool) (f : Seat → Seat) {i : Nat}
    (hi : i < g.taken) (h : g.taken ≤ mostSeats) :
    (g.modifySeat i f).seats.countP p + (p (g.seat i)).toNat =
      g.seats.countP p + (p (f (g.seat i))).toNat := by
  have ht : (g.modifySeat i f).taken = g.taken := rfl
  rw [countP_seats g h, countP_seats _ (ht ▸ h), ht]
  have hu := countP_range_update (p := fun j => p ((g.modifySeat i f).seat j))
    (q := fun j => p (g.seat j)) hi (fun j hj => by rw [seat_modifySeat_of_ne g f hj])
  simpa only [seat_modifySeat_self g f (by omega : i < mostSeats)] using hu

theorem seat_seatNext_self (g : Game) (name : String) (h : g.taken < mostSeats) :
    (g.seatNext name).seat g.taken = (g.seat g.taken).sit g.rules.startingMoney :=
  seat_modifySeat_self g _ h

theorem seat_seatNext_of_ne (g : Game) (name : String) {i : Nat} (h : i ≠ g.taken) :
    (g.seatNext name).seat i = g.seat i :=
  seat_modifySeat_of_ne g _ h

theorem connected_seatNext (g : Game) (name : String) (h : g.taken < mostSeats) :
    ((g.seatNext name).seat g.taken).connected = false := by
  rw [seat_seatNext_self g name h]
  rfl

theorem countP_seats_seatNext (g : Game) (name : String) (p : Seat → Bool)
    (h : g.taken < mostSeats) :
    (g.seatNext name).seats.countP p =
      g.seats.countP p + (p ((g.seat g.taken).sit g.rules.startingMoney)).toNat := by
  have ht : (g.seatNext name).taken = g.taken + 1 := rfl
  rw [countP_seats g (Nat.le_of_lt h), countP_seats _ (ht ▸ h), ht, List.range_succ, List.countP_append,
    List.countP_singleton, seat_seatNext_self g name h]
  congr 1
  · refine List.countP_congr fun i hi => ?_
    rw [seat_seatNext_of_ne g name (by have := List.mem_range.mp hi; omega)]
  · cases p ((g.seat g.taken).sit g.rules.startingMoney) <;> rfl

theorem core_signalOnly (g : Game) (i j : Nat) :
    ((g.signalOnly i).seat j).core = (g.seat j).core := by
  refine seat_mapPlaces_congr Seat.core g fun s => ?_
  split_ifs <;> rfl

theorem core_signalAll (g : Game) (j : Nat) : (g.signalAll.seat j).core = (g.seat j).core := by
  refine seat_mapPlaces_congr Seat.core g fun s => ?_
  split_ifs <;> rfl

theorem core_countTurn (g : Game) (i j : Nat) :
    ((g.modifySeat i Seat.countTurn).seat j).core = (g.seat j).core :=
  seat_modifySeat_congr (f := Seat.countTurn) Seat.core g i (fun _ => rfl) j

theorem core_handTo (g : Game) (i j : Nat) : ((g.handTo i).seat j).core = (g.seat j).core :=
  core_countTurn g i j

theorem core_finish (g : Game) (w j : Nat) : ((g.finish w).seat j).core = (g.seat j).core :=
  core_signalAll _ j

/-- The game once `next` has been given the turn. -/
def elected (g : Game) (next : Nat) : Game := (g.elect next).2.1

theorem elected_eq (g : Game) (i : Nat) :
    g.elected i = if (g.handTo i).decided then (g.handTo i).finish (champion (g.handTo i).seats)
      else (g.handTo i).signalOnly i := by
  simp only [elected, elect]
  split_ifs <;> rfl

theorem core_elected (g : Game) (i j : Nat) : ((g.elected i).seat j).core = (g.seat j).core := by
  rw [elected_eq]
  split_ifs
  · exact (core_finish _ _ j).trans (core_handTo g i j)
  · exact (core_signalOnly _ _ j).trans (core_handTo g i j)

theorem core_startWith (g : Game) (i j : Nat) :
    ((g.startWith i).seat j).core = (g.seat j).core :=
  (core_signalOnly _ i j).trans (core_countTurn g i j)

theorem seat_signalOnly_of_le (g : Game) (i : Nat) {j : Nat} (h : g.taken ≤ j) :
    (g.signalOnly i).seat j = g.seat j :=
  seat_mapPlaces_congr id g fun _ => if_pos h

theorem seat_signalAll_of_le (g : Game) {j : Nat} (h : g.taken ≤ j) :
    g.signalAll.seat j = g.seat j :=
  seat_mapPlaces_congr id g fun _ => if_pos h

theorem seat_handTo_of_le (g : Game) {i j : Nat} (hi : i < g.taken) (h : g.taken ≤ j) :
    (g.handTo i).seat j = g.seat j :=
  seat_modifySeat_of_ne g _ (by omega)

theorem seat_elected_of_le (g : Game) {i j : Nat} (hi : i < g.taken) (h : g.taken ≤ j) :
    (g.elected i).seat j = g.seat j := by
  rw [elected_eq]
  split_ifs
  · rw [finish, seat_signalAll_of_le _ (by exact h)]
    exact seat_handTo_of_le g hi h
  · rw [seat_signalOnly_of_le _ _ (by exact h)]
    exact seat_handTo_of_le g hi h

theorem seat_startWith_of_le (g : Game) {i j : Nat} (hi : i < g.taken) (h : g.taken ≤ j) :
    (g.startWith i).seat j = g.seat j := by
  rw [startWith, seat_signalOnly_of_le _ _ (by exact h)]
  exact seat_modifySeat_of_ne g _ (by omega)

section putPurse

variable (g : Game) (i : Nat) (p : Purse)

@[simp] theorem putPurse_phase : (g.putPurse i p).1.phase = g.phase := by
  unfold putPurse
  dsimp only
  split_ifs <;> rfl

@[simp] theorem putPurse_taken : (g.putPurse i p).1.taken = g.taken := by
  unfold putPurse
  dsimp only
  split_ifs <;> rfl

@[simp] theorem putPurse_rules : (g.putPurse i p).1.rules = g.rules := by
  unfold putPurse
  dsimp only
  split_ifs <;> rfl

end putPurse

theorem seat_putPurse_of_ne (g : Game) (p : Purse) {i j : Nat} (h : j ≠ i) :
    (g.putPurse i p).1.seat j = g.seat j := by
  unfold putPurse
  dsimp only
  split_ifs <;> exact seat_modifySeat_of_ne g _ h

/-- Games have the same places if they have the same seats. -/
theorem places_ext {g h : Game} (hs : ∀ i, g.seat i = h.seat i) : g.places = h.places := by
  apply Vector.ext
  intro i hi
  have hseat := hs i
  simpa [seat, hi] using hseat

/-- A change that leaves a seat as it is leaves the game as it is. -/
theorem modifySeat_eq_self (g : Game) {i : Nat} {f : Seat → Seat} (h : f (g.seat i) = g.seat i) :
    g.modifySeat i f = g := by
  have hplaces : (g.modifySeat i f).places = g.places := by
    apply places_ext
    intro j
    by_cases hj : j = i
    · subst hj
      by_cases hlt : j < mostSeats
      · rw [seat_modifySeat_self g f hlt, h]
      · rw [seat_of_le _ (by omega), seat_of_le _ (by omega)]
    · exact seat_modifySeat_of_ne g f hj
  calc g.modifySeat i f
      = { g with places := (g.modifySeat i f).places } := rfl
    _ = g := by rw [hplaces]

end Game
end Rota
