import Rota.Proofs.Game.History

namespace Rota

/-- What the count of eligible seats gains when the player of a seat comes, or else goes. -/
def Seat.weight (s : Seat) (there : Bool) : UInt32 :=
  if s.inPlay then if there then 1 else -1 else 0

namespace Game

/-- The call by which a player comes, or else goes. -/
def Call.presence (there : Bool) (i : Nat) : Call := if there then .connect i else .disconnect i

/-- Puts down whether the player of a taken seat is there. -/
def mark (g : Game) (there : Bool) (i : Nat) : Game :=
  { g.modifySeat i ({ · with connected := there }) with
    eligible := g.eligible + (g.seat i).weight there }

section mark

variable (g : Game) (there : Bool) {i j : Nat}

theorem arrive_eq_mark (i : Nat) : g.arrive i = g.mark true i := by
  unfold arrive mark Seat.weight
  cases (g.seat i).inPlay with
  | true => rfl
  | false => simp

theorem leave_eq_mark (i : Nat) : g.leave i = g.mark false i := by
  unfold leave mark Seat.weight
  cases (g.seat i).inPlay with
  | true => simp [UInt32.sub_eq_add_neg]
  | false => simp

theorem seat_mark_self (h : i < mostSeats) :
    (g.mark there i).seat i = { g.seat i with connected := there } :=
  seat_modifySeat_self g _ h

theorem seat_mark_of_ne (h : j ≠ i) : (g.mark there i).seat j = g.seat j :=
  seat_modifySeat_of_ne g _ h

theorem mapPlaces_mapPlaces (f f' : Nat → Seat → Seat) :
    (g.mapPlaces f).mapPlaces f' = g.mapPlaces fun j s => f' j (f j s) := by
  simp only [mapPlaces, Vector.mapIdx_mapIdx]
  rfl

theorem modifySeat_modifySeat (f f' : Seat → Seat) (i : Nat) :
    (g.modifySeat i f).modifySeat i f' = g.modifySeat i fun s => f' (f s) := by
  unfold modifySeat
  rw [mapPlaces_mapPlaces]
  congr 1
  funext k s
  split_ifs <;> rfl

theorem modifySeat_comm (f f' : Seat → Seat) (h : i ≠ j) :
    (g.modifySeat i f).modifySeat j f' = (g.modifySeat j f').modifySeat i f := by
  unfold modifySeat
  rw [mapPlaces_mapPlaces, mapPlaces_mapPlaces]
  congr 1
  funext k s
  by_cases hk : k = i
  · simp [hk, h]
  · simp [hk]

/-- It makes no difference in which order it is put down for two seats who is there. -/
theorem mark_comm (there' : Bool) (h : i ≠ j) :
    (g.mark there i).mark there' j = (g.mark there' j).mark there i := by
  have hseats := g.modifySeat_comm ({ · with connected := there }) ({ · with connected := there' }) h
  have hi : (g.mark there' j).seat i = g.seat i := g.seat_mark_of_ne there' h
  have hj : (g.mark there i).seat j = g.seat j := g.seat_mark_of_ne there h.symm
  calc (g.mark there i).mark there' j
      = { (g.modifySeat i ({ · with connected := there })).modifySeat j
            ({ · with connected := there' }) with
          eligible := g.eligible + (g.seat i).weight there +
            ((g.mark there i).seat j).weight there' } := rfl
    _ = { (g.modifySeat j ({ · with connected := there' })).modifySeat i
            ({ · with connected := there }) with
          eligible := g.eligible + (g.seat j).weight there' +
            ((g.mark there' j).seat i).weight there } := by
        rw [hseats, hi, hj, UInt32.add_assoc, UInt32.add_assoc,
          UInt32.add_comm ((g.seat i).weight there)]

theorem weight_add_weight (s : Seat) : s.weight (!there) + s.weight there = 0 := by
  unfold Seat.weight
  cases s.inPlay <;> cases there <;> decide

/-- What has been put down is taken back by putting down the contrary. -/
theorem mark_mark (hi : i < mostSeats) (hc : (g.seat i).connected = there) :
    (g.mark (!there) i).mark there i = g := by
  have hback : (g.modifySeat i ({ · with connected := !there })).modifySeat i
      ({ · with connected := there }) = g := by
    rw [modifySeat_modifySeat]
    apply modifySeat_eq_self
    rw [← hc]
  have hweight : ((g.mark (!there) i).seat i).weight there = (g.seat i).weight there := by
    rw [g.seat_mark_self (!there) hi]
    rfl
  calc (g.mark (!there) i).mark there i
      = { (g.modifySeat i ({ · with connected := !there })).modifySeat i
            ({ · with connected := there }) with
          eligible := g.eligible + (g.seat i).weight (!there) +
            ((g.mark (!there) i).seat i).weight there } := rfl
    _ = g := by
        rw [hback, hweight, UInt32.add_assoc, weight_add_weight, UInt32.add_zero]

end mark

/-- A call that finds nothing to do does nothing. -/
theorem Idles.game {g : Game} {c : Call} (h : g.Idles c) : (g.perform c).game = g := by
  have hc := perform_change g c
  generalize (g.perform c).answer = a at hc
  generalize (g.perform c).game = g' at hc
  cases hc with
  | idle => rfl
  | join name hp hc =>
    rcases h with ho | hf
    · exact absurd ho hp
    · exact absurd hc (by omega)
  | connect i hp hi hc =>
    rcases h with ht | hcon | ho
    · exact absurd hi (by omega)
    · exact absurd (hc.symm.trans hcon) Bool.false_ne_true
    · exact absurd ho hp
  | leave i hi hc ht =>
    rcases h with hle | hno
    · exact absurd hi (by omega)
    · exact absurd (hno.symm.trans hc) Bool.false_ne_true
  | yield i hi hc hp ht =>
    rcases h with hle | hno
    · exact absurd hi (by omega)
    · exact absurd (hno.symm.trans hc) Bool.false_ne_true
  | advance hp => exact absurd hp h
  | act i move hp hi ht =>
    rcases h with hn | hle | hne
    · exact absurd hp hn
    · exact absurd hi (by omega)
    · exact absurd ht hne

section twice

variable {g : Game} (hs : g.Sound) (i : Nat)
include hs

/-- Whoever has come is there, so that coming once more is nothing new. -/
theorem connect_twice :
    ((g.perform (.connect i)).game.perform (.connect i)).game = (g.perform (.connect i)).game := by
  have hc := perform_change g (.connect i)
  generalize (g.perform (.connect i)).answer = a at hc
  generalize hg : (g.perform (.connect i)).game = g' at hc
  cases hc with
  | idle => exact hg
  | connect _ hp hi hc =>
    apply Idles.game
    right
    left
    have hm := hs.taken_le_most
    obtain ⟨hcon, -⟩ := Seat.of_core (core_startIfReady (g.arrive i) i)
    rw [hcon, seat_arrive_self g (by omega)]

theorem disconnect_twice :
    ((g.perform (.disconnect i)).game.perform (.disconnect i)).game =
      (g.perform (.disconnect i)).game := by
  have hc := perform_change g (.disconnect i)
  generalize (g.perform (.disconnect i)).answer = a at hc
  generalize hg : (g.perform (.disconnect i)).game = g' at hc
  have hgone (hi : i < g.taken) : ((g.leave i).seat i).connected = false := by
    have hm := hs.taken_le_most
    rw [leave_eq_mark, seat_mark_self g false (by omega)]
  cases hc with
  | idle => exact hg
  | leave _ hi hc ht =>
    apply Idles.game
    right
    exact hgone hi
  | yield _ hi hc hp ht =>
    apply Idles.game
    right
    obtain ⟨hcon, -⟩ := Seat.of_core (core_passed (g.leave i) i)
    rw [hcon]
    exact hgone hi

end twice

section single

variable {g : Game} {i : Nat}

theorem game_connect (hi : i < g.taken) (hc : (g.seat i).connected = false) (hp : g.phase ≠ .over) :
    (g.perform (.connect i)).game = (g.arrive i).startIfReady.1 := by
  show (g.connect i).game = _
  rw [connect_of_absent g hi hc hp]
  rfl

theorem game_disconnect (hi : i < g.taken) (hc : (g.seat i).connected)
    (ht : ¬(g.phase = .playing ∧ g.current = i)) :
    (g.perform (.disconnect i)).game = g.leave i := by
  have hturn : ¬(g.isTurnOf i = true) := by simpa [isTurnOf] using ht
  show (g.disconnect i).game = _
  rw [disconnect, seated_of_lt g hi]
  dsimp only
  rw [if_pos hc, if_neg hturn]

/-- Between calls no game is due to start. -/
theorem Sound.startIfReady_eq (h : g.Sound) : g.startIfReady.1 = g := by
  have hno : ¬(g.phase = .waiting ∧ g.rules.minPlayers.toNat ≤ g.eligible.toNat) := by
    rintro ⟨hw, hle⟩
    have hlt := h.short hw
    omega
  rw [startIfReady, if_neg hno]

/-- Whoever goes and comes back at once, and does not have the turn, finds the game as it was. -/
theorem Sound.connect_disconnect (h : g.Sound) (hi : i < g.taken) (hp : g.phase ≠ .over)
    (hc : (g.seat i).connected) (ht : ¬(g.phase = .playing ∧ g.current = i)) :
    ((g.perform (.disconnect i)).game.perform (.connect i)).game = g := by
  have hlt : i < mostSeats := Nat.lt_of_lt_of_le hi h.taken_le_most
  have hgone : ((g.leave i).seat i).connected = false := by
    rw [leave_eq_mark, seat_mark_self g false hlt]
  have hback : (g.leave i).arrive i = g := by
    rw [arrive_eq_mark, leave_eq_mark]
    exact g.mark_mark true hlt hc
  have hconnect : ((g.leave i).perform (.connect i)).game =
      ((g.leave i).arrive i).startIfReady.1 := game_connect hi hgone hp
  rw [game_disconnect hi hc ht, hconnect, hback]
  exact h.startIfReady_eq

end single

/-- What is left of the coming or going of a player who does not have the turn of a game in play. -/
def attended (g : Game) (there : Bool) (i : Nat) : Game :=
  if i < g.taken ∧ (g.seat i).connected = !there then g.mark there i else g

section attended

variable {g : Game} (there there' : Bool) {i j : Nat}

theorem game_presence (hp : g.phase = .playing) (ht : g.current ≠ i) :
    (g.perform (.presence there i)).game = g.attended there i := by
  have ho : g.phase ≠ .over := by simp [hp]
  unfold attended
  split_ifs with h
  · obtain ⟨hi, hc⟩ := h
    cases there with
    | true =>
      show (g.perform (.connect i)).game = g.mark true i
      rw [game_connect hi hc ho, ← arrive_eq_mark]
      exact startIfReady_of_playing _ hp
    | false =>
      show (g.perform (.disconnect i)).game = g.mark false i
      rw [game_disconnect hi hc (fun hn => ht hn.2), leave_eq_mark]
  · apply Idles.game
    cases there with
    | true =>
      show g.taken ≤ i ∨ (g.seat i).connected = true ∨ g.phase = .over
      by_cases hi : i < g.taken
      · right
        left
        simpa [hi] using h
      · left
        omega
    | false =>
      show g.taken ≤ i ∨ (g.seat i).connected = false
      by_cases hi : i < g.taken
      · right
        simpa [hi] using h
      · left
        omega

theorem answer_presence (hp : g.phase = .playing) :
    (g.perform (.presence there i)).answer =
      if i < g.taken then .ok .done else .error (.notSeated i g.taken) := by
  have ho : g.isOver = false := by simp [isOver, hp]
  cases there with
  | true =>
    show (g.connect i).answer.map (fun _ => Done.done) = _
    split_ifs with hi
    · rw [connect, seated_of_lt g hi]
      simp only [ho, Bool.false_eq_true, if_false]
      split_ifs <;> rfl
    · rw [connect, seated_of_le g (by omega)]
      rfl
  | false =>
    show (g.disconnect i).answer.map (fun _ => Done.done) = _
    split_ifs with hi
    · rw [disconnect, seated_of_lt g hi]
      dsimp only
      split_ifs <;> rfl
    · rw [disconnect, seated_of_le g (by omega)]
      rfl

theorem attended_rest :
    (g.attended there i).phase = g.phase ∧ (g.attended there i).current = g.current ∧
      (g.attended there i).taken = g.taken := by
  unfold attended
  split_ifs <;> exact ⟨rfl, rfl, rfl⟩

theorem attended_comm (h : i ≠ j) :
    (g.attended there i).attended there' j = (g.attended there' j).attended there i := by
  have hi : (g.mark there' j).seat i = g.seat i := g.seat_mark_of_ne there' h
  have hj : (g.mark there i).seat j = g.seat j := g.seat_mark_of_ne there h.symm
  have hcomm := g.mark_comm there there' h
  have htaken (b : Bool) (k : Nat) : (g.mark b k).taken = g.taken := rfl
  unfold attended
  by_cases hgi : i < g.taken ∧ (g.seat i).connected = !there <;>
    by_cases hgj : j < g.taken ∧ (g.seat j).connected = !there' <;>
    simp only [hgi, hgj, hi, hj, htaken, hcomm, and_self, if_true, if_false]

end attended

/-- Coming twice and leaving twice is as coming and leaving once. Whoever leaves and comes back
without having had the turn finds the game as it was, and in play those who do not have the turn
come and go in any order. -/
theorem presence_afterAll {rules : Rules} (h : rules.Valid) (saved : Option Score.Board)
    (deeds : List Deed) {g : Game} (hg : (new rules saved).afterAll deeds = g) :
    (∀ i, ((g.perform (.connect i)).game.perform (.connect i)).game =
      (g.perform (.connect i)).game) ∧
    (∀ i, ((g.perform (.disconnect i)).game.perform (.disconnect i)).game =
      (g.perform (.disconnect i)).game) ∧
    (g.phase ≠ .over → ∀ i, (g.seat i).connected → ¬(g.phase = .playing ∧ g.current = i) →
      ((g.perform (.disconnect i)).game.perform (.connect i)).game = g) ∧
    (g.phase = .playing → ∀ there there' i j, i ≠ j → g.current ≠ i → g.current ≠ j →
      ((g.perform (.presence there i)).game.perform (.presence there' j)).game =
          ((g.perform (.presence there' j)).game.perform (.presence there i)).game ∧
        ((g.perform (.presence there i)).game.perform (.presence there' j)).answer =
          (g.perform (.presence there' j)).answer) := by
  have hs : g.Sound := hg ▸ (sound_new h saved).afterAll deeds
  refine ⟨connect_twice hs, disconnect_twice hs, ?_, ?_⟩
  · intro hp i hc ht
    have hi : i < g.taken := by
      by_contra hn
      rw [hs.blank i (by omega)] at hc
      exact Bool.false_ne_true hc
    exact hs.connect_disconnect hi hp hc ht
  · intro hp there there' i j hij hi hj
    obtain ⟨hpi, hci, hti⟩ := attended_rest (g := g) there (i := i)
    obtain ⟨hpj, hcj, -⟩ := attended_rest (g := g) there' (i := j)
    rw [game_presence there hp hi, game_presence there' hp hj]
    constructor
    · rw [game_presence there' (hpi.trans hp) (hci ▸ hj),
        game_presence there (hpj.trans hp) (hcj ▸ hi)]
      exact attended_comm there there' hij
    · rw [answer_presence there' (hpi.trans hp), answer_presence there' hp, hti]

theorem presence_afterAll_of_ruin :
    ∃ g, (new {}).afterAll [.call (.join "ann"), .call (.join "bob"), .call (.join "cleo"),
        .call (.act 0 ({ · with money := -1 })), .take 1] = g ∧
      Rules.Valid {} ∧ g.phase = .playing ∧ g.current = 1 ∧
      ((g.perform (.disconnect 1)).game.perform (.disconnect 1)).game =
        (g.perform (.disconnect 1)).game ∧
      ((g.perform (.disconnect 2)).game.perform (.connect 2)).game = g ∧
      ((g.perform (.disconnect 0)).game.perform (.disconnect 2)).game =
        ((g.perform (.disconnect 2)).game.perform (.disconnect 0)).game ∧
      ((g.perform (.disconnect 0)).game.perform (.disconnect 2)).game.eligible = 1 := by
  have hr : Rules.Valid {} := by decide
  obtain ⟨-, htwice, hback, hcomm⟩ := presence_afterAll hr none [.call (.join "ann"),
    .call (.join "bob"), .call (.join "cleo"), .call (.act 0 ({ · with money := -1 })),
    .take 1] rfl
  refine ⟨_, rfl, hr, by decide +kernel, by decide +kernel, htwice 1, ?_, ?_, by decide +kernel⟩
  · exact hback (by decide +kernel) 2 (by decide +kernel) (by decide +kernel)
  · exact (hcomm (by decide +kernel) false false 0 2 (by decide) (by decide +kernel)
      (by decide +kernel)).1

end Game
end Rota
