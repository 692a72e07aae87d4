import Rota.Proofs.Game.Pace

namespace Rota

namespace Seat

theorem signal_raise {s : Seat} (h : s.signal ≤ 1) : s.raise.signal = 1 := by
  change (if s.signal = 0 then 1 else s.signal) = 1
  split_ifs <;> omega

end Seat

namespace Game

/-- No seat has more than one wake-up, and none has one that is not taken. -/
def Single (g : Game) : Prop := ∀ i, (g.seat i).signal ≤ if i < g.taken then 1 else 0

section signals

variable {g : Game}

theorem Single.le_one (h : g.Single) (i : Nat) : (g.seat i).signal ≤ 1 := by
  have hi := h i
  split_ifs at hi <;> omega

theorem Single.of_coherent (hc : g.Coherent) (h : ∀ i, (g.seat i).signal ≤ 1) : g.Single := by
  intro i
  split_ifs with hi
  · exact h i
  · exact Nat.le_of_eq (congrArg Seat.signal (hc.blank i (by omega)))

theorem signal_signalOnly (h : g.Single) (hm : g.taken ≤ mostSeats) {i : Nat} (hi : i < g.taken)
    (j : Nat) : ((g.signalOnly i).seat j).signal = if j = i then 1 else 0 := by
  by_cases hj : g.taken ≤ j
  · have hzero := h j
    rw [if_neg (by omega)] at hzero
    rw [seat_signalOnly_of_le g i hj, if_neg (by omega)]
    omega
  · rw [signalOnly, seat_mapPlaces g _ (by omega), if_neg hj]
    by_cases hji : j = i
    · rw [if_pos hji, if_pos hji, Seat.signal_raise (h.le_one j)]
    · rw [if_neg hji, if_neg hji]
      rfl

theorem signal_signalAll (h : g.Single) (hm : g.taken ≤ mostSeats) (j : Nat) :
    (g.signalAll.seat j).signal = if j < g.taken then 1 else 0 := by
  by_cases hj : g.taken ≤ j
  · have hzero := h j
    rw [if_neg (by omega)] at hzero ⊢
    rw [seat_signalAll_of_le g hj]
    omega
  · rw [signalAll, seat_mapPlaces g _ (by omega), if_neg hj, if_pos (by omega),
      Seat.signal_raise (h.le_one j)]

theorem Single.countTurn (h : g.Single) (i : Nat) : (g.modifySeat i Seat.countTurn).Single := by
  intro j
  rw [seat_modifySeat_congr (f := Seat.countTurn) Seat.signal g i (fun _ => rfl) j]
  exact h j

theorem signal_startWith (h : g.Single) (hm : g.taken ≤ mostSeats) {first : Nat}
    (hi : first < g.taken) (j : Nat) :
    ((g.startWith first).seat j).signal = if j = first then 1 else 0 :=
  signal_signalOnly
    (g := { g.modifySeat first Seat.countTurn with
      phase := .playing, current := first, round := 0 }) (h.countTurn first) hm hi j

/-- The seat given the turn is woken alone, unless that ends the game: then all are woken. -/
theorem signal_elected (h : g.Single) (hm : g.taken ≤ mostSeats) (hp : g.phase = .playing)
    {next : Nat} (hi : next < g.taken) (j : Nat) :
    ((g.elected next).seat j).signal =
      if (g.elected next).phase = .over then if j < g.taken then 1 else 0
      else if j = next then 1 else 0 := by
  have hturn : (g.handTo next).Single := h.countTurn next
  rw [elected_phase, elected_eq]
  by_cases hd : (g.handTo next).decided
  · rw [if_pos hd, if_pos hd, if_pos rfl]
    exact signal_signalAll (g := { g.handTo next with
      phase := .over, winner := some (champion (g.handTo next).seats),
      scores := _ }) hturn hm j
  · rw [if_neg hd, if_neg hd, hp, if_neg nofun]
    exact signal_signalOnly hturn hm hi j

end signals

/-- Which seats have a wake-up, as far as the phase says. -/
structure Signalled (g : Game) : Prop where
  single : g.Single
  waiting : g.phase = .waiting → ∀ i, (g.seat i).signal = 0
  playing : g.phase = .playing → ∀ i, i ≠ g.current → (g.seat i).signal = 0

theorem Signalled.sameTurn {g h : Game} (hg : g.Signalled) (hc : h.Coherent) (hs : g.SameTurn h) :
    h.Signalled where
  single := .of_coherent hc fun i => hs.signal i ▸ hg.single.le_one i
  waiting hp i := by
    rw [hs.signal]
    exact hg.waiting (hs.phase.symm.trans hp) i
  playing hp i hi := by
    rw [hs.signal]
    exact hg.playing (hs.phase.symm.trans hp) i (hs.current ▸ hi)

theorem signalled_startWith {g : Game} (h : g.Single) (hc : g.Coherent) {first : Nat}
    (hi : first < g.taken) : (g.startWith first).Signalled := by
  have hs := signal_startWith h hc.taken_le_most hi
  refine ⟨fun j => ?_, nofun, fun _ j hj => ?_⟩
  · rw [hs]
    change _ ≤ if j < g.taken then 1 else 0
    split_ifs <;> omega
  · exact (hs j).trans (if_neg hj)

theorem signalled_elected {g : Game} (h : g.Single) (hc : g.Coherent) (hp : g.phase = .playing)
    {next : Nat} (hi : next < g.taken) : (g.elected next).Signalled := by
  have hs := signal_elected h hc.taken_le_most hp hi
  refine ⟨fun j => ?_, fun hw => ?_, fun hpl j hj => ?_⟩
  · rw [hs, elected_taken]
    split_ifs <;> omega
  · rw [elected_phase, hp] at hw
    split_ifs at hw
  · rw [elected_current] at hj
    rw [hs, hpl, if_neg nofun, if_neg hj]

namespace Gives

variable {g g' : Game} {x : Option Nat}

theorem signalled (h : g.Gives x g') (hg : g.Signalled) : g'.Signalled := by
  cases h with
  | nobody hc hs => exact hg.sameTurn hc hs
  | start hc hs hp hi => exact signalled_startWith (hg.sameTurn hc hs).single hc hi
  | @pass h hc hs hp ho next hn =>
    exact signalled_elected (hg.sameTurn hc hs).single hc (hs.phase.trans hp) (hc.next_lt hn)

theorem signal_eq_one {i : Nat} (h : g.Gives (some i) g') (hg : g.Signalled)
    (ho : g'.phase ≠ .over) : (g'.seat i).signal = 1 := by
  cases h with
  | @start h hc hs hp _ hi =>
    rw [signal_startWith (hg.sameTurn hc hs).single hc.taken_le_most hi, if_pos rfl]
  | @pass h hc hs hp _ _ hn =>
    rw [signal_elected (hg.sameTurn hc hs).single hc.taken_le_most (hs.phase.trans hp)
      (hc.next_lt hn), if_neg ho, if_pos rfl]

theorem signal_of_over (h : g.Gives x g') (hg : g.Signalled) (hb : g.phase ≠ .over)
    (ho : g'.phase = .over) {i : Nat} (hi : i < g'.taken) : (g'.seat i).signal = 1 := by
  cases h with
  | nobody hc hs => exact absurd (hs.phase.symm.trans ho) hb
  | start => exact Phase.noConfusion ho
  | @pass h hc hs hp _ next hn =>
    rw [signal_elected (hg.sameTurn hc hs).single hc.taken_le_most (hs.phase.trans hp)
      (hc.next_lt hn), if_pos ho, if_pos (elected_taken h next ▸ hi)]

/-- Before the end a signal goes up only at the seat that is given the turn. -/
theorem signal_le (h : g.Gives x g') (hg : g.Signalled) (ho : g'.phase ≠ .over) (j : Nat) :
    (g'.seat j).signal ≤ (g.seat j).signal + if x = some j then 1 else 0 := by
  cases h with
  | nobody hc hs => exact Nat.le_add_right_of_le (Nat.le_of_eq (hs.signal j))
  | @start h hc hs hp first hi =>
    rw [signal_startWith (hg.sameTurn hc hs).single hc.taken_le_most hi]
    simp only [Option.some.injEq, eq_comm]
    split_ifs <;> omega
  | @pass h hc hs hp _ next hn =>
    rw [signal_elected (hg.sameTurn hc hs).single hc.taken_le_most (hs.phase.trans hp)
      (hc.next_lt hn), if_neg ho]
    simp only [Option.some.injEq, eq_comm]
    split_ifs <;> omega

theorem over_of_over (h : g.Gives x g') (hp : g.phase = .over) : g'.phase = .over := by
  cases h with
  | nobody hc hs => exact hs.phase.trans hp
  | start hc hs hw => exact Phase.noConfusion (hw.symm.trans hp)
  | pass hc hs hpl => exact Phase.noConfusion (hpl.symm.trans hp)

end Gives

theorem Signalled.took {g : Game} (h : g.Signalled) (i : Nat) : (g.took i).Signalled where
  single j := Nat.le_trans (g.signal_took_le i j) (h.single j)
  waiting hp j := Nat.le_zero.mp (h.waiting hp j ▸ g.signal_took_le i j)
  playing hp j hj := Nat.le_zero.mp (h.playing hp j hj ▸ g.signal_took_le i j)

/-- How turns and signals stand between calls. -/
structure Timely (g : Game) : Prop where
  judged : g.Judged
  paced : g.Paced
  signalled : g.Signalled

namespace Timely

variable {g g' : Game}

theorem change {c : Call} {a : Except Fault Done} (hs : g.Sound) (h : g.Timely)
    (hc : g.Change c a g') : g'.Timely where
  judged := judged_change hs h.judged hc
  paced := (hc.gives hs).paced h.paced h.judged.inRounds
  signalled := (hc.gives hs).signalled h.signalled

theorem took (hs : g.Sound) (h : g.Timely) (i : Nat) : (g.took i).Timely where
  judged := h.judged.took hs.taken_le_most i
  paced := h.paced.took i
  signalled := h.signalled.took i

theorem new (rules : Rules) (saved : Option Score.Board) : (new rules saved).Timely where
  judged := ⟨nofun, nofun⟩
  paced i := by
    rw [seat_new]
    exact Nat.zero_le _
  signalled :=
    have hzero (i : Nat) : ((Game.new rules saved).seat i).signal = 0 := by rw [seat_new]
    ⟨fun i => Nat.le_trans (Nat.le_of_eq (hzero i)) (Nat.zero_le _), fun _ => hzero, fun _ i _ => hzero i⟩

theorem afterAll (h : g.Timely) (hs : g.Sound) (deeds : List Deed) : (g.afterAll deeds).Timely :=
  hs.afterAll_induction (fun hs ht hc => ht.change hs hc) (fun hs ht _ => ht.took hs _) h deeds

end Timely

/-- All wake-ups of a seat, those already taken included, have come with turns of that seat. -/
theorem wakeUps_add_signal_le {g : Game} (hs : g.Sound) (h : g.Timely) (i : Nat) {n : Nat}
    (hn : g.phase ≠ .over → n + (g.seat i).signal ≤ (g.seat i).turns.toNat) (deeds : List Deed)
    (ho : (g.afterAll deeds).phase ≠ .over) :
    n + g.wakeUps i deeds + ((g.afterAll deeds).seat i).signal ≤
      ((g.afterAll deeds).seat i).turns.toNat := by
  -- `n` counts the wake-ups taken so far, so that the bound is one on the whole past
  induction deeds generalizing g n with
  | nil => exact hn ho
  | cons d deeds ih =>
    rw [afterAll_cons, wakeUps, ← Nat.add_assoc]
    cases d with
    | call c =>
      have hc := perform_change g c
      have hg := hc.gives hs
      refine ih (hs.change hc) (h.change hs hc) (fun hno => ?_) ho
      have hb : g.phase ≠ .over := fun hp => hno (hg.over_of_over hp)
      have hsignal := hg.signal_le h.signalled hno i
      have hturns := hg.turns h.paced i
      have hle := hn hb
      change n + 0 + _ ≤ _
      omega
    | take j =>
      rcases g.take_cases j with ⟨ht, he⟩ | ⟨hj, hpos, ht, he⟩
      · rw [ht, he, if_neg nofun]
        rw [afterAll_cons, he] at ho
        exact ih hs h hn ho
      · rw [ht, he]
        rw [afterAll_cons, he] at ho
        refine ih (hs.took hj) (h.took hs j) (fun hb => ?_) ho
        have hle := hn hb
        rw [turns_took]
        by_cases hij : j = i
        · subst hij
          have hseat : ((g.took j).seat j).signal = (g.seat j).signal - 1 := by
            rw [Game.took, seat_modifySeat_self g _ (Nat.lt_of_lt_of_le hj hs.taken_le_most)]
            rfl
          rw [if_pos rfl, hseat]
          omega
        · rw [if_neg fun he => hij (Option.some.inj he), Game.took,
            seat_modifySeat_of_ne g _ (Ne.symm hij)]
          exact hle

/-- At most one wake-up waits for a seat, and before the end none but for the seat whose turn it
is. A seat is woken when it is given the turn, everyone is woken at the end, and no seat is woken
more often than it has had the turn. -/
theorem signals_afterAll {rules : Rules} (h : rules.Valid) (saved : Option Score.Board)
    (deeds : List Deed) {g : Game} (hg : (new rules saved).afterAll deeds = g) :
    (∀ i, (g.seat i).signal ≤ 1) ∧
    (g.phase = .waiting → ∀ i, (g.seat i).signal = 0) ∧
    (g.phase = .playing → ∀ i, i ≠ g.current → (g.seat i).signal = 0) ∧
    (∀ c i, g.elects? (g.perform c).game = some i → (g.perform c).game.phase ≠ .over →
      ((g.perform c).game.seat i).signal = 1) ∧
    (∀ c, g.phase ≠ .over → (g.perform c).game.phase = .over →
      ∀ i < (g.perform c).game.taken, ((g.perform c).game.seat i).signal = 1) ∧
    (g.phase ≠ .over →
      ∀ i, (new rules saved).wakeUps i deeds + (g.seat i).signal ≤ (g.seat i).turns.toNat) := by
  have hnew := sound_new h saved
  have hs : g.Sound := hg ▸ hnew.afterAll deeds
  have ht : g.Timely := hg ▸ (Timely.new rules saved).afterAll hnew deeds
  refine ⟨ht.signalled.single.le_one, ht.signalled.waiting, ht.signalled.playing,
    fun c i he hno => ?_, fun c hb ho i hi => ?_, fun hno i => ?_⟩
  · have hc := (perform_change g c).gives hs
    rw [he] at hc
    exact hc.signal_eq_one ht.signalled hno
  · exact ((perform_change g c).gives hs).signal_of_over ht.signalled hb ho hi
  · have hle := wakeUps_add_signal_le hnew (Timely.new rules saved) i (n := 0)
      (fun _ => by rw [seat_new]; exact Nat.zero_le _) deeds (hg ▸ hno)
    rwa [hg, Nat.zero_add] at hle

theorem signals_afterAll_of_take :
    ∃ g, (new {}).afterAll [.call (.join "ann"), .call (.join "bob"), .call (.join "cleo"),
        .take 0, .call (.act 0 id), .take 1, .take 1, .call (.disconnect 1)] = g ∧
      Rules.Valid {} ∧ g.phase = .playing ∧ g.current = 2 ∧ (g.seat 1).signal = 0 ∧
      ((g.perform .advance).game.seat 0).signal = 1 ∧
      (new {}).wakeUps 1 [.call (.join "ann"), .call (.join "bob"), .call (.join "cleo"),
        .take 0, .call (.act 0 id), .take 1, .take 1, .call (.disconnect 1)] ≤ 1 := by
  have hr : Rules.Valid {} := by decide
  obtain ⟨-, -, hp, he, -, hw⟩ := signals_afterAll hr none [.call (.join "ann"),
    .call (.join "bob"), .call (.join "cleo"), .take 0, .call (.act 0 id), .take 1, .take 1,
    .call (.disconnect 1)] rfl
  refine ⟨_, rfl, hr, by decide +kernel, by decide +kernel, ?_, ?_, ?_⟩
  · exact hp (by decide +kernel) 1 (by decide +kernel)
  · exact he .advance 0 (by decide +kernel) (by decide +kernel)
  · have hle := hw (by decide +kernel) 1
    exact Nat.le_trans (Nat.le_of_add_right_le hle) (by decide +kernel)

end Game
end Rota
