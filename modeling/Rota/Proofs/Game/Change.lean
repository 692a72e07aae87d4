import Rota.Proofs.Game.Election

namespace Rota.Game

/-- A call that finds nothing to do, whether it is refused or not. -/
def Idles (g : Game) : Call → Prop
  | .join _ => g.phase = .over ∨ g.capacity ≤ g.taken
  | .connect i => g.taken ≤ i ∨ (g.seat i).connected ∨ g.phase = .over
  | .disconnect i => g.taken ≤ i ∨ (g.seat i).connected = false
  | .advance => g.phase ≠ .playing
  | .act i _ => g.phase ≠ .playing ∨ g.taken ≤ i ∨ g.current ≠ i

/-- All that a call can do: what it answers and the game that it leaves. -/
inductive Change (g : Game) : Call → Except Fault Done → Game → Prop
  | idle {c : Call} {a : Except Fault Done} (h : g.Idles c)
      (ha : a = .ok .done ∨ ∃ f, a = .error f) : Change g c a g
  | join (name : String) (hp : g.phase ≠ .over) (hc : g.taken < g.capacity) :
      Change g (.join name) (.ok (.seat g.taken))
        ((g.seatNext name).arrive g.taken).startIfReady.1
  | connect (i : Nat) (hp : g.phase ≠ .over) (hi : i < g.taken)
      (hc : (g.seat i).connected = false) :
      Change g (.connect i) (.ok .done) (g.arrive i).startIfReady.1
  | leave (i : Nat) (hi : i < g.taken) (hc : (g.seat i).connected)
      (ht : ¬ (g.phase = .playing ∧ g.current = i)) :
      Change g (.disconnect i) (.ok .done) (g.leave i)
  | yield (i : Nat) (hi : i < g.taken) (hc : (g.seat i).connected) (hp : g.phase = .playing)
      (ht : g.current = i) : Change g (.disconnect i) (.ok .done) (g.leave i).passed
  | advance (hp : g.phase = .playing) : Change g .advance g.handed g.passed
  | act (i : Nat) (move : Purse → Purse) (hp : g.phase = .playing) (hi : i < g.taken)
      (ht : g.current = i) :
      Change g (.act i move) (g.putPurse i (move (g.seat i).purse)).1.handed
        (g.putPurse i (move (g.seat i).purse)).1.passed

theorem seated_of_lt (g : Game) {i : Nat} (h : i < g.taken) : g.seated i = .ok (g.seat i) :=
  if_pos h

theorem seated_of_le (g : Game) {i : Nat} (h : g.taken ≤ i) :
    g.seated i = .error (.notSeated i g.taken) :=
  if_neg (by omega)

theorem connect_of_absent (g : Game) {i : Nat} (hi : i < g.taken)
    (hc : (g.seat i).connected = false) (hp : g.phase ≠ .over) :
    g.connect i = (g.arrive i).greet i := by
  simp [connect, seated_of_lt g hi, hc, isOver, hp]

@[simp] theorem settle_game (g : Game) (events : List Event) :
    (g.settle events).game = g.passed := by
  unfold settle passed
  cases g.handOver <;> rfl

@[simp] theorem settle_answer (g : Game) (events : List Event) :
    (g.settle events).answer.map Done.turn = g.handed := by
  unfold settle handed
  cases g.handOver <;> rfl

theorem advance_game (g : Game) : g.advance.game = g.passed := by
  unfold advance passed settle
  cases g.handOver <;> rfl

theorem advance_answer (g : Game) : g.advance.answer.map Done.turn = g.handed := by
  unfold advance handed settle
  cases g.handOver <;> rfl

theorem handOver_of_not_playing (g : Game) (h : g.phase ≠ .playing) :
    ∃ f, g.handOver = .error f := by
  unfold handOver
  cases hp : g.phase with
  | waiting => exact ⟨_, rfl⟩
  | playing => exact absurd hp h
  | «over» => exact ⟨_, rfl⟩

theorem mover_of_turn (g : Game) {i : Nat} (hp : g.phase = .playing) (hi : i < g.taken)
    (ht : g.current = i) : g.mover i = .ok (g.seat i) := by
  simp [mover, hp, seated_of_lt g hi, ht, bind, Except.bind]

theorem mover_of_idle (g : Game) {i : Nat} {move : Purse → Purse} (h : g.Idles (.act i move)) :
    ∃ f, g.mover i = .error f := by
  unfold mover
  cases hp : g.phase with
  | waiting => exact ⟨_, rfl⟩
  | «over» => exact ⟨_, rfl⟩
  | playing =>
    by_cases hi : i < g.taken
    · have ht : g.current ≠ i := (h.resolve_left (by simp [hp])).resolve_left (by omega)
      rw [seated_of_lt g hi]
      exact ⟨_, if_neg ht⟩
    · rw [seated_of_le g (by omega)]
      exact ⟨_, rfl⟩

theorem join_change (g : Game) (name : String) :
    Change g (.join name) ((g.join name).answer.map Done.seat) (g.join name).game := by
  unfold join
  split_ifs with ho hf
  · exact .idle (.inl (by simpa [isOver] using ho)) (.inr ⟨_, rfl⟩)
  · exact .idle (.inr hf) (.inr ⟨_, rfl⟩)
  · have hp : g.phase ≠ .over := by simpa [isOver] using ho
    have hc : g.taken < g.capacity := by omega
    rw [connect_of_absent (g.seatNext name) (Nat.lt_succ_self g.taken)
      (connected_seatNext g name (lt_most_of_lt_capacity hc)) hp]
    exact .join name hp hc

theorem connect_change (g : Game) (i : Nat) :
    Change g (.connect i) ((g.connect i).answer.map fun _ => .done) (g.connect i).game := by
  by_cases hi : i < g.taken
  · by_cases hc : (g.seat i).connected
    · rw [connect, seated_of_lt g hi]
      simp only [hc, if_true]
      exact .idle (.inr (.inl hc)) (.inl rfl)
    by_cases hp : g.phase = .over
    · rw [connect, seated_of_lt g hi]
      simp only [hc, isOver, hp, decide_true, if_true]
      exact .idle (.inr (.inr hp)) (.inr ⟨_, rfl⟩)
    · have hc : (g.seat i).connected = false := by simpa using hc
      rw [connect_of_absent g hi hc hp]
      exact .connect i hp hi hc
  · rw [connect, seated_of_le g (by omega)]
    exact .idle (.inl (by omega)) (.inr ⟨_, rfl⟩)

theorem disconnect_change (g : Game) (i : Nat) :
    Change g (.disconnect i) ((g.disconnect i).answer.map fun _ => .done)
      (g.disconnect i).game := by
  unfold disconnect
  by_cases hi : i < g.taken
  · rw [seated_of_lt g hi]
    dsimp only
    split_ifs with hc ht
    · have ht : g.phase = .playing ∧ g.current = i := by simpa [isTurnOf] using ht
      have hy := Change.yield i hi hc ht.1 ht.2
      rw [← settle_game _ [.disconnected i]] at hy
      exact hy
    · exact .leave i hi hc (by simpa [isTurnOf] using ht)
    · exact .idle (.inr (by simpa using hc)) (.inl rfl)
  · rw [seated_of_le g (by omega)]
    exact .idle (.inl (by omega)) (.inr ⟨_, rfl⟩)

theorem advance_change (g : Game) :
    Change g .advance (g.advance.answer.map Done.turn) g.advance.game := by
  by_cases hp : g.phase = .playing
  · rw [advance_answer, advance_game]
    exact .advance hp
  · obtain ⟨f, hf⟩ := g.handOver_of_not_playing hp
    rw [advance, hf]
    exact .idle hp (.inr ⟨_, rfl⟩)

theorem act_change (g : Game) (i : Nat) (move : Purse → Purse) :
    Change g (.act i move) ((g.act i move).answer.map Done.turn) (g.act i move).game := by
  unfold act
  by_cases h : g.Idles (.act i move)
  · obtain ⟨f, hf⟩ := g.mover_of_idle h
    rw [hf]
    exact .idle h (.inr ⟨_, rfl⟩)
  · obtain ⟨hp, hi, ht⟩ : g.phase = .playing ∧ i < g.taken ∧ g.current = i := by
      simpa [Idles] using h
    rw [g.mover_of_turn hp hi ht]
    dsimp only
    rw [settle_answer, settle_game]
    exact .act i move hp hi ht

/-- Every call does what its case of `Change` says. -/
theorem perform_change (g : Game) (c : Call) :
    Change g c (g.perform c).answer (g.perform c).game := by
  cases c with
  | join name => exact join_change g name
  | connect i => exact connect_change g i
  | disconnect i => exact disconnect_change g i
  | advance => exact advance_change g
  | act i move => exact act_change g i move

/-- The seat that an answer hands out, if it hands one out. -/
def seatIn? {ε : Type} : Except ε Done → Option Nat
  | .ok (.seat i) => some i
  | _ => none

theorem seatIn?_mapError {ε ε' : Type} (f : ε → ε') (a : Except ε Done) :
    seatIn? (a.mapError f) = seatIn? a := by
  cases a with
  | ok d => cases d <;> rfl
  | error e => rfl

/-- What the calls of a run answer. -/
def answers (g : Game) : List Call → List (Except Fault Done)
  | [] => []
  | c :: calls => (g.perform c).answer :: (g.perform c).game.answers calls

@[simp] theorem seatIn?_handed (g : Game) : seatIn? g.handed = none := by
  unfold handed
  cases g.handOver <;> rfl

namespace Change

variable {g g' : Game} {c : Call} {a : Except Fault Done}

theorem rules (h : Change g c a g') : g'.rules = g.rules := by
  cases h with
  | idle => rfl
  | join name hp hc => exact startIfReady_rules _
  | connect i hp hi hc => exact startIfReady_rules _
  | leave i hi hc ht => rfl
  | yield i hi hc hp ht => exact passed_rules _
  | advance hp => exact passed_rules g
  | act i move hp hi ht => rw [passed_rules, putPurse_rules]

/-- A call takes no more places than the one that it hands out, which is the next. -/
theorem range_taken (h : Change g c a g') :
    List.range g'.taken = List.range g.taken ++ (seatIn? a).toList := by
  cases h with
  | idle h ha =>
    rcases ha with rfl | ⟨f, rfl⟩ <;> simp [seatIn?]
  | join name hp hc =>
    rw [startIfReady_taken]
    exact List.range_succ
  | connect i hp hi hc =>
    rw [startIfReady_taken]
    exact (List.append_nil _).symm
  | leave i hi hc ht => exact (List.append_nil _).symm
  | yield i hi hc hp ht =>
    rw [passed_taken]
    exact (List.append_nil _).symm
  | advance hp => simp
  | act i move hp hi ht => simp

end Change

@[simp] theorem run_nil (g : Game) : g.run [] = g := rfl

@[simp] theorem run_cons (g : Game) (c : Call) (calls : List Call) :
    g.run (c :: calls) = (g.perform c).game.run calls :=
  rfl

theorem run_take_succ (g : Game) {calls : List Call} {k : Nat} (hk : k < calls.length) :
    g.run (calls.take (k + 1)) = ((g.run (calls.take k)).perform calls[k]).game := by
  rw [List.take_succ_eq_append_getElem hk, run, List.foldl_append]
  rfl

theorem run_rules (g : Game) (calls : List Call) : (g.run calls).rules = g.rules := by
  induction calls generalizing g with
  | nil => rfl
  | cons c calls ih => exact (ih _).trans (perform_change g c).rules

/-- The seats that a run hands out are those after the ones taken, in order. -/
theorem range_taken_run (g : Game) (calls : List Call) :
    List.range (g.run calls).taken =
      List.range g.taken ++ (g.answers calls).filterMap seatIn? := by
  induction calls generalizing g with
  | nil => simp [answers]
  | cons c calls ih =>
    have hc := (perform_change g c).range_taken
    have hr := ih (g.perform c).game
    rw [hc, List.append_assoc] at hr
    rw [run_cons, answers, List.filterMap_cons]
    cases hs : seatIn? (g.perform c).answer with
    | none => simpa [hs] using hr
    | some i => simpa [hs] using hr

end Rota.Game
