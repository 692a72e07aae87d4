import Rota.Proofs.Game.Accounting
import Mathlib.Data.Nat.Count
import Mathlib.Data.List.Nodup

namespace Rota

section sorted

variable {e : List Nat} (he : e.Pairwise (· < ·)) {i j a b : Nat}
include he

theorem lt_of_index_lt (hi : e[i]? = some a) (hj : e[j]? = some b) (h : i < j) : a < b := by
  obtain ⟨hli, rfl⟩ := List.getElem?_eq_some_iff.mp hi
  obtain ⟨hlj, rfl⟩ := List.getElem?_eq_some_iff.mp hj
  exact List.pairwise_iff_getElem.mp he i j hli hlj h

theorem lt_iff_index_lt (hi : e[i]? = some a) (hj : e[j]? = some b) : a < b ↔ i < j := by
  constructor
  · intro hab
    by_contra hn
    rcases Nat.lt_or_eq_of_le (Nat.not_lt.mp hn) with hlt | rfl
    · have hba := lt_of_index_lt he hj hi hlt
      omega
    · have hsame : a = b := Option.some.inj (hi.symm.trans hj)
      omega
  · exact lt_of_index_lt he hi hj

theorem eq_iff_index_eq (hi : e[i]? = some a) (hj : e[j]? = some b) : a = b ↔ i = j := by
  have hlt := lt_iff_index_lt he hi hj
  have hgt := lt_iff_index_lt he hj hi
  omega

/-- The first element above `a`, or else the first of all, is the next one round the list. -/
theorem getElem?_next_index (ha : e[i]? = some a) (hb : b ∈ e)
    (hup : ∀ c ∈ e, a < c → a < b ∧ b ≤ c) (hdown : ∀ c ∈ e, c < a → a < b ∨ b ≤ c) :
    e[(i + 1) % e.length]? = some b ∧ (b ≤ a ↔ i + 1 = e.length) := by
  obtain ⟨p, hp, rfl⟩ := List.getElem_of_mem hb
  have hpb : e[p]? = some e[p] := List.getElem?_eq_getElem hp
  have hi : i < e.length := (List.getElem?_eq_some_iff.mp ha).1
  have hle : e[p] ≤ a ↔ p ≤ i := by
    have hlt := lt_iff_index_lt he ha hpb
    omega
  rw [hle]
  by_cases hlast : i + 1 = e.length
  · -- nothing lies above the last element, so that `b` cannot come after the first one
    have hzero : e[0]? = some e[0] := List.getElem?_eq_getElem (by omega)
    have hpi : p ≤ i := by omega
    have hp0 : p = 0 := by
      by_contra hne
      have h0 : e[0] < a := (lt_iff_index_lt he hzero ha).mpr (by omega)
      rcases hdown e[0] (List.getElem_mem _) h0 with hab | hb0
      · have habove := (lt_iff_index_lt he ha hpb).mp hab
        omega
      · have hbelow := (lt_iff_index_lt he hzero hpb).mpr (by omega)
        omega
    subst hp0
    rw [hlast, Nat.mod_self]
    exact ⟨hpb, by omega⟩
  · have hnext : e[i + 1]? = some e[i + 1] := List.getElem?_eq_getElem (by omega)
    have hac : a < e[i + 1] := lt_of_index_lt he ha hnext (Nat.lt_succ_self i)
    obtain ⟨hab, hbc⟩ := hup e[i + 1] (List.getElem_mem _) hac
    have hip := (lt_iff_index_lt he ha hpb).mp hab
    have hpi : ¬ i + 1 < p := by
      intro hlt
      have hcb := lt_of_index_lt he hnext hpb hlt
      omega
    have hpe : p = i + 1 := by omega
    subst hpe
    rw [Nat.mod_eq_of_lt (by omega)]
    exact ⟨hpb, by omega⟩

end sorted

namespace Game

/-- The seats that can be given the turn, in the order in which they stand. -/
def circuit (g : Game) : List Nat := (List.range g.taken).filter fun i => (g.seat i).eligible

section circuit

variable {g : Game}

theorem mem_circuit {i : Nat} : i ∈ g.circuit ↔ i < g.taken ∧ (g.seat i).eligible := by
  rw [circuit, List.mem_filter, List.mem_range]

theorem pairwise_circuit (g : Game) : g.circuit.Pairwise (· < ·) :=
  List.pairwise_lt_range.filter _

theorem circuit_of_core {h : Game} (ht : h.taken = g.taken)
    (hs : ∀ i, (h.seat i).core = (g.seat i).core) : h.circuit = g.circuit := by
  rw [circuit, circuit, ht]
  apply List.filter_congr
  intro i _
  rw [Seat.eligible_of_core (hs i)]

theorem circuit_elected (g : Game) (next : Nat) : (g.elected next).circuit = g.circuit :=
  circuit_of_core (elected_taken g next) (core_elected g next)

theorem circuit_startWith (g : Game) (first : Nat) : (g.startWith first).circuit = g.circuit :=
  circuit_of_core rfl (core_startWith g first)

/-- From a seat of the circuit the turn goes to the next one round it. -/
theorem next_circuit (hm : g.taken ≤ mostSeats) {i : Nat} (hi : g.circuit[i]? = some g.current) :
    ∃ next, nextSeat? g.seats g.current = some next ∧
      g.circuit[(i + 1) % g.circuit.length]? = some next ∧
      (next ≤ g.current ↔ i + 1 = g.circuit.length) := by
  obtain ⟨hcur, hel⟩ := mem_circuit.mp (List.mem_of_getElem? hi)
  cases hn : nextSeat? g.seats g.current with
  | none =>
    have hno := (g.next_eq_none_iff hm).mp hn g.current hcur
    exact absurd (hno.symm.trans hel) Bool.false_ne_true
  | some next =>
    obtain ⟨hlt, he⟩ := g.eligible_next hm hn
    have hle (c : Nat) (hc : c ∈ g.circuit) := by
      obtain ⟨hct, hce⟩ := mem_circuit.mp hc
      have hany : (g.seats[c]?).any Seat.eligible := by
        rw [getElem?_seats g hm, if_pos hct]
        exact hce
      rw [← length_seats g hm] at hcur hct
      exact nextSeat?_le hn hcur hct hany
    refine ⟨next, rfl, ?_⟩
    apply getElem?_next_index g.pairwise_circuit hi (mem_circuit.mpr ⟨hlt, he⟩)
    · intro c hc
      exact (hle c hc).1
    · intro c hc
      exact (hle c hc).2

/-- A game that starts gives the first turn to the head of the circuit. -/
theorem startIfReady_head (g : Game) (hm : g.taken ≤ mostSeats) (hw : g.phase = .waiting)
    (hp : g.startIfReady.1.phase = .playing) :
    ∃ first, g.circuit[0]? = some first ∧ g.startIfReady.1 = g.startWith first := by
  unfold startIfReady start at hp ⊢
  split_ifs at hp ⊢ with hr
  · cases hf : g.seats.findIdx? Seat.eligible with
    | none =>
      rw [hf] at hp
      exact absurd (hw.symm.trans hp) (by decide)
    | some first =>
      obtain ⟨hlt, he, hbefore⟩ := List.findIdx?_eq_some_iff_getElem.mp hf
      have hseat (i : Nat) (hi : i < g.seats.length) : g.seats[i] = g.seat i := by
        have hget := getElem?_seats g hm i
        rw [List.getElem?_eq_getElem hi, if_pos (by rwa [length_seats g hm] at hi)] at hget
        exact Option.some.inj hget
      refine ⟨first, ?_, rfl⟩
      rw [← List.head?_eq_getElem?, circuit, List.head?_filter, List.find?_range_eq_some]
      refine ⟨hseat first hlt ▸ he, List.mem_range.mpr (by rwa [length_seats g hm] at hlt), ?_⟩
      intro j hj
      rw [← hseat j (by omega), Bool.not_eq_true']
      simpa using hbefore j hj
  · exact absurd (hw.symm.trans hp) (by decide)

end circuit

/-- How often the seat at `j` in a circuit of `m` has had the turn once it has been passed on `k`
times. -/
def visits (m k j : Nat) : Nat := Nat.count (· % m = j) (k + 1)

/-- Where a game stands whose turn has gone round the seats `e` in order, `k` steps from the
first. -/
structure Turned (e : List Nat) (k : Nat) (g : Game) : Prop where
  circuit : g.circuit = e
  current : e[k % e.length]? = some g.current
  round : g.round.toNat = k / e.length
  moves : g.moves.toNat = k
  turns : ∀ j i, e[j]? = some i → (g.seat i).turns.toNat = visits e.length k j

theorem Change.start {g g' : Game} {c : Call} {a : Except Fault Done} (h : g.Change c a g')
    (hs : g.Sound) (hw : g.phase = .waiting) (hp : g'.phase = .playing) :
    ∃ h first, h.Coherent ∧ g.SameTurn h ∧ h.circuit[0]? = some first ∧
      g' = h.startWith first := by
  cases h with
  | idle => exact absurd (hw.symm.trans hp) (by decide)
  | join name ho hc =>
    have hco := hs.seatArrive name hc
    have hsame := SameTurn.seatNext hs.toCoherent name ho (lt_most_of_lt_capacity hc)
    obtain ⟨first, hf, he⟩ := startIfReady_head _ hco.taken_le_most hw hp
    exact ⟨_, first, hco, hsame.trans (.arrive _ _), hf, he⟩
  | connect i ho hi hc =>
    have hco := hs.arrive hi hc
    obtain ⟨first, hf, he⟩ := startIfReady_head _ hco.taken_le_most hw hp
    exact ⟨_, first, hco, .arrive g i, hf, he⟩
  | leave => exact absurd (hw.symm.trans hp) (by decide)
  | yield _ _ _ hpl => exact absurd (hw.symm.trans hpl) (by decide)
  | advance hpl => exact absurd (hw.symm.trans hpl) (by decide)
  | act _ _ hpl => exact absurd (hw.symm.trans hpl) (by decide)

theorem turned_start {g g' : Game} {c : Call} {a : Except Fault Done} (hc : g.Change c a g')
    (hs : g.Sound) (ht : g.Timely) (hw : g.phase = .waiting) (hp : g'.phase = .playing) :
    Turned g'.circuit 0 g' := by
  obtain ⟨h, first, hco, hsame, hfirst, rfl⟩ := hc.start hs hw hp
  have hcir := h.circuit_startWith first
  have hlt : first < h.taken := (mem_circuit.mp (List.mem_of_getElem? hfirst)).1
  have hzero (i : Nat) : (g.seat i).turns.toNat = 0 := by
    have hle := ht.paced i
    rw [pace, (hs.waiting hw).1, if_neg fun hn => hn.1 hw] at hle
    exact Nat.le_zero.mp hle
  refine ⟨rfl, ?_, ?_, ?_, ?_⟩
  · rw [hcir, Nat.zero_mod]
    exact hfirst
  · rw [Nat.zero_div]
    rfl
  · change h.moves.toNat = 0
    rw [hsame.moves, (hs.waiting hw).2.1]
    rfl
  · intro j i hj
    rw [hcir] at hj
    rw [turns_startWith h (Nat.lt_of_lt_of_le hlt hco.taken_le_most),
      (hsame.paced ht.paced).toNat_add, hsame.turns, hzero, visits, Nat.count_succ,
      Nat.count_zero, Nat.zero_mod]
    congr 1
    exact if_congr ((eq_iff_index_eq h.pairwise_circuit hj hfirst).trans eq_comm) rfl rfl

/-- What one more pass of the turn does to a game that has gone round so far. -/
theorem Turned.elected {e : List Nat} {k : Nat} {g : Game} (h : g.Turned e k) (hs : g.Sound)
    (ht : g.Timely) (ha : g.Accounted) (hp : g.phase = .playing) :
    ∃ next, nextSeat? g.seats g.current = some next ∧
      (g.elected next).Turned e (k + 1) := by
  obtain ⟨rfl, hcur, hround, hmoves, hturns⟩ := h
  obtain ⟨next, hn, hnext, hwrap⟩ := next_circuit hs.taken_le_most hcur
  rw [Nat.mod_add_mod] at hnext
  have hpos : 0 < g.circuit.length := List.length_pos_of_mem (List.mem_of_getElem? hcur)
  refine ⟨next, hn, g.circuit_elected next, ?_, ?_, ?_, ?_⟩
  · rw [elected_current]
    exact hnext
  · -- the turn comes to a seat that is not further on just when a whole round is done
    have hdvd : k % g.circuit.length + 1 = g.circuit.length ↔ g.circuit.length ∣ k + 1 := by
      rw [Nat.dvd_iff_mod_eq_zero, ← Nat.mod_add_mod]
      have hmod := Nat.mod_lt k hpos
      constructor
      · intro heq
        rw [heq, Nat.mod_self]
      · intro hz
        by_contra hne
        rw [Nat.mod_eq_of_lt (by omega)] at hz
        omega
    rw [round_elected (ht.judged.inRounds hp), hround, Nat.succ_div]
    simp only [hwrap, hdvd]
  · rw [elected_moves, UInt64.toNat_add, UInt64.toNat_one, hmoves]
    have hno := ha.no_overflow
    rw [hmoves] at hno
    exact Nat.mod_eq_of_lt hno
  · intro j i hj
    have hmost := Nat.lt_of_lt_of_le (hs.next_lt hn) hs.taken_le_most
    rw [turns_elected g hmost, ht.paced.toNat_add, hturns j i hj, visits, visits,
      Nat.count_succ _ (k + 1)]
    congr 1
    exact if_congr ((eq_iff_index_eq g.pairwise_circuit hj hnext).trans eq_comm) rfl rfl

theorem elect_fst (g : Game) (next : Nat) :
    (g.elect next).1 =
      if (g.handTo next).decided then .over (champion (g.handTo next).seats) else .next next := by
  simp only [elect]
  split_ifs <;> rfl

/-- A game that goes on after its turn has gone `k` steps round the seats `e`. -/
structure Spinning (e : List Nat) (k : Nat) (g : Game) : Prop where
  turned : g.Turned e k
  phase : g.phase = .playing
  sound : g.Sound
  timely : g.Timely
  accounted : g.Accounted

/-- A game that has just started has its circuit before it, which is made up of the players who are
there. -/
theorem spinning_start {g g' : Game} {c : Call} {a : Except Fault Done} (hc : g.Change c a g')
    (hs : g.Sound) (ht : g.Timely) (ha : g.Accounted) (hw : g.phase = .waiting)
    (hp : g'.phase = .playing) :
    g'.Spinning g'.circuit 0 ∧
      ∀ i, i ∈ g'.circuit ↔ i < g'.taken ∧ (g'.seat i).connected := by
  have hs' := hs.change hc
  refine ⟨⟨turned_start hc hs ht hw hp, hp, hs', ht.change hs hc, ha.change hs ht hc⟩, ?_⟩
  intro i
  obtain ⟨h, first, hco, hsame, -, rfl⟩ := hc.start hs hw hp
  have hsolvent : ((h.startWith first).seat i).bankrupt = false := by
    rw [(Seat.of_core (core_startWith h first i)).2.2.1]
    exact (hco.waiting (hsame.phase.trans hw)).2.2 i
  rw [mem_circuit]
  apply and_congr_right
  intro hi
  rw [hs'.eligible_seat hi, hs'.active i hi, hsolvent, Bool.not_false, Bool.and_true]

namespace Spinning

variable {e : List Nat} {k : Nat} {g : Game}

theorem length_pos (h : g.Spinning e k) : 0 < e.length :=
  List.length_pos_of_mem (List.mem_of_getElem? h.turned.current)

/-- While the turn only goes round, nothing but the rounds can decide the game. -/
theorem decided_iff (h : g.Spinning e k) {next : Nat} (hnext : (g.elected next).Turned e (k + 1)) :
    (g.handTo next).decided ↔ e.length * g.rules.lapCap.toNat ≤ k + 1 := by
  have hm := h.sound.taken_le_most
  have hsolvent : (g.seat g.current).bankrupt = false := by
    have hcur : g.current ∈ g.circuit := h.turned.circuit ▸ List.mem_of_getElem? h.turned.current
    have hel := (mem_circuit.mp hcur).2
    simp only [Seat.eligible, Seat.inPlay, Bool.and_eq_true, Bool.not_eq_true'] at hel
    exact hel.2.2
  have htwo := (h.timely.judged.opened h.phase).two_le hsolvent
  have hpaying : (g.handTo next).paying = g.paying := paying_of_core hm rfl (core_handTo g next)
  have hround : (g.handTo next).round.toNat = (k + 1) / e.length := by
    rw [← elected_round]
    exact hnext.round
  rw [(g.handTo next).decided_iff hm, hpaying, UInt32.le_iff_toNat_le, hround,
    Nat.le_div_iff_mul_le h.length_pos, Nat.mul_comm]
  change _ ∨ e.length * g.rules.lapCap.toNat ≤ k + 1 ↔ _
  omega

/-- The turn goes on to the next of the seats, or the game is over once the rounds are used up. -/
theorem passed (h : g.Spinning e k) :
    g.passed.Turned e (k + 1) ∧
      (k + 1 < e.length * g.rules.lapCap.toNat →
        g.handed = .ok (.turn (.next g.passed.current)) ∧ g.passed.phase = .playing) ∧
      (e.length * g.rules.lapCap.toNat ≤ k + 1 →
        (∃ w, g.handed = .ok (.turn (.over w))) ∧ g.passed.phase = .over) := by
  obtain ⟨next, hn, hnext⟩ := h.turned.elected h.sound h.timely h.accounted h.phase
  have hd := h.decided_iff hnext
  rcases g.passed_cases h.phase with ⟨hnone, -, -⟩ | ⟨next', hn', hanswer, hgame⟩
  · exact absurd (hnone.symm.trans hn) nofun
  · obtain rfl : next' = next := Option.some.inj (hn'.symm.trans hn)
    rw [hgame, hanswer, elect_fst, elected_phase, elected_current, h.phase]
    refine ⟨hnext, ?_, ?_⟩
    · intro hlt
      have hno : ¬ (g.handTo next').decided := by
        rw [hd]
        omega
      rw [if_neg hno, if_neg hno]
      exact ⟨rfl, rfl⟩
    · intro hle
      have hyes := hd.mpr hle
      rw [if_pos hyes, if_pos hyes]
      exact ⟨⟨_, rfl⟩, rfl⟩

end Spinning

theorem perform_advance (g : Game) :
    (g.perform .advance).answer = g.handed ∧ (g.perform .advance).game = g.passed :=
  ⟨g.advance_answer, g.advance_game⟩

/-- The game after the turn has been passed on `k` times, and nothing else. -/
def spun (g : Game) (k : Nat) : Game := g.run (List.replicate k .advance)

theorem spun_succ (g : Game) (k : Nat) : g.spun (k + 1) = (g.spun k).passed := by
  rw [spun, List.replicate_succ', run, List.foldl_append]
  exact (perform_advance _).2

section spun

variable {e : List Nat} {g : Game} {n : Nat} (h : g.Spinning e 0)
  (hn : e.length * g.rules.lapCap.toNat = n)
include h hn

theorem spinning_spun {k : Nat} (hk : k < n) :
    (g.spun k).Spinning e k ∧ (g.spun k).rules = g.rules := by
  induction k with
  | zero => exact ⟨h, rfl⟩
  | succ k ih =>
    obtain ⟨hspin, hrules⟩ := ih (by omega)
    obtain ⟨hnext, hon, -⟩ := hspin.passed
    obtain ⟨-, hphase⟩ := hon (by rw [hrules, hn]; exact hk)
    have hc := Change.advance hspin.phase
    rw [spun_succ]
    exact ⟨⟨hnext, hphase, hspin.sound.change hc, hspin.timely.change hspin.sound hc,
      hspin.accounted.change hspin.sound hspin.timely hc⟩, hc.rules.trans hrules⟩

theorem answer_spun {k : Nat} (hk : k + 1 < n) :
    ((g.spun k).perform .advance).answer = .ok (.turn (.next (g.spun (k + 1)).current)) := by
  obtain ⟨hspin, hrules⟩ := spinning_spun h hn (k := k) (by omega)
  obtain ⟨-, hon, -⟩ := hspin.passed
  rw [spun_succ, (perform_advance _).1]
  exact (hon (by rw [hrules, hn]; exact hk)).1

theorem over_spun (hpos : 0 < n) :
    (∃ w, ((g.spun (n - 1)).perform .advance).answer = .ok (.turn (.over w))) ∧
      (g.spun n).phase = .over ∧ (g.spun n).round = g.rules.lapCap := by
  obtain ⟨k, rfl⟩ : ∃ k, n = k + 1 := ⟨n - 1, by omega⟩
  obtain ⟨hspin, hrules⟩ := spinning_spun h hn (Nat.lt_succ_self k)
  obtain ⟨hnext, -, hend⟩ := hspin.passed
  obtain ⟨hanswer, hover⟩ := hend (by rw [hrules, hn])
  rw [Nat.add_sub_cancel, spun_succ, (perform_advance _).1]
  refine ⟨hanswer, hover, UInt32.toNat_inj.mp ?_⟩
  rw [hnext.round, ← hn]
  exact Nat.mul_div_cancel_left _ h.length_pos

theorem error_spun (hpos : 0 < n) {k : Nat} (hk : n ≤ k) :
    ((g.spun k).perform .advance).answer = .error .over := by
  have hphase : (g.spun k).phase = .over := by
    induction k, hk using Nat.le_induction with
    | base => exact (over_spun h hn hpos).2.1
    | succ k hk ih =>
      rw [spun_succ, Game.passed, handOver, ih]
      exact ih
  rw [(perform_advance _).1, handed, handOver, hphase]
  rfl

end spun

end Game
end Rota
