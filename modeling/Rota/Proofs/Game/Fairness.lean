import Rota.Proofs.Game.Giving
import Rota.Proofs.Game.History

namespace Rota.Game

theorem Coherent.lt_of_eligible {g : Game} (h : g.Coherent) {i : Nat}
    (he : (g.seat i).eligible) : i < g.taken := by
  by_contra hi
  rw [h.blank i (by omega)] at he
  exact Bool.false_ne_true he

theorem Gives.current {g g' : Game} {x : Nat} (h : g.Gives (some x) g') :
    g'.current = x ∧ g'.phase ≠ .waiting := by
  cases h with
  | start => exact ⟨rfl, nofun⟩
  | @pass h hc hs hp _ _ hn =>
    refine ⟨elected_current h x, ?_⟩
    rw [elected_phase, hs.phase, hp]
    split_ifs <;> nofun

/-- A turn that moves does not pass over a seat that could have had it. -/
theorem Gives.le {g g' : Game} {x j : Nat} (h : g.Gives (some x) g') (hp : g.phase ≠ .waiting)
    (hj : j ≠ g.current) (he : (g.seat j).eligible) :
    (g.current < j → g.current < x ∧ x ≤ j) ∧ (j < g.current → g.current < x ∨ x ≤ j) := by
  cases h with
  | start hc hs hw => exact absurd hw hp
  | @pass h hc hs hpl ho _ hn =>
    have hm := hc.taken_le_most
    rw [← ho j hj] at he
    have hlt := hc.lt_of_eligible he
    have hcur : g.current < h.taken := by
      rw [← hs.current]
      exact hc.current_lt_of_playing (hs.phase.trans hpl)
    rw [hs.current] at hn
    refine nextSeat?_le hn (by rwa [length_seats h hm]) (by rwa [length_seats h hm]) ?_
    rw [getElem?_seats h hm, if_pos hlt]
    exact he

/-- The seat that deed number `k` of a history gives the turn to. -/
def electedAt? (g : Game) (deeds : List Deed) (k : Nat) : Option Nat :=
  (g.stage deeds k).elects? (g.stage deeds (k + 1))

/-- A deed either leaves the turn where it is or gives it to a seat. -/
theorem stage_cases {g : Game} (hs : g.Sound) (deeds : List Deed) (k : Nat) :
    (g.electedAt? deeds k = none ∧
      (g.stage deeds (k + 1)).current = (g.stage deeds k).current ∧
      (g.stage deeds (k + 1)).phase = (g.stage deeds k).phase) ∨
    ∃ x, g.electedAt? deeds k = some x ∧
      (g.stage deeds k).Gives (some x) (g.stage deeds (k + 1)) := by
  have hk : (g.stage deeds k).Sound := hs.afterAll _
  unfold electedAt?
  by_cases hlt : k < deeds.length
  · have hnext : g.stage deeds (k + 1) = (g.stage deeds k).after deeds[k] :=
      g.afterAll_take_succ hlt
    rw [hnext]
    cases deeds[k] with
    | call c =>
      have hc := (perform_change (g.stage deeds k) c).gives hk
      cases hx : (g.stage deeds k).elects? ((g.stage deeds k).perform c).game with
      | none =>
        rw [hx] at hc
        cases hc with
        | nobody hc hs => exact .inl ⟨hx, hs.current, hs.phase⟩
      | some x =>
        rw [hx] at hc
        exact .inr ⟨x, hx, hc⟩
    | take i =>
      have hnone : (g.stage deeds k).elects? ((g.stage deeds k).took i) = none :=
        if_neg fun h => h.elim (fun hm => hm rfl) fun hp => hp.2 hp.1
      rcases (g.stage deeds k).take_cases i with ⟨-, he⟩ | ⟨-, -, -, he⟩
      · rw [he]
        exact .inl ⟨(Gives.nobody hk.toCoherent (.refl _)).elects?, rfl, rfl⟩
      · rw [he]
        exact .inl ⟨hnone, rfl, rfl⟩
  · have hnext : g.stage deeds (k + 1) = g.stage deeds k := by
      rw [stage, stage, List.take_of_length_le (by omega), List.take_of_length_le (by omega)]
    rw [hnext]
    exact .inl ⟨(Gives.nobody hk.toCoherent (.refl _)).elects?, rfl, rfl⟩

/-- On its way from seat `i` to seat `j` the turn has come as far as `p`. -/
def Underway (i j p : Nat) : Prop := if i < j then i ≤ p ∧ p < j else i ≤ p ∨ p < j

theorem Underway.ne {i j p : Nat} (h : Underway i j p) (hij : j ≠ i) : j ≠ p := by
  unfold Underway at h
  split_ifs at h <;> omega

theorem Underway.step {i j p x : Nat} (h : Underway i j p)
    (hup : p < j → p < x ∧ x ≤ j) (hdown : j < p → p < x ∨ x ≤ j) (hx : x ≠ j) :
    Underway i j x := by
  unfold Underway at h ⊢
  split_ifs at h ⊢ <;> omega

/-- The turn cannot come back to `i` from there before it has been at `j`. -/
theorem Underway.ne_back {i j p : Nat} (h : Underway i j p) (hij : j ≠ i)
    (hup : p < j → p < i ∧ i ≤ j) (hdown : j < p → p < i ∨ i ≤ j) : False := by
  unfold Underway at h
  split_ifs at h <;> omega

/-- Between two turns of one seat every other seat that could have had the turn has had it. -/
theorem exists_electedAt {g : Game} (hg : g.Sound) {deeds : List Deed} {s t i j : Nat}
    (hst : s < t) (hs : g.electedAt? deeds s = some i) (ht : g.electedAt? deeds t = some i)
    (hij : j ≠ i) (hj : ∀ k, s < k → k ≤ t → ((g.stage deeds k).seat j).eligible) :
    ∃ k, s < k ∧ k < t ∧ g.electedAt? deeds k = some j := by
  by_contra hno
  -- as long as `j` is not reached, the turn stays on the way from `i` to `j`
  have hway (k : Nat) (hsk : s + 1 ≤ k) : k ≤ t →
      Underway i j (g.stage deeds k).current ∧ (g.stage deeds k).phase ≠ .waiting := by
    induction hsk with
    | refl =>
      intro _
      rcases stage_cases hg deeds s with ⟨hnone, -⟩ | ⟨x, hx, hgives⟩
      · exact absurd (hnone.symm.trans hs) nofun
      · have hxi : x = i := Option.some.inj (hx.symm.trans hs)
        obtain ⟨hcur, hphase⟩ := hgives.current
        rw [hcur, hxi]
        refine ⟨?_, hphase⟩
        unfold Underway
        split_ifs <;> omega
    | @step k hsk ih =>
      intro hkt
      have hsk : s < k := hsk
      obtain ⟨hunder, hphase⟩ := ih (by omega)
      rcases stage_cases hg deeds k with ⟨-, hcur, hph⟩ | ⟨x, hx, hgives⟩
      · rw [hcur, hph]
        exact ⟨hunder, hphase⟩
      · obtain ⟨hup, hdown⟩ :=
          hgives.le hphase (hunder.ne hij) (hj k (by omega) (by omega))
        obtain ⟨hcur, hph⟩ := hgives.current
        have hxj : x ≠ j := by
          rintro rfl
          exact hno ⟨k, by omega, by omega, hx⟩
        rw [hcur]
        exact ⟨hunder.step hup hdown hxj, hph⟩
  obtain ⟨hunder, hphase⟩ := hway t hst (Nat.le_refl t)
  rcases stage_cases hg deeds t with ⟨hnone, -⟩ | ⟨x, hx, hgives⟩
  · exact absurd (hnone.symm.trans ht) nofun
  · have hxi : x = i := Option.some.inj (hx.symm.trans ht)
    subst hxi
    obtain ⟨hup, hdown⟩ := hgives.le hphase (hunder.ne hij) (hj t hst (Nat.le_refl t))
    exact hunder.ne_back hij hup hdown

/-- Between two turns of seat `i` in a row every other seat that can have the turn all the while
has it, and has it once only if seat `i` can have it all the while too. -/
theorem fair_afterAll {rules : Rules} (h : rules.Valid) (saved : Option Score.Board)
    (deeds : List Deed) {s t i j : Nat} (hst : s < t)
    (hs : (new rules saved).electedAt? deeds s = some i)
    (ht : (new rules saved).electedAt? deeds t = some i)
    (hrow : ∀ k, s < k → k < t → (new rules saved).electedAt? deeds k ≠ some i)
    (hij : j ≠ i)
    (hj : ∀ k, s < k → k ≤ t → (((new rules saved).stage deeds k).seat j).eligible) :
    (∃ k, s < k ∧ k < t ∧ (new rules saved).electedAt? deeds k = some j) ∧
      ((∀ k, s < k → k ≤ t → (((new rules saved).stage deeds k).seat i).eligible) →
        ∃! k, s < k ∧ k < t ∧ (new rules saved).electedAt? deeds k = some j) := by
  have hg := sound_new h saved
  obtain ⟨k, hsk, hkt, hk⟩ := exists_electedAt hg hst hs ht hij hj
  refine ⟨⟨k, hsk, hkt, hk⟩, fun hi => ⟨k, ⟨hsk, hkt, hk⟩, ?_⟩⟩
  -- two turns of `j` would have one of `i` between them
  have honce {m n : Nat} (hsm : s < m) (hmn : m < n) (hnt : n < t)
      (hm : (new rules saved).electedAt? deeds m = some j)
      (hn : (new rules saved).electedAt? deeds n = some j) : False := by
    obtain ⟨l, hml, hln, hl⟩ := exists_electedAt hg hmn hm hn (Ne.symm hij)
      fun l hml hln => hi l (by omega) (by omega)
    exact hrow l (by omega) (by omega) hl
  rintro m ⟨hsm, hmt, hm⟩
  rcases Nat.lt_trichotomy m k with hmk | rfl | hkm
  · exact (honce hsm hmk hkt hm hk).elim
  · rfl
  · exact (honce hsk hkm hmt hk hm).elim

theorem fair_afterAll_of_newcomer :
    ∃ deeds, deeds = [.call (.join "ann"), .call (.join "bob"), .call (.join "cleo"),
        .call (.act 0 id), .call (.join "dan"), .call (.act 1 id), .call (.disconnect 2),
        .call (.act 3 id)] ∧
      Rules.Valid {} ∧ (new {}).electedAt? deeds 2 = some 0 ∧
      (new {}).electedAt? deeds 7 = some 0 ∧
      ∃! k, 2 < k ∧ k < 7 ∧ (new {}).electedAt? deeds k = some 1 := by
  refine ⟨_, rfl, by decide, by decide +kernel, by decide +kernel, ?_⟩
  have hr : Rules.Valid {} := by decide
  refine (fair_afterAll hr none _ (s := 2) (t := 7) (i := 0) (j := 1) (by decide)
    (by decide +kernel) (by decide +kernel) (fun k hk hk' => ?_) (by decide)
    (fun k hk hk' => ?_)).2 fun k hk hk' => ?_
  · obtain rfl | rfl | rfl | rfl : k = 3 ∨ k = 4 ∨ k = 5 ∨ k = 6 := by omega
    all_goals decide +kernel
  · obtain rfl | rfl | rfl | rfl | rfl : k = 3 ∨ k = 4 ∨ k = 5 ∨ k = 6 ∨ k = 7 := by omega
    all_goals decide +kernel
  · obtain rfl | rfl | rfl | rfl | rfl : k = 3 ∨ k = 4 ∨ k = 5 ∨ k = 6 ∨ k = 7 := by omega
    all_goals decide +kernel

end Rota.Game
