import Rota.Proofs.World.Mutexes

namespace Rota.World

open Region (Mapping bareName?)

/-- What is known of a mutex from the answers: whether it is ready, and who holds the lock. -/
structure Guards where
  ready : Bool := false
  held : List Nat := []
  deriving DecidableEq

namespace MutexCall

/-- What is known once a call by `who` has been answered. -/
def counted (who : Nat) (k : Guards) : MutexCall → Except Fault MutexAnswer → Guards
  | .init, .ok _ => { k with ready := true }
  | .destroy, .ok _ => { k with ready := false }
  | .lock, .ok _ | .tryLock, .ok (.lock true) => { k with held := who :: k.held }
  | .unlock, .ok _ | .die, .ok _ => { k with held := k.held.erase who }
  | _, _ => k

end MutexCall

/-- The guards that there are, are those of the lock, and there are none unless it is ready. Between
calls the lock needs no repair. -/
structure Guards.Of (k : Guards) (x : Sync.Mutex) : Prop where
  mark : x.ready = k.ready
  held : k.held = x.hold.holders
  ready : k.held ≠ [] → k.ready = true
  whole : x.hold.Whole

namespace Guards.Of

variable {k : Guards} {x : Sync.Mutex} (h : Guards.Of k x)
include h

theorem length_held_le : k.held.length ≤ 1 := by
  rw [h.held]
  cases x.hold with
  | held _ | unrepaired _ => exact Nat.le_refl 1
  | free | orphaned | lost => exact Nat.zero_le 1

theorem held_of_unready (hs : k.ready = false) : k.held = [] := by
  by_contra hsome
  exact Bool.false_ne_true (hs.symm.trans (h.ready hsome))

theorem mem_held_iff {who : Nat} : who ∈ k.held ↔ x.hold = .held who := by
  rw [h.held]
  exact h.whole.mem_holders_iff

theorem not_mem_holders {who : Nat} (hwho : x.hold ≠ .held who) : who ∉ x.hold.holders :=
  mt h.whole.mem_holders_iff.mp hwho

theorem open_of_held (hnobody : k.held = []) : x.hold.Open :=
  h.whole.open_of_holders (h.held.symm.trans hnobody)

/-- Whoever lets go of the lock, or dies, has no guard any more. -/
theorem erase {who : Nat} {hold : Sync.Hold} (hwho : x.hold = .held who)
    (hhold : hold.Open) :
    Guards.Of { k with held := k.held.erase who } { x with hold } := by
  have hnone : k.held.erase who = [] := by
    rw [h.held, hwho, Sync.Hold.holders, List.erase_cons_head]
  exact ⟨h.mark, hnone.trans hhold.holders.symm, fun hsome => absurd hnone hsome, hhold.whole⟩

theorem erase_of_ne {who : Nat} (hwho : x.hold ≠ .held who) :
    Guards.Of { k with held := k.held.erase who } x := by
  rw [List.erase_of_not_mem (mt h.mem_held_iff.mp hwho)]
  exact h

theorem unlock (who : Nat) : Guards.Of { k with held := k.held.erase who } (x.unlock who).2 := by
  by_cases hhold : x.hold = .held who
  · rw [Sync.Mutex.unlock_of_held who hhold]
    exact h.erase hhold (.inl rfl)
  · rw [Sync.Mutex.unlock_of_not_mem who (h.not_mem_holders hhold)]
    exact h.erase_of_ne hhold

theorem orphan (who : Nat) : Guards.Of { k with held := k.held.erase who } (x.orphan who) := by
  by_cases hhold : x.hold = .held who
  · rw [Sync.Mutex.orphan_of_held who hhold]
    exact h.erase hhold (.inr rfl)
  · rw [Sync.Mutex.orphan_of_not_mem who (h.not_mem_holders hhold)]
    exact h.erase_of_ne hhold

theorem lock (hs : x.ready = true) (hnobody : k.held = []) (who : Nat) :
    Guards.Of { k with held := who :: k.held } { x with hold := .held who } := by
  refine ⟨h.mark, ?_, fun _ => h.mark.symm.trans hs, Sync.Hold.whole_held who⟩
  change who :: k.held = [who]
  rw [hnobody]

/-- What is known keeps step with the mutex. -/
theorem step {waiting : Bool} (hfree : waiting = false → k.held = []) {who : Nat} {c : MutexCall}
    {r : Except Fault MutexAnswer} {x' : Sync.Mutex}
    (ho : MutexCall.Outcome waiting who x c r x') : Guards.Of (c.counted who k r) x' := by
  cases ho with
  | waits _ _ | unready _ _ _ | unrecoverable _ _ _ _ => cases c <;> exact h
  | started hw => exact ⟨rfl, hfree hw, fun _ => rfl, Sync.Hold.Open.whole (.inl rfl)⟩
  | locked hw hs _ => exact h.lock hs (hfree hw) who
  | stuck _ _ _ => exact h
  | took hs ho => exact h.lock hs (h.held.trans ho.holders) who
  | busy _ _ => exact h
  | unlocked => exact h.unlock who
  | died => exact h.orphan who
  | destroyed hw _ => exact ⟨rfl, h.held, fun hsome => absurd (hfree hw) hsome, h.whole⟩
  | abandoned hw hs _ =>
    rw [Sync.Mutex.lock, Sync.Mutex.take_of_open _ who hs (h.open_of_held (hfree hw)),
      Sync.Mutex.orphan_of_held who rfl]
    exact ⟨h.mark, hfree hw, h.ready, Sync.Hold.Open.whole (.inr rfl)⟩
  | failed hw =>
    -- a lock that is not ready is not taken, so that there is nothing to let go of
    cases hs : x.ready with
    | false =>
      have hnobody : who ∉ x.hold.holders := by
        rw [← h.held, hfree hw]
        exact List.not_mem_nil
      rw [Sync.Mutex.lock, Sync.Mutex.take_of_unready _ who hs,
        Sync.Mutex.unlock_of_not_mem who hnobody]
      exact h
    | true =>
      rw [Sync.Mutex.lock, Sync.Mutex.take_of_open _ who hs (h.open_of_held (hfree hw)),
        Sync.Mutex.unlock_of_held who rfl]
      exact ⟨h.mark, hfree hw, h.ready, Sync.Hold.Open.whole (.inl rfl)⟩

end Guards.Of

/-- All mappings of the memory `cell` are by the name `bare`, by which those who hold its lock are
looked for. -/
def GoesBy (w : World) (cell : Nat) (bare : String) : Prop :=
  ∀ label serial n l, (label, serial, .laidOut n l) ∈ w.objects.entries → n.cell = cell →
    bareName? n.name = some bare

/-- All mappings by the name `bare` are of the memory `cell`. -/
def Alone (w : World) (cell : Nat) (bare : String) : Prop :=
  ∀ label serial n l, (label, serial, .laidOut n l) ∈ w.objects.entries →
    bareName? n.name = some bare → n.cell = cell

theorem mem_entries_of_gateAt? {w : World} {label : String} {serial : Nat} {m : Mapping}
    (h : w.gateAt? label = some (serial, m)) :
    (label, serial, .laidOut m gateLayout) ∈ w.objects.entries := by
  obtain ⟨⟨serial', o⟩, ho, hview⟩ := Option.bind_eq_some_iff.mp h
  obtain ⟨m', hm, heq⟩ := Option.map_eq_some_iff.mp hview
  cases heq
  cases o with
  | laidOut n l =>
    have hlaid : (if l = gateLayout then some n else none) = some m := hm
    split_ifs at hlaid with hl
    cases hlaid
    exact hl ▸ Register.mem_entries ho
  | region _ | queue _ | producer _ | logger _ | station _ => cases hm

/-- What is known of the mutex in `cell` is so, and those who hold its lock are waited for. -/
structure Guarded (w : World) (cell : Nat) (bare : String) (k : Guards) : Prop where
  named : w.GoesBy cell bare
  guards : Guards.Of k (w.gate cell).mutex
  holders : ∀ who ∈ k.held, ∃ label n l, (label, who, .laidOut n l) ∈ w.objects.entries ∧
    n.cell = cell

namespace Guarded

variable {w : World} {cell : Nat} {bare : String} {k : Guards} (h : w.Guarded cell bare k)
  {label : String} {serial : Nat} {m : Mapping} (hm : w.gateAt? label = some (serial, m))
  (hcell : m.cell = cell)
include h hm hcell

theorem lockHeld_of_held (hsome : k.held ≠ []) : w.lockHeld m = true := by
  obtain ⟨who, hwho⟩ := List.exists_mem_of_ne_nil _ hsome
  obtain ⟨other, n, l, hin, hn⟩ := h.holders who hwho
  refine lockHeld_iff.mpr ⟨other, who, n, l, hin, ?_, ?_⟩
  · rw [h.named _ _ _ _ hin hn, h.named _ _ _ _ (mem_entries_of_gateAt? hm) hcell]
  · rw [hn]
    exact h.guards.mem_held_iff.mp hwho

theorem lockHeld_of_alone (halone : w.Alone cell bare) (hnone : k.held = []) :
    w.lockHeld m = false := by
  refine eq_false_of_ne_true fun hl => ?_
  obtain ⟨other, who, n, l, hin, hname, hhold⟩ := lockHeld_iff.mp hl
  rw [h.named _ _ _ _ (mem_entries_of_gateAt? hm) hcell] at hname
  rw [halone _ _ _ _ hin hname, ← h.guards.mem_held_iff, hnone] at hhold
  cases hhold

theorem held_of_free (hl : w.lockHeld m = false) : k.held = [] := by
  by_contra hsome
  exact Bool.false_ne_true (hl.symm.trans (h.lockHeld_of_held hm hcell hsome))

end Guarded

namespace MutexCall

/-- The world after a call through a label, and what is known of the mutex in `cell`. -/
def used (cell : Nat) (s : World × Guards) (call : String × MutexCall) : World × Guards :=
  (call.2.after s.1 call.1,
    match s.1.gateAt? call.1 with
    | some (serial, m) =>
      if m.cell = cell then call.2.counted serial s.2 (call.2.answer s.1 call.1) else s.2
    | none => s.2)

/-- The world after all calls of a list, and what is known of the mutex in `cell`, which is new. -/
def usedAll (cell : Nat) (w : World) (calls : List (String × MutexCall)) : World × Guards :=
  calls.foldl (used cell) (w, {})

/-- With the call the one who holds the lock dies or lets go of it, or somebody takes it who then
dies or fails. -/
def Ends (w : World) (label : String) (who : Nat) (k : Guards) (c : MutexCall) : Prop :=
  who ∈ k.held ∧ (c = .die ∨ c = .unlock) ∨
    k.ready = true ∧ (c = .abandon ∨ c = .failHolding) ∧ c.answer w label = .ok .done

theorem mem_held_counted {who other : Nat} {k : Guards} {c : MutexCall}
    {r : Except Fault MutexAnswer} (hin : other ∈ (c.counted who k r).held) :
    other = who ∨ other ∈ k.held := by
  unfold counted at hin
  split at hin
  · exact .inr hin
  · exact .inr hin
  · exact List.mem_cons.mp hin
  · exact List.mem_cons.mp hin
  · exact .inr (List.mem_of_mem_erase hin)
  · exact .inr (List.mem_of_mem_erase hin)
  · exact .inr hin

end MutexCall

theorem Guarded.used {cell : Nat} {bare : String} {s : World × Guards}
    (h : s.1.Guarded cell bare s.2) (call : String × MutexCall) :
    (MutexCall.used cell s call).1.Guarded cell bare (MutexCall.used cell s call).2 := by
  obtain ⟨gates, hothers⟩ := MutexCall.others_after s.1 call.1 call.2
  have hobjects : (call.2.after s.1 call.1).objects = s.1.objects := by rw [hothers]
  have hnamed : (call.2.after s.1 call.1).GoesBy cell bare := by
    rw [GoesBy, hobjects]
    exact h.named
  rw [MutexCall.used]
  cases hm : s.1.gateAt? call.1 with
  | none =>
    rw [MutexCall.after, MutexCall.run_act_of_missing hm]
    exact h
  | some e =>
    obtain ⟨serial, m⟩ := e
    dsimp only
    split_ifs with hcell
    · refine ⟨hnamed, ?_, fun who hwho => ?_⟩
      · exact h.guards.step (h.held_of_free hm hcell) (MutexCall.outcome hm hcell call.2)
      · rw [hobjects]
        rcases MutexCall.mem_held_counted hwho with rfl | hwho
        · exact ⟨_, _, _, mem_entries_of_gateAt? hm, hcell⟩
        · exact h.holders who hwho
    · have hother : s.1.gateCell? call.1 ≠ some cell := by
        rw [gateCell?, hm]
        exact fun hsome => hcell (Option.some.inj hsome)
      refine ⟨hnamed, ?_, ?_⟩
      · rw [MutexCall.gate_of_ne hother]
        exact h.guards
      · rw [hobjects]
        exact h.holders

theorem Guarded.usedAll {w : World} {cell : Nat} {bare : String} (h : w.Guarded cell bare {})
    (calls : List (String × MutexCall)) :
    (MutexCall.usedAll cell w calls).1.Guarded cell bare (MutexCall.usedAll cell w calls).2 := by
  refine List.foldlRecOn calls (MutexCall.used cell) (b := (w, {}))
    (motive := fun s => s.1.Guarded cell bare s.2) h ?_
  intro s hs call _
  exact hs.used call

/-- A mutex as those see it who lock it through whichever mapping. -/
structure Exclusive (w : World) (cell : Nat) (bare : String) (k : Guards) : Prop where
  atMostOne : k.held.length ≤ 1
  ready : k.held ≠ [] → k.ready = true
  tried : ∀ label, w.gateCell? label = some cell → k.ready = true →
    MutexCall.tryLock.answer w label = .ok (.lock (decide (k.held = [])))
  locked : ∀ label, w.gateCell? label = some cell → k.ready = true → k.held = [] →
    w.Alone cell bare → MutexCall.lock.answer w label = .ok .done
  waiting : ∀ label (c : MutexCall), w.gateCell? label = some cell → c.waits → k.held ≠ [] →
    c.answer w label = .error .blocks
  unlocked : ∀ label serial m, w.gateAt? label = some (serial, m) → m.cell = cell →
    MutexCall.unlock.answer w label = .ok (.lock (decide (serial ∈ k.held)))
  /-- When the holder dies or fails, everybody can have the lock. -/
  recovered : ∀ label serial m (c : MutexCall), w.gateAt? label = some (serial, m) →
    m.cell = cell → c.Ends w label serial k → ∀ other, w.gateCell? other = some cell →
      MutexCall.tryLock.answer (c.after w label) other = .ok (.lock true) ∧
        (w.Alone cell bare → MutexCall.lock.answer (c.after w label) other = .ok .done)
  unready : k.ready = false → ∀ label (c : MutexCall), w.gateCell? label = some cell →
    c.needsReady → (c.waits → w.Alone cell bare) →
    c.answer w label = .error (.sync (.uninitialised .mutex))
  still : k.ready = false → ∀ label (c : MutexCall), w.gateCell? label = some cell → c ≠ .init →
    (c.after w label).gate = w.gate
  failed : ∀ label (c : MutexCall) f, c.answer w label = .error f →
    (c.after w label).gate = w.gate

namespace Guarded

variable {w : World} {cell : Nat} {bare : String} {k : Guards} (h : w.Guarded cell bare k)
  {label : String}
include h

theorem tried (hl : w.gateCell? label = some cell) (hs : k.ready = true) :
    MutexCall.tryLock.answer w label = .ok (.lock (decide (k.held = []))) := by
  obtain ⟨serial, m, hm, hcell⟩ := exists_gateAt hl
  rw [h.guards.held]
  exact (MutexCall.outcome hm hcell _).answer_tryLock (h.guards.mark.trans hs) h.guards.whole

theorem locked (hl : w.gateCell? label = some cell) (hs : k.ready = true) (hnone : k.held = [])
    (halone : w.Alone cell bare) : MutexCall.lock.answer w label = .ok .done := by
  obtain ⟨serial, m, hm, hcell⟩ := exists_gateAt hl
  have hfree := h.lockHeld_of_alone hm hcell halone hnone
  exact (MutexCall.outcome hm hcell _).answer_lock hfree (h.guards.mark.trans hs)
    (h.guards.open_of_held hnone)

theorem waiting (hl : w.gateCell? label = some cell) {c : MutexCall} (hc : c.waits)
    (hsome : k.held ≠ []) : c.answer w label = .error .blocks := by
  obtain ⟨serial, m, hm, hcell⟩ := exists_gateAt hl
  exact (MutexCall.outcome hm hcell c).answer_of_waiting hc (h.lockHeld_of_held hm hcell hsome)

theorem unlocked {serial : Nat} {m : Mapping} (hm : w.gateAt? label = some (serial, m))
    (hcell : m.cell = cell) :
    MutexCall.unlock.answer w label = .ok (.lock (decide (serial ∈ k.held))) := by
  have hhold : serial ∈ k.held ↔ (w.gate cell).mutex.hold = .held serial := h.guards.mem_held_iff
  rw [decide_eq_decide.mpr hhold]
  exact (MutexCall.outcome hm hcell _).answer_unlock h.guards.whole

/-- Once the holder has died or failed, nobody holds the lock. -/
theorem counted_of_end {serial : Nat} {m : Mapping} {c : MutexCall}
    (hm : w.gateAt? label = some (serial, m)) (hcell : m.cell = cell)
    (hend : serial ∈ k.held ∧ (c = .die ∨ c = .unlock) ∨
      k.ready = true ∧ (c = .abandon ∨ c = .failHolding) ∧ c.answer w label = .ok .done) :
    c.counted serial k (c.answer w label) = { ready := true } := by
  rcases hend with ⟨hin, hc⟩ | ⟨hs, hc, hdone⟩
  · have hsome : k.held ≠ [] := List.ne_nil_of_mem hin
    have hnone : k.held.erase serial = [] := by
      rw [h.guards.held, h.guards.mem_held_iff.mp hin, Sync.Hold.holders, List.erase_cons_head]
    have hk : ({ k with held := k.held.erase serial } : Guards) = { ready := true } := by
      rw [hnone, h.guards.ready hsome]
    rcases hc with rfl | rfl
    · rw [(MutexCall.outcome hm hcell .die).answer_die]
      exact hk
    · rw [h.unlocked hm hcell]
      exact hk
  · have hl : w.gateCell? label = some cell := by rw [gateCell?, hm, Option.map_some, hcell]
    have hnone : k.held = [] := by
      by_contra hsome
      have hwaits : c.waits := by rcases hc with rfl | rfl <;> rfl
      have hblocks := h.waiting hl hwaits hsome
      rw [hdone] at hblocks
      cases hblocks
    have hk : k = { ready := true } := by rw [← hs, ← hnone]
    rcases hc with rfl | rfl
    · exact hk
    · exact hk

theorem recovered {serial : Nat} {m : Mapping} {c : MutexCall}
    (hm : w.gateAt? label = some (serial, m)) (hcell : m.cell = cell)
    (hend : c.Ends w label serial k)
    {other : String} (hl : w.gateCell? other = some cell) :
    MutexCall.tryLock.answer (c.after w label) other = .ok (.lock true) ∧
      (w.Alone cell bare → MutexCall.lock.answer (c.after w label) other = .ok .done) := by
  -- the laws of the world after the call, in which nobody is known to hold the lock
  have hnext := Guarded.used (s := (w, k)) h (label, c)
  have hknown : (MutexCall.used cell (w, k) (label, c)).2 = { ready := true } := by
    rw [MutexCall.used]
    dsimp only
    rw [hm]
    dsimp only
    rw [if_pos hcell, h.counted_of_end hm hcell hend]
  rw [hknown] at hnext
  obtain ⟨gates, hothers⟩ := MutexCall.others_after w label c
  have hlater : (c.after w label).gateCell? other = some cell := by
    rw [hothers]
    exact hl
  refine ⟨hnext.tried hlater rfl, fun halone => hnext.locked hlater rfl rfl ?_⟩
  change (c.after w label).Alone cell bare
  rw [hothers]
  exact halone

theorem unready (hs : k.ready = false) (hl : w.gateCell? label = some cell) {c : MutexCall}
    (hc : c.needsReady) (halone : c.waits → w.Alone cell bare) :
    c.answer w label = .error (.sync (.uninitialised .mutex)) := by
  obtain ⟨serial, m, hm, hcell⟩ := exists_gateAt hl
  have hfree (hwaits : c.waits) : w.lockHeld m = false :=
    h.lockHeld_of_alone hm hcell (halone hwaits) (h.guards.held_of_unready hs)
  exact (MutexCall.outcome hm hcell c).answer_of_unready hc hfree (h.guards.mark.trans hs)

theorem still (hs : k.ready = false) (hl : w.gateCell? label = some cell) {c : MutexCall}
    (hc : c ≠ .init) : (c.after w label).gate = w.gate := by
  obtain ⟨serial, m, hm, rfl⟩ := exists_gateAt hl
  refine MutexCall.gate_of_same hm fun x' ho => ?_
  have hnobody := h.guards.held.symm.trans (h.guards.held_of_unready hs)
  exact ho.eq_of_unready (h.guards.mark.trans hs) hnobody hc

theorem exclusive : w.Exclusive cell bare k where
  atMostOne := h.guards.length_held_le
  ready := h.guards.ready
  tried _ := h.tried
  locked _ := h.locked
  waiting _ _ hl := h.waiting hl
  unlocked _ _ _ := h.unlocked
  recovered _ _ _ _ hm hcell hend _ := h.recovered hm hcell hend
  unready hs _ _ hl := h.unready hs hl
  still hs _ _ hl := h.still hs hl
  failed _ _ _ := MutexCall.gate_of_error

end Guarded

theorem others_usedMutex (cell : Nat) (w : World) (calls : List (String × MutexCall)) :
    ∃ gates, (MutexCall.usedAll cell w calls).1 = { w with gates } := by
  refine List.foldlRecOn calls (MutexCall.used cell) (b := (w, {}))
    (motive := fun s => ∃ gates, s.1 = { w with gates }) ⟨w.gates, rfl⟩ ?_
  rintro s ⟨gates, hgates⟩ call -
  obtain ⟨gates', hafter⟩ := MutexCall.others_after s.1 call.1 call.2
  refine ⟨gates', hafter.trans ?_⟩
  rw [hgates]

/-- However a mutex is used, there is one guard at most, of which everybody else is told, a holder
who dies or fails does not keep others from the lock, and a mutex that is not ready stays as it is
and turns every call away. -/
theorem exclusive_usedAll {w : World} {cell : Nat} {bare : String}
    (hw : (w.gate cell).mutex = {}) (hnamed : w.GoesBy cell bare)
    (calls : List (String × MutexCall)) :
    (MutexCall.usedAll cell w calls).1.Exclusive cell bare (MutexCall.usedAll cell w calls).2 ∧
      ∃ gates, (MutexCall.usedAll cell w calls).1 = { w with gates } := by
  have hstart : w.Guarded cell bare {} := by
    refine ⟨hnamed, ?_, nofun⟩
    rw [hw]
    exact ⟨rfl, rfl, fun hsome => absurd rfl hsome, Sync.Hold.Open.whole (.inl rfl)⟩
  exact ⟨(hstart.usedAll calls).exclusive, others_usedMutex cell w calls⟩

theorem exclusive_usedAll_of_death :
    ∃ (w : World) (calls : List (String × MutexCall)),
      w = { objects := ⟨[("a", 1, .laidOut ⟨"/g", 0, 177⟩ gateLayout),
        ("b", 2, .laidOut ⟨"g", 0, 177⟩ gateLayout)]⟩ } ∧
      calls = [("b", .lock), ("a", .init), ("a", .lock), ("b", .tryLock), ("a", .die),
        ("b", .tryLock), ("b", .unlock), ("a", .abandon), ("b", .lock)] ∧
      (w.gate 0).mutex = {} ∧ w.GoesBy 0 "g" ∧ w.Alone 0 "g" ∧
      (MutexCall.usedAll 0 w calls).2 = ⟨true, [2]⟩ ∧
      MutexCall.tryLock.answer (MutexCall.usedAll 0 w calls).1 "a" = .ok (.lock false) ∧
      MutexCall.lock.answer (MutexCall.usedAll 0 w calls).1 "a" = .error .blocks ∧
      MutexCall.lock.answer (MutexCall.die.after (MutexCall.usedAll 0 w calls).1 "b") "a" =
        .ok .done := by
  obtain ⟨w, hw⟩ : ∃ w : World, w = { objects := ⟨[("a", 1, .laidOut ⟨"/g", 0, 177⟩ gateLayout),
      ("b", 2, .laidOut ⟨"g", 0, 177⟩ gateLayout)]⟩ } := ⟨_, rfl⟩
  obtain ⟨calls, hcalls⟩ : ∃ calls : List (String × MutexCall), calls =
      [("b", .lock), ("a", .init), ("a", .lock), ("b", .tryLock), ("a", .die),
        ("b", .tryLock), ("b", .unlock), ("a", .abandon), ("b", .lock)] := ⟨_, rfl⟩
  have hnew : (w.gate 0).mutex = {} := by
    rw [hw]
    decide +kernel
  have hslash : bareName? "/g" = some "g" := by decide +kernel
  have hplain : bareName? "g" = some "g" := by decide +kernel
  have hmapped : ∀ label serial n l, (label, serial, .laidOut n l) ∈ w.objects.entries →
      bareName? n.name = some "g" ∧ n.cell = 0 := by
    intro label serial n l hin
    rw [hw] at hin
    rcases List.mem_cons.mp hin with heq | hin
    · cases heq
      exact ⟨hslash, rfl⟩
    · cases List.mem_singleton.mp hin
      exact ⟨hplain, rfl⟩
  have hnamed : w.GoesBy 0 "g" := fun _ _ _ _ hin _ => (hmapped _ _ _ _ hin).1
  have halone : w.Alone 0 "g" := fun _ _ _ _ hin _ => (hmapped _ _ _ _ hin).2
  have hknown : (MutexCall.usedAll 0 w calls).2 = ⟨true, [2]⟩ := by
    rw [hw, hcalls]
    decide +kernel
  obtain ⟨hlaws, gates, hothers⟩ := exclusive_usedAll hnew hnamed calls
  rw [hknown] at hlaws
  have hcells : w.gateCell? "a" = some 0 ∧ w.gateAt? "b" = some (2, ⟨"g", 0, 177⟩) := by
    rw [hw]
    decide +kernel
  have ha : (MutexCall.usedAll 0 w calls).1.gateCell? "a" = some 0 := by
    rw [hothers]
    exact hcells.1
  have hb : (MutexCall.usedAll 0 w calls).1.gateAt? "b" = some (2, ⟨"g", 0, 177⟩) := by
    rw [hothers]
    exact hcells.2
  have hdies : MutexCall.die.Ends (MutexCall.usedAll 0 w calls).1 "b" 2 ⟨true, [2]⟩ :=
    .inl ⟨List.mem_singleton.mpr rfl, .inl rfl⟩
  have hlater : (MutexCall.usedAll 0 w calls).1.Alone 0 "g" := by
    rw [hothers]
    exact halone
  have hlocks := (hlaws.recovered "b" 2 _ .die hb rfl hdies "a" ha).2 hlater
  exact ⟨w, calls, hw, hcalls, hnew, hnamed, halone, hknown, hlaws.tried "a" ha rfl,
    hlaws.waiting "a" .lock ha rfl (List.cons_ne_nil _ _), hlocks⟩

end Rota.World
