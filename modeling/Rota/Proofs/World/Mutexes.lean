import Rota.Proofs.World.Gates

namespace Rota

namespace Sync

namespace Hold

/-- Those alive who have the lock. -/
def holders : Hold → List Nat
  | .held who | .unrepaired who => [who]
  | .free | .orphaned | .lost => []

/-- The next one to come gets the lock, which its last holder may have left by dying. -/
def Open (h : Hold) : Prop := h = .free ∨ h = .orphaned

/-- Nobody has taken the lock over from a dead holder without repairing it. -/
structure Whole (h : Hold) : Prop where
  repaired : ∀ who, h ≠ .unrepaired who
  recoverable : h ≠ .lost

variable {h : Hold} {who : Nat}

theorem mem_holders_iff : who ∈ h.holders ↔ h = .held who ∨ h = .unrepaired who := by
  cases h with
  | held other => simp [holders, eq_comm]
  | unrepaired other => simp [holders, eq_comm]
  | free | orphaned | lost => simp [holders]

theorem Whole.mem_holders_iff (hw : h.Whole) : who ∈ h.holders ↔ h = .held who := by
  rw [Hold.mem_holders_iff, or_iff_left (hw.repaired who)]

theorem Whole.open_of_holders (hw : h.Whole) (hnobody : h.holders = []) : h.Open := by
  cases h with
  | free => exact .inl rfl
  | orphaned => exact .inr rfl
  | held other | unrepaired other => cases hnobody
  | lost => exact absurd rfl hw.recoverable

theorem Open.holders (ho : h.Open) : h.holders = [] := by
  rcases ho with rfl | rfl <;> rfl

theorem Open.whole (ho : h.Open) : h.Whole := by
  rcases ho with rfl | rfl <;> exact ⟨nofun, nofun⟩

theorem whole_held (who : Nat) : (held who).Whole := ⟨nofun, nofun⟩

theorem release_of_not_mem (hwho : who ∉ h.holders) : h.release who = (false, h) := by
  rw [mem_holders_iff, not_or] at hwho
  rw [release, if_neg hwho.1, if_neg hwho.2]

theorem afterDeath_of_not_mem (hwho : who ∉ h.holders) : h.afterDeath who = h := by
  rw [mem_holders_iff] at hwho
  rw [afterDeath, if_neg hwho]

end Hold

namespace Mutex

variable {m : Mutex} (call : String) (who : Nat)

theorem take_of_unready (hm : m.ready = false) :
    take call who m = (.error (.uninitialised .mutex), m) := by
  rw [take, guarded, if_neg (ne_true_of_eq_false hm)]

theorem take_of_holders (hm : m.ready = true) (hsome : m.hold.holders ≠ []) :
    take call who m = (.ok false, m) := by
  rw [take, guarded, if_pos hm]
  cases hhold : m.hold with
  | held other | unrepaired other => rfl
  | free | orphaned | lost =>
    rw [hhold] at hsome
    exact absurd rfl hsome

theorem take_of_lost (hm : m.ready = true) (hlost : m.hold = .lost) :
    take call who m = (.error (.os call .notRecoverable), m) := by
  obtain ⟨ready, hold⟩ := m
  cases hlost
  rw [take, guarded, if_pos hm]
  rfl

/-- A lock that its holder left by dying is taken over and repaired in one go: it is had like one
that was free. -/
theorem take_of_open (hm : m.ready = true) (ho : m.hold.Open) :
    take call who m = (.ok true, { m with hold := .held who }) := by
  rw [take, guarded, if_pos hm]
  rcases ho with hhold | hhold
  · rw [hhold]
    rfl
  · rw [hhold]
    rfl

/-- Without the repair, a lock that was taken over could be had once only. -/
example : ((Hold.orphaned.take 1).2.release 1).2.take 2 = (some .notRecoverable, .lost) := rfl

theorem take_cases (hm : m.ready = true) :
    m.hold.holders ≠ [] ∧ take call who m = (.ok false, m) ∨
      m.hold = .lost ∧ take call who m = (.error (.os call .notRecoverable), m) ∨
      m.hold.Open ∧ take call who m = (.ok true, { m with hold := .held who }) := by
  by_cases hsome : m.hold.holders = []
  · by_cases hlost : m.hold = .lost
    · exact .inr (.inl ⟨hlost, take_of_lost call who hm hlost⟩)
    · have hrepaired : ∀ other, m.hold ≠ .unrepaired other := by
        intro other hhold
        rw [hhold] at hsome
        cases hsome
      have ho := Hold.Whole.open_of_holders ⟨hrepaired, hlost⟩ hsome
      exact .inr (.inr ⟨ho, take_of_open call who hm ho⟩)
  · exact .inl ⟨hsome, take_of_holders call who hm hsome⟩

theorem exists_take_eq_ok (hm : m.ready = true) (hlost : m.hold ≠ .lost) :
    ∃ got, (take call who m).1 = .ok got := by
  rcases take_cases call who hm with ⟨-, htake⟩ | ⟨hhold, -⟩ | ⟨-, htake⟩
  · exact ⟨false, by rw [htake]⟩
  · exact absurd hhold hlost
  · exact ⟨true, by rw [htake]⟩

theorem unlock_of_held (hm : m.hold = .held who) :
    m.unlock who = (true, { m with hold := .free }) := by
  rw [unlock, Hold.release, if_pos hm]

theorem orphan_of_held (hm : m.hold = .held who) :
    m.orphan who = { m with hold := .orphaned } := by
  rw [orphan, Hold.afterDeath, if_pos (.inl hm)]

theorem unlock_of_not_mem (hm : who ∉ m.hold.holders) : m.unlock who = (false, m) := by
  rw [unlock, Hold.release_of_not_mem hm]

theorem orphan_of_not_mem (hm : who ∉ m.hold.holders) : m.orphan who = m := by
  rw [orphan, Hold.afterDeath_of_not_mem hm]

end Mutex
end Sync

namespace World

open Region (Mapping bareName?)

/-- A call on a mutex, or what becomes of those who use it. -/
inductive MutexCall
  | init
  | lock
  | tryLock
  | unlock
  /-- Whoever locked through the mapping dies. -/
  | die
  | destroy
  | abandon
  | failHolding
  deriving DecidableEq

inductive MutexAnswer
  | done
  /-- Whether the lock was taken, or let go of. -/
  | lock (done : Bool)
  deriving DecidableEq

namespace MutexCall

/-- The call through the mapping under a label. -/
def act (label : String) : MutexCall → Act MutexAnswer
  | .init => do
    Mutex.init label
    return .done
  | .lock => do
    Mutex.lock label
    return .done
  | .tryLock => return .lock (← Mutex.tryLock label)
  | .unlock => return .lock (← Mutex.unlock label)
  | .die => do
    let (serial, m) ← gateAt label
    onMutex m.cell fun mutex => (.ok (), mutex.orphan serial)
    return .done
  | .destroy => do
    Mutex.destroy label
    return .done
  | .abandon => do
    Mutex.abandon label
    return .done
  | .failHolding => do
    Mutex.failHolding label
    return .done

def answer (w : World) (label : String) (c : MutexCall) : Except Fault MutexAnswer :=
  ((c.act label).run.run w).1

def after (w : World) (label : String) (c : MutexCall) : World := ((c.act label).run.run w).2

/-- Whether the call waits until nobody holds the lock. -/
def waits : MutexCall → Bool
  | .init | .lock | .destroy | .abandon | .failHolding => true
  | .tryLock | .unlock | .die => false

/-- Whether the call has the system take the lock, and tells what becomes of that. -/
def locks : MutexCall → Bool
  | .lock | .tryLock | .abandon => true
  | .init | .unlock | .die | .destroy | .failHolding => false

/-- Whether the call fails on a mutex that is not ready. -/
def needsReady : MutexCall → Bool
  | .lock | .tryLock | .destroy | .abandon => true
  | .init | .unlock | .die | .failHolding => false

/-- All that can come of a call by `who` on a mutex, which waits if there is somebody to wait for:
its answer, and the mutex afterwards. -/
inductive Outcome (waiting : Bool) (who : Nat) (x : Sync.Mutex) :
    MutexCall → Except Fault MutexAnswer → Sync.Mutex → Prop
  | waits {c : MutexCall} : c.waits → waiting = true → Outcome waiting who x c (.error .blocks) x
  | unready {c : MutexCall} : c.needsReady → (c.waits → waiting = false) → x.ready = false →
      Outcome waiting who x c (.error (.sync (.uninitialised .mutex))) x
  | started : waiting = false → Outcome waiting who x .init (.ok .done) ⟨true, .free⟩
  /-- Somebody has let go of the lock without repairing it. -/
  | unrecoverable {c : MutexCall} {call : String} : c.locks → (c.waits → waiting = false) →
      x.ready = true → x.hold = .lost →
      Outcome waiting who x c (.error (.sync (.os call .notRecoverable))) x
  | locked : waiting = false → x.ready = true → x.hold.Open →
      Outcome waiting who x .lock (.ok .done) { x with hold := .held who }
  /-- Somebody has the lock who is not waited for. -/
  | stuck : waiting = false → x.ready = true → x.hold.holders ≠ [] →
      Outcome waiting who x .lock (.error .blocks) x
  | took : x.ready = true → x.hold.Open →
      Outcome waiting who x .tryLock (.ok (.lock true)) { x with hold := .held who }
  | busy : x.ready = true → x.hold.holders ≠ [] →
      Outcome waiting who x .tryLock (.ok (.lock false)) x
  | unlocked : Outcome waiting who x .unlock (.ok (.lock (x.unlock who).1)) (x.unlock who).2
  | died : Outcome waiting who x .die (.ok .done) (x.orphan who)
  | destroyed : waiting = false → x.ready = true →
      Outcome waiting who x .destroy (.ok .done) { x with ready := false }
  | abandoned : waiting = false → x.ready = true → x.hold ≠ .lost →
      Outcome waiting who x .abandon (.ok .done) ((x.lock who).2.orphan who)
  | failed : waiting = false →
      Outcome waiting who x .failHolding (.ok .done) ((x.lock who).2.unlock who).2

section run

variable {w : World} {label : String} {serial : Nat} {m : Mapping}

/-- The call does to the mutex of the gate what can come of it, and nothing to anything else. -/
def Does (w : World) (label : String) (serial : Nat) (m : Mapping) (c : MutexCall) : Prop :=
  ∃ x, Outcome (w.lockHeld m) serial (w.gate m.cell).mutex c (c.answer w label) x ∧
    (c.after w label).gate = (w.withGate m.cell { w.gate m.cell with mutex := x }).gate ∧
    ∃ gates, c.after w label = { w with gates }

theorem Does.of_run {c : MutexCall} {r : Except Fault MutexAnswer} {x : Sync.Mutex}
    (hrun : (c.act label).run.run w = (r, w.withGate m.cell { w.gate m.cell with mutex := x }))
    (ho : Outcome (w.lockHeld m) serial (w.gate m.cell).mutex c r x) : Does w label serial m c := by
  rw [Does, answer, after, hrun]
  exact ⟨x, ho, rfl, _, rfl⟩

theorem Does.of_same {c : MutexCall} {r : Except Fault MutexAnswer}
    (hrun : (c.act label).run.run w = (r, w))
    (ho : Outcome (w.lockHeld m) serial (w.gate m.cell).mutex c r (w.gate m.cell).mutex) :
    Does w label serial m c := by
  rw [Does, answer, after, hrun]
  exact ⟨_, ho, (w.gate_withGate_same m.cell).symm, w.gates, rfl⟩

theorem run_act_of_waits {f : Fault} (hwait : (freeGate label).run.run w = (.error f, w))
    {c : MutexCall} (hc : c.waits) : (c.act label).run.run w = (.error f, w) := by
  cases c with
  | init | lock | destroy | abandon | failHolding =>
    exact run_bind_of_error (run_bind_of_error hwait)
  | tryLock | unlock | die => cases hc

theorem run_act_of_missing (h : w.gateAt? label = none) (c : MutexCall) :
    (c.act label).run.run w = (.error (.missing label), w) := by
  have hgate := run_gateAt_of_none h
  cases c with
  | init | lock | destroy | abandon | failHolding =>
    exact run_act_of_waits (run_bind_of_error hgate) rfl
  | tryLock | unlock => exact run_bind_of_error (run_bind_of_error hgate)
  | die => exact run_bind_of_error hgate

theorem run_ignore {α : Type} (x : Act α) (w : World) :
    (liftM (ignore x) : Act Unit).run.run w = (.ok (), (x.run.run w).2) := rfl

/-- What a call does that finds nobody to wait for. -/
theorem does_of_free (h : w.gateAt? label = some (serial, m)) (hl : w.lockHeld m = false)
    {c : MutexCall} (hc : c.waits) : Does w label serial m c := by
  have hwait := run_freeGate h
  rw [if_neg (ne_true_of_eq_false hl)] at hwait
  have htry := run_onMutex w m.cell (Sync.Mutex.take "pthread_mutex_lock" serial)
  cases c with
  | tryLock | unlock | die => cases hc
  | init =>
    refine .of_run ?_ (.started hl)
    rw [act, run_bind_pure, World.Mutex.init, run_bind_of_ok hwait]
    dsimp only
    rw [run_onMutex]
    rfl
  | lock =>
    rw [Does, answer, after, act, run_bind_pure, World.Mutex.lock, run_bind_of_ok hwait]
    dsimp only
    rw [Sync.Mutex.lock]
    cases hs : (w.gate m.cell).mutex.ready with
    | false =>
      rw [Sync.Mutex.take_of_unready _ serial hs] at htry
      rw [run_bind_of_error htry]
      exact ⟨_, .unready rfl (fun _ => hl) hs, rfl, _, rfl⟩
    | true =>
      rcases Sync.Mutex.take_cases "pthread_mutex_lock" serial hs with
        ⟨hsome, htake⟩ | ⟨hlost, htake⟩ | ⟨ho, htake⟩
      · rw [htake] at htry
        rw [run_bind_of_ok htry]
        exact ⟨_, .stuck hl hs hsome, rfl, _, rfl⟩
      · rw [htake] at htry
        rw [run_bind_of_error htry]
        exact ⟨_, .unrecoverable rfl (fun _ => hl) hs hlost, rfl, _, rfl⟩
      · rw [htake] at htry
        rw [run_bind_of_ok htry]
        exact ⟨_, .locked hl hs ho, rfl, _, rfl⟩
  | destroy =>
    rw [Does, answer, after, act, run_bind_pure, World.Mutex.destroy, run_bind_of_ok hwait]
    dsimp only
    rw [run_onMutex, Sync.Mutex.destroy, Sync.Mutex.guarded]
    split_ifs with hs
    · exact ⟨_, .destroyed hl hs, rfl, _, rfl⟩
    · exact ⟨_, .unready rfl (fun _ => hl) (eq_false_of_ne_true hs), rfl, _, rfl⟩
  | abandon =>
    -- two steps on one gate: the second finds what the first has left there
    rw [Does, answer, after, act, run_bind_pure, World.Mutex.abandon, run_bind_of_ok hwait]
    dsimp only
    rw [Sync.Mutex.lock]
    cases hs : (w.gate m.cell).mutex.ready with
    | false =>
      rw [Sync.Mutex.take_of_unready _ serial hs] at htry
      rw [run_bind_of_error htry]
      exact ⟨_, .unready rfl (fun _ => hl) hs, rfl, _, rfl⟩
    | true =>
      by_cases hlost : (w.gate m.cell).mutex.hold = .lost
      · rw [Sync.Mutex.take_of_lost _ serial hs hlost] at htry
        rw [run_bind_of_error htry]
        exact ⟨_, .unrecoverable rfl (fun _ => hl) hs hlost, rfl, _, rfl⟩
      · obtain ⟨got, hgot⟩ := Sync.Mutex.exists_take_eq_ok "pthread_mutex_lock" serial hs hlost
        rw [hgot] at htry
        rw [run_bind_of_ok htry, run_onMutex_withGate]
        exact ⟨_, .abandoned hl hs hlost, rfl, _, rfl⟩
  | failHolding =>
    rw [Does, answer, after, act, run_bind_pure, World.Mutex.failHolding, run_bind_of_ok hwait]
    dsimp only
    rw [run_bind_of_ok (run_ignore _ w), Sync.Mutex.lock, htry]
    dsimp only
    rw [run_onMutex_withGate]
    exact ⟨_, .failed hl, rfl, _, rfl⟩

theorem does (h : w.gateAt? label = some (serial, m)) (c : MutexCall) :
    Does w label serial m c := by
  have hgate := run_gateAt h
  cases hc : c.waits with
  | true =>
    cases hl : w.lockHeld m with
    | true =>
      have hwait := run_freeGate h
      rw [if_pos hl] at hwait
      exact .of_same (run_act_of_waits hwait hc) (.waits hc hl)
    | false => exact does_of_free h hl hc
  | false =>
    cases c with
    | init | lock | destroy | abandon | failHolding => cases hc
    | tryLock =>
      rw [Does, answer, after, act, run_bind_pure, World.Mutex.tryLock, run_bind_of_ok hgate]
      dsimp only
      rw [run_onMutex, Sync.Mutex.tryLock]
      cases hs : (w.gate m.cell).mutex.ready with
      | false =>
        rw [Sync.Mutex.take_of_unready _ serial hs]
        exact ⟨_, .unready rfl nofun hs, rfl, _, rfl⟩
      | true =>
        rcases Sync.Mutex.take_cases "pthread_mutex_trylock" serial hs with
          ⟨hsome, htake⟩ | ⟨hlost, htake⟩ | ⟨ho, htake⟩
        · rw [htake]
          exact ⟨_, .busy hs hsome, rfl, _, rfl⟩
        · rw [htake]
          exact ⟨_, .unrecoverable rfl nofun hs hlost, rfl, _, rfl⟩
        · rw [htake]
          exact ⟨_, .took hs ho, rfl, _, rfl⟩
    | unlock =>
      refine .of_run ?_ .unlocked
      rw [act, run_bind_pure, World.Mutex.unlock, run_bind_of_ok hgate]
      rfl
    | die =>
      refine .of_run ?_ .died
      rw [act, run_bind_of_ok hgate]
      exact run_bind_of_ok (run_onMutex w m.cell fun mutex => (.ok (), mutex.orphan serial))

/-- A call reaches nothing but gates. -/
theorem others_after (w : World) (label : String) (c : MutexCall) :
    ∃ gates, c.after w label = { w with gates } := by
  cases hm : w.gateAt? label with
  | none => exact ⟨w.gates, by rw [after, run_act_of_missing hm]⟩
  | some e =>
    obtain ⟨x, -, -, hothers⟩ := does hm c
    exact hothers

theorem gate_of_ne {cell : Nat} (h : w.gateCell? label ≠ some cell) (c : MutexCall) :
    (c.after w label).gate cell = w.gate cell := by
  cases hm : w.gateAt? label with
  | none => rw [after, run_act_of_missing hm]
  | some e =>
    obtain ⟨x, -, hgate, -⟩ := does hm c
    rw [hgate, gate_withGate_of_ne]
    rintro rfl
    exact h (congrArg _ hm)

theorem outcome (h : w.gateAt? label = some (serial, m)) {cell : Nat} (hcell : m.cell = cell)
    (c : MutexCall) :
    Outcome (w.lockHeld m) serial (w.gate cell).mutex c (c.answer w label)
      ((c.after w label).gate cell).mutex := by
  obtain ⟨x, ho, hgate, -⟩ := does h c
  rw [hgate, ← hcell, gate_withGate_self]
  exact ho

/-- A call that leaves its mutex as it was, changes no gate. -/
theorem gate_of_same (h : w.gateAt? label = some (serial, m)) {c : MutexCall}
    (hsame : ∀ x, Outcome (w.lockHeld m) serial (w.gate m.cell).mutex c (c.answer w label) x →
      x = (w.gate m.cell).mutex) :
    (c.after w label).gate = w.gate := by
  obtain ⟨x, ho, hgate, -⟩ := does h c
  rw [hgate, hsame x ho]
  exact w.gate_withGate_same m.cell

end run

namespace Outcome

variable {waiting : Bool} {who : Nat} {x x' : Sync.Mutex} {c : MutexCall}
  {r : Except Fault MutexAnswer}

theorem eq_of_error (h : Outcome waiting who x c r x') {f : Fault} (hf : r = .error f) :
    x' = x := by
  cases h with
  | waits _ _ | unready _ _ _ | unrecoverable _ _ _ _ | stuck _ _ _ => rfl
  | started _ | locked _ _ _ | took _ _ | busy _ _ | unlocked | died | destroyed _ _
  | abandoned _ _ _ | failed _ => cases hf

/-- A mutex that is not ready stays as it is, whatever is done but to make it ready. -/
theorem eq_of_unready (h : Outcome waiting who x c r x') (hs : x.ready = false)
    (hfree : x.hold.holders = []) (hc : c ≠ .init) : x' = x := by
  have hnobody : who ∉ x.hold.holders := by
    rw [hfree]
    exact List.not_mem_nil
  cases h with
  | waits _ _ | unready _ _ _ | unrecoverable _ _ _ _ | stuck _ _ _ | busy _ _ => rfl
  | started _ => exact absurd rfl hc
  | unlocked => rw [Sync.Mutex.unlock_of_not_mem who hnobody]
  | died => exact Sync.Mutex.orphan_of_not_mem who hnobody
  | failed _ =>
    rw [Sync.Mutex.lock, Sync.Mutex.take_of_unready _ who hs,
      Sync.Mutex.unlock_of_not_mem who hnobody]
  | locked _ hready _ | took hready _ | destroyed _ hready | abandoned _ hready _ =>
    exact absurd (hs.symm.trans hready) Bool.false_ne_true

theorem answer_of_unready (h : Outcome waiting who x c r x') (hc : c.needsReady)
    (hw : c.waits → waiting = false) (hs : x.ready = false) :
    r = .error (.sync (.uninitialised .mutex)) := by
  cases h with
  | unready _ _ _ => rfl
  | waits hwaits hwaiting => exact absurd ((hw hwaits).symm.trans hwaiting) Bool.false_ne_true
  | started _ | unlocked | died | failed _ => cases hc
  | unrecoverable _ _ hready _ | locked _ hready _ | stuck _ hready _ | took hready _
  | busy hready _ | destroyed _ hready | abandoned _ hready _ =>
    exact absurd (hs.symm.trans hready) Bool.false_ne_true

theorem answer_of_waiting (h : Outcome waiting who x c r x') (hc : c.waits)
    (hw : waiting = true) : r = .error .blocks := by
  cases h with
  | waits _ _ | stuck _ _ _ => rfl
  | unready _ hfree _ | unrecoverable _ hfree _ _ =>
    exact absurd ((hfree hc).symm.trans hw) Bool.false_ne_true
  | took _ _ | busy _ _ | unlocked | died => cases hc
  | started hfree | locked hfree _ _ | destroyed hfree _ | abandoned hfree _ _ | failed hfree =>
    exact absurd (hfree.symm.trans hw) Bool.false_ne_true

theorem answer_lock (h : Outcome waiting who x .lock r x') (hw : waiting = false)
    (hs : x.ready = true) (ho : x.hold.Open) : r = .ok .done := by
  cases h with
  | locked _ _ _ => rfl
  | stuck _ _ hsome => exact absurd ho.holders hsome
  | waits _ hwaiting => exact absurd (hw.symm.trans hwaiting) Bool.false_ne_true
  | unready _ _ hunready => exact absurd (hunready.symm.trans hs) Bool.false_ne_true
  | unrecoverable _ _ _ hlost =>
    rw [hlost] at ho
    rcases ho with hhold | hhold <;> cases hhold

theorem answer_tryLock (h : Outcome waiting who x .tryLock r x') (hs : x.ready = true)
    (hwhole : x.hold.Whole) : r = .ok (.lock (decide (x.hold.holders = []))) := by
  cases h with
  | took _ ho => rw [decide_eq_true ho.holders]
  | busy _ hsome => rw [decide_eq_false hsome]
  | waits hwaits _ => cases hwaits
  | unready _ _ hunready => exact absurd (hunready.symm.trans hs) Bool.false_ne_true
  | unrecoverable _ _ _ hlost => exact absurd hlost hwhole.recoverable

theorem answer_unlock (h : Outcome waiting who x .unlock r x') (hwhole : x.hold.Whole) :
    r = .ok (.lock (decide (x.hold = .held who))) := by
  cases h with
  | unlocked =>
    by_cases hhold : x.hold = .held who
    · rw [Sync.Mutex.unlock_of_held who hhold, decide_eq_true hhold]
    · rw [Sync.Mutex.unlock_of_not_mem who (mt hwhole.mem_holders_iff.mp hhold),
        decide_eq_false hhold]
  | waits hwaits _ => cases hwaits
  | unready hready _ _ => cases hready
  | unrecoverable hlocks _ _ _ => cases hlocks

theorem answer_die (h : Outcome waiting who x .die r x') : r = .ok .done := by
  cases h with
  | died => rfl
  | waits hwaits _ => cases hwaits
  | unready hready _ _ => cases hready
  | unrecoverable hlocks _ _ _ => cases hlocks

end Outcome

/-- A call that fails leaves all gates as they were. -/
theorem gate_of_error {w : World} {label : String} {c : MutexCall} {f : Fault}
    (hf : c.answer w label = .error f) : (c.after w label).gate = w.gate := by
  cases hm : w.gateAt? label with
  | none => rw [after, run_act_of_missing hm]
  | some e => exact gate_of_same hm fun x ho => ho.eq_of_error hf

end MutexCall

end World
end Rota
