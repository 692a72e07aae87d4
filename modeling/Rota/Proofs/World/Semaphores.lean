import Rota.Proofs.World.Gates
import Rota.Sync.Deadline

namespace Rota.World

/-- A call on a semaphore. -/
inductive SemaphoreCall
  | init (n : UInt32)
  | post
  | wait
  | tryWait
  | waitTimeout (span : Sync.Span)
  | value
  | destroy
  deriving DecidableEq

inductive SemaphoreAnswer
  | done
  /-- Whether there was anything to count down from. -/
  | took (found : Bool)
  | value (found : Nat)
  deriving DecidableEq

/-- What has come of a semaphore since it was started. -/
structure Permits where
  start : Nat
  posted : Nat := 0
  taken : Nat := 0
  deriving DecidableEq

namespace SemaphoreCall

/-- The call through the mapping under a label. Nobody posts while a wait lasts, so that a wait with
a deadline ends alike for all spans. -/
def act (label : String) : SemaphoreCall → Act SemaphoreAnswer
  | .init n => do
    onSemaphore label (Sync.Semaphore.init n)
    return .done
  | .post => do
    onSemaphore label Sync.Semaphore.post
    return .done
  | .wait => do
    Semaphore.wait label
    return .done
  | .tryWait | .waitTimeout _ => return .took (← onSemaphore label Sync.Semaphore.tryWait)
  | .value => return .value (← onSemaphore label Sync.Semaphore.get)
  | .destroy => do
    onSemaphore label Sync.Semaphore.destroy
    return .done

def answer (w : World) (label : String) (c : SemaphoreCall) : Except Fault SemaphoreAnswer :=
  ((c.act label).run.run w).1

def after (w : World) (label : String) (c : SemaphoreCall) : World := ((c.act label).run.run w).2

/-- Whether the call counts down if it can and says so if it cannot. -/
def tries : SemaphoreCall → Bool
  | .tryWait | .waitTimeout _ => true
  | _ => false

/-- The permits of a semaphore once the call has been answered; one that has not been started, or is
destroyed, has none. -/
def counted (p : Option Permits) : SemaphoreCall → Except Fault SemaphoreAnswer → Option Permits
  | .init n, .ok _ => some { start := n.toNat }
  | .post, .ok _ => p.map fun q => { q with posted := q.posted + 1 }
  | .wait, .ok _ | .tryWait, .ok (.took true) | .waitTimeout _, .ok (.took true) =>
    p.map fun q => { q with taken := q.taken + 1 }
  | .destroy, .ok _ => none
  | _, _ => p

/-- All that can come of a call on a semaphore: its answer, and the semaphore afterwards. -/
inductive Outcome (s : Sync.Semaphore) :
    SemaphoreCall → Except Fault SemaphoreAnswer → Sync.Semaphore → Prop
  | started {n : UInt32} : n.toNat ≤ Sync.Semaphore.most →
      Outcome s (.init n) (.ok .done) ⟨true, n.toNat⟩
  | tooMany {n : UInt32} : Sync.Semaphore.most < n.toNat →
      Outcome s (.init n) (.error (.sync (.os "sem_init" .invalid))) s
  | unready {c : SemaphoreCall} : (∀ n, c ≠ .init n) → s.ready = false →
      Outcome s c (.error (.sync (.uninitialised .semaphore))) s
  | posted : s.ready = true → s.value < Sync.Semaphore.most →
      Outcome s .post (.ok .done) { s with value := s.value + 1 }
  | full : s.ready = true → Sync.Semaphore.most ≤ s.value →
      Outcome s .post (.error (.sync (.os "sem_post" .overflow))) s
  | waited : s.ready = true → s.value ≠ 0 →
      Outcome s .wait (.ok .done) { s with value := s.value - 1 }
  | waits : s.ready = true → s.value = 0 → Outcome s .wait (.error .blocks) s
  | took {c : SemaphoreCall} : c.tries → s.ready = true → s.value ≠ 0 →
      Outcome s c (.ok (.took true)) { s with value := s.value - 1 }
  | empty {c : SemaphoreCall} : c.tries → s.ready = true → s.value = 0 →
      Outcome s c (.ok (.took false)) s
  | read : s.ready = true → Outcome s .value (.ok (.value s.value)) s
  | destroyed : s.ready = true → Outcome s .destroy (.ok .done) { s with ready := false }

section run

variable {w : World} {label : String} {serial : Nat} {m : Region.Mapping}

theorem run_act_of_missing (h : w.gateAt? label = none) (c : SemaphoreCall) :
    (c.act label).run.run w = (.error (.missing label), w) := by
  have hmissing {α : Type} (step : Sync.Semaphore.Step α) :
      (onSemaphore label step).run.run w = (.error (.missing label), w) :=
    run_bind_of_error (run_gateAt_of_none h)
  cases c with
  | wait => exact run_bind_of_error (run_bind_of_error (hmissing _))
  | init _ | post | tryWait | waitTimeout _ | value | destroy =>
    exact run_bind_of_error (hmissing _)

/-- A call that is one step on the semaphore, and an answer made of that of the step. -/
theorem outcome_of_step {α : Type} {step : Sync.Semaphore.Step α} {f : α → SemaphoreAnswer}
    {c : SemaphoreCall} (h : w.gateAt? label = some (serial, m))
    (hact : c.act label = (onSemaphore label step >>= fun a => pure (f a) : Act SemaphoreAnswer))
    (ho : Outcome (w.gate m.cell).semaphore c
      (((step (w.gate m.cell).semaphore).1.mapError .sync).map f)
      (step (w.gate m.cell).semaphore).2) :
    ∃ s, Outcome (w.gate m.cell).semaphore c (c.answer w label) s ∧
      c.after w label = w.withGate m.cell { w.gate m.cell with semaphore := s } := by
  rw [answer, after, hact, run_bind_pure, run_onSemaphore h]
  exact ⟨_, ho, rfl⟩

theorem outcome (h : w.gateAt? label = some (serial, m)) (c : SemaphoreCall) :
    ∃ s, Outcome (w.gate m.cell).semaphore c (c.answer w label) s ∧
      c.after w label = w.withGate m.cell { w.gate m.cell with semaphore := s } := by
  cases c with
  | init n =>
    refine outcome_of_step h rfl ?_
    rw [Sync.Semaphore.init]
    split_ifs with hn
    · exact .started hn
    · exact .tooMany (Nat.lt_of_not_le hn)
  | post =>
    refine outcome_of_step h rfl ?_
    rw [Sync.Semaphore.post, Sync.Semaphore.guarded]
    split_ifs with hs hvalue
    · exact .posted hs hvalue
    · exact .full hs (Nat.le_of_not_lt hvalue)
    · exact .unready nofun (eq_false_of_ne_true hs)
  | wait =>
    rw [answer, after, act, run_bind_pure, run_wait h]
    refine ⟨_, ?_, rfl⟩
    dsimp only
    rw [Sync.Semaphore.tryWait, Sync.Semaphore.guarded]
    split_ifs with hs hvalue
    · exact .waits hs hvalue
    · exact .waited hs hvalue
    · exact .unready nofun (eq_false_of_ne_true hs)
  | tryWait | waitTimeout span =>
    refine outcome_of_step h rfl ?_
    rw [Sync.Semaphore.tryWait, Sync.Semaphore.guarded]
    split_ifs with hs hvalue
    · exact .empty rfl hs hvalue
    · exact .took rfl hs hvalue
    · exact .unready nofun (eq_false_of_ne_true hs)
  | value =>
    refine outcome_of_step h rfl ?_
    rw [Sync.Semaphore.get, Sync.Semaphore.guarded]
    split_ifs with hs
    · exact .read hs
    · exact .unready nofun (eq_false_of_ne_true hs)
  | destroy =>
    refine outcome_of_step h rfl ?_
    rw [Sync.Semaphore.destroy, Sync.Semaphore.guarded]
    split_ifs with hs
    · exact .destroyed hs
    · exact .unready nofun (eq_false_of_ne_true hs)

end run

namespace Outcome

variable {s s' : Sync.Semaphore} {c : SemaphoreCall} {r : Except Fault SemaphoreAnswer}

/-- A call that fails leaves the semaphore as it was. -/
theorem eq_of_error (h : Outcome s c r s') {f : Fault} (hf : r = .error f) : s' = s := by
  cases h with
  | tooMany _ | unready _ _ | full _ _ | waits _ _ => rfl
  | started _ | posted _ _ | waited _ _ | took _ _ _ | empty _ _ _ | read _ | destroyed _ =>
    cases hf

theorem answer_of_unready (h : Outcome s c r s') (hs : s.ready = false) (hc : ∀ n, c ≠ .init n) :
    r = .error (.sync (.uninitialised .semaphore)) := by
  cases h with
  | unready _ _ => rfl
  | started _ | tooMany _ => exact absurd rfl (hc _)
  | posted hready _ | full hready _ | waited hready _ | waits hready _ | took _ hready _
  | empty _ hready _ | read hready | destroyed hready =>
    exact absurd (hs.symm.trans hready) Bool.false_ne_true

theorem answer_init {n : UInt32} (h : Outcome s (.init n) r s') :
    r = if n.toNat ≤ Sync.Semaphore.most then .ok .done
      else .error (.sync (.os "sem_init" .invalid)) := by
  cases h with
  | started hn => rw [if_pos hn]
  | tooMany hn => rw [if_neg (Nat.not_le.mpr hn)]
  | unready hc _ => exact absurd rfl (hc n)
  | took hc _ _ | empty hc _ _ => cases hc

variable (hs : s.ready = true)
include hs

theorem answer_of_tries (h : Outcome s c r s') (hc : c.tries) :
    r = .ok (.took (decide (s.value ≠ 0))) := by
  cases h with
  | took _ _ hvalue => rw [decide_eq_true hvalue]
  | empty _ _ hvalue => rw [decide_eq_false (not_not.mpr hvalue)]
  | unready _ hunready => exact absurd (hunready.symm.trans hs) Bool.false_ne_true
  | started _ | tooMany _ | posted _ _ | full _ _ | waited _ _ | waits _ _ | read _
  | destroyed _ => cases hc

theorem answer_wait (h : Outcome s .wait r s') :
    r = if s.value = 0 then .error .blocks else .ok .done := by
  cases h with
  | waited _ hvalue => rw [if_neg hvalue]
  | waits _ hvalue => rw [if_pos hvalue]
  | unready _ hunready => exact absurd (hunready.symm.trans hs) Bool.false_ne_true
  | took hc _ _ | empty hc _ _ => cases hc

theorem answer_post (h : Outcome s .post r s') :
    r = if s.value < Sync.Semaphore.most then .ok .done
      else .error (.sync (.os "sem_post" .overflow)) := by
  cases h with
  | posted _ hvalue => rw [if_pos hvalue]
  | full _ hvalue => rw [if_neg (Nat.not_lt.mpr hvalue)]
  | unready _ hunready => exact absurd (hunready.symm.trans hs) Bool.false_ne_true
  | took hc _ _ | empty hc _ _ => cases hc

theorem answer_value (h : Outcome s .value r s') : r = .ok (.value s.value) := by
  cases h with
  | read _ => rfl
  | unready _ hunready => exact absurd (hunready.symm.trans hs) Bool.false_ne_true
  | took hc _ _ | empty hc _ _ => cases hc

theorem answer_destroy (h : Outcome s .destroy r s') : r = .ok .done := by
  cases h with
  | destroyed _ => rfl
  | unready _ hunready => exact absurd (hunready.symm.trans hs) Bool.false_ne_true
  | took hc _ _ | empty hc _ _ => cases hc

end Outcome

end SemaphoreCall

/-- The semaphore is ready if there are permits to speak of, and its value is what is left of
them. -/
structure Permits.Of (p : Option Permits) (s : Sync.Semaphore) : Prop where
  mark : s.ready = p.isSome
  balance : ∀ q, p = some q → s.value + q.taken = q.start + q.posted
  atMost : ∀ q, p = some q → s.value ≤ Sync.Semaphore.most

namespace Permits.Of

variable {p : Option Permits} {s : Sync.Semaphore}

theorem none_of (hs : s.ready = false) : Permits.Of none s where
  mark := hs
  balance := nofun
  atMost := nofun

theorem some_of {q : Permits} (hs : s.ready = true)
    (hbalance : s.value + q.taken = q.start + q.posted)
    (hmost : s.value ≤ Sync.Semaphore.most) : Permits.Of (some q) s where
  mark := hs
  balance q' hq := by
    cases hq
    exact hbalance
  atMost q' hq := by
    cases hq
    exact hmost

variable (h : Permits.Of p s)
include h

theorem exists_of_ready (hs : s.ready = true) : ∃ q, p = some q :=
  Option.isSome_iff_exists.mp (h.mark.symm.trans hs)

/-- To count the semaphore down is to take a permit. -/
theorem taken (hs : s.ready = true) (hvalue : s.value ≠ 0) :
    Permits.Of (p.map fun q => { q with taken := q.taken + 1 })
      { s with value := s.value - 1 } := by
  obtain ⟨q, rfl⟩ := h.exists_of_ready hs
  have hbalance := h.balance q rfl
  have hmost := h.atMost q rfl
  refine some_of hs ?_ ?_
  · change s.value - 1 + (q.taken + 1) = q.start + q.posted
    omega
  · change s.value - 1 ≤ _
    omega

/-- The permits keep step with the semaphore. -/
theorem step {c : SemaphoreCall} {r : Except Fault SemaphoreAnswer} {s' : Sync.Semaphore}
    (ho : SemaphoreCall.Outcome s c r s') : Permits.Of (c.counted p r) s' := by
  cases ho with
  | started hn => exact some_of rfl rfl hn
  | posted hs hvalue =>
    obtain ⟨q, rfl⟩ := h.exists_of_ready hs
    have hbalance := h.balance q rfl
    refine some_of hs ?_ hvalue
    change s.value + 1 + q.taken = q.start + (q.posted + 1)
    omega
  | waited hs hvalue => exact h.taken hs hvalue
  | took hc hs hvalue =>
    cases c with
    | tryWait | waitTimeout _ => exact h.taken hs hvalue
    | init _ | post | wait | value | destroy => cases hc
  | empty hc hs hvalue =>
    cases c with
    | tryWait | waitTimeout _ => exact h
    | init _ | post | wait | value | destroy => cases hc
  -- what fails or only looks is not counted, and leaves the semaphore as it was
  | unready hc hs => cases c <;> exact h
  | tooMany hn => exact h
  | full hs hvalue => exact h
  | waits hs hvalue => exact h
  | read hs => exact h
  | destroyed hs => exact none_of rfl

end Permits.Of

namespace SemaphoreCall

/-- The world after a call through a label, and the permits of the semaphore in `cell`. -/
def used (cell : Nat) (s : World × Option Permits) (call : String × SemaphoreCall) :
    World × Option Permits :=
  (call.2.after s.1 call.1,
    if s.1.gateCell? call.1 = some cell then call.2.counted s.2 (call.2.answer s.1 call.1)
    else s.2)

/-- The world after all calls of a list, and the permits of the semaphore in `cell`, which is not
ready at first. -/
def usedAll (cell : Nat) (w : World) (calls : List (String × SemaphoreCall)) :
    World × Option Permits :=
  calls.foldl (used cell) (w, none)

variable {w : World} {label : String}

theorem outcome_at {cell : Nat} (h : w.gateCell? label = some cell) (c : SemaphoreCall) :
    Outcome (w.gate cell).semaphore c (c.answer w label)
      ((c.after w label).gate cell).semaphore := by
  obtain ⟨serial, m, hm, rfl⟩ := exists_gateAt h
  obtain ⟨s, ho, hw⟩ := outcome hm c
  rw [hw, gate_withGate_self]
  exact ho

theorem gate_of_ne {cell : Nat} (h : w.gateCell? label ≠ some cell) (c : SemaphoreCall) :
    (c.after w label).gate cell = w.gate cell := by
  cases hm : w.gateAt? label with
  | none => rw [after, run_act_of_missing hm]
  | some e =>
    obtain ⟨s, -, hw⟩ := outcome hm c
    rw [hw, gate_withGate_of_ne]
    rintro rfl
    exact h (congrArg _ hm)

/-- A call reaches nothing but gates. -/
theorem others_after (w : World) (label : String) (c : SemaphoreCall) :
    ∃ gates, c.after w label = { w with gates } := by
  cases hm : w.gateAt? label with
  | none => exact ⟨w.gates, by rw [after, run_act_of_missing hm]⟩
  | some e =>
    obtain ⟨s, -, hw⟩ := outcome hm c
    exact ⟨_, hw⟩

/-- A call that fails leaves all gates as they were. -/
theorem gate_of_error {c : SemaphoreCall} {f : Fault} (hf : c.answer w label = .error f) :
    (c.after w label).gate = w.gate := by
  cases hm : w.gateAt? label with
  | none => rw [after, run_act_of_missing hm]
  | some e =>
    obtain ⟨s, ho, hw⟩ := outcome hm c
    rw [hw, ho.eq_of_error hf]
    exact w.gate_withGate_same _

end SemaphoreCall

/-- A semaphore as those see it who call on it through whichever mapping. -/
structure Conserved (w : World) (cell : Nat) (p : Option Permits) : Prop where
  permits : Permits.Of p (w.gate cell).semaphore
  read : ∀ q label, p = some q → w.gateCell? label = some cell →
    ∃ n, SemaphoreCall.value.answer w label = .ok (.value n) ∧ n = (w.gate cell).semaphore.value ∧
      n + q.taken = q.start + q.posted
  tried : ∀ q label (c : SemaphoreCall), p = some q → w.gateCell? label = some cell → c.tries →
    c.answer w label = .ok (.took (decide ((w.gate cell).semaphore.value ≠ 0)))
  waited : ∀ q label, p = some q → w.gateCell? label = some cell →
    SemaphoreCall.wait.answer w label =
      if (w.gate cell).semaphore.value = 0 then .error .blocks else .ok .done
  posted : ∀ q label, p = some q → w.gateCell? label = some cell →
    SemaphoreCall.post.answer w label =
      if (w.gate cell).semaphore.value < Sync.Semaphore.most then .ok .done
      else .error (.sync (.os "sem_post" .overflow))
  started : ∀ label n, w.gateCell? label = some cell →
    (SemaphoreCall.init n).answer w label =
      if n.toNat ≤ Sync.Semaphore.most then .ok .done
      else .error (.sync (.os "sem_init" .invalid))
  destroyed : ∀ q label, p = some q → w.gateCell? label = some cell →
    SemaphoreCall.destroy.answer w label = .ok .done
  unready : p = none → ∀ label (c : SemaphoreCall), w.gateCell? label = some cell →
    (∀ n, c ≠ .init n) → c.answer w label = .error (.sync (.uninitialised .semaphore))
  failed : ∀ label (c : SemaphoreCall) f, c.answer w label = .error f →
    (c.after w label).gate = w.gate

theorem Permits.Of.conserved {w : World} {cell : Nat} {p : Option Permits}
    (h : Permits.Of p (w.gate cell).semaphore) : w.Conserved cell p := by
  have hready {q : Permits} (hp : p = some q) : (w.gate cell).semaphore.ready = true := by
    rw [h.mark, hp, Option.isSome_some]
  refine ⟨h, fun q label hp hl => ⟨_, ?_, rfl, h.balance q hp⟩, fun q label c hp hl hc => ?_,
    fun q label hp hl => ?_, fun q label hp hl => ?_, fun label n hl => ?_,
    fun q label hp hl => ?_, fun hp label c hl hc => ?_, fun label c f => ?_⟩
  · exact (SemaphoreCall.outcome_at hl _).answer_value (hready hp)
  · exact (SemaphoreCall.outcome_at hl c).answer_of_tries (hready hp) hc
  · exact (SemaphoreCall.outcome_at hl _).answer_wait (hready hp)
  · exact (SemaphoreCall.outcome_at hl _).answer_post (hready hp)
  · exact (SemaphoreCall.outcome_at hl _).answer_init
  · exact (SemaphoreCall.outcome_at hl _).answer_destroy (hready hp)
  · have hmark := h.mark
    rw [hp] at hmark
    exact (SemaphoreCall.outcome_at hl c).answer_of_unready hmark hc
  · exact SemaphoreCall.gate_of_error

namespace SemaphoreCall

variable {cell : Nat}

theorem of_used {s : World × Option Permits} (h : Permits.Of s.2 (s.1.gate cell).semaphore)
    (call : String × SemaphoreCall) :
    Permits.Of (used cell s call).2 ((used cell s call).1.gate cell).semaphore := by
  rw [used]
  dsimp only
  split_ifs with hl
  · exact h.step (outcome_at hl call.2)
  · rw [gate_of_ne hl]
    exact h

theorem of_usedAll {w : World} (hw : (w.gate cell).semaphore.ready = false)
    (calls : List (String × SemaphoreCall)) :
    Permits.Of (usedAll cell w calls).2 ((usedAll cell w calls).1.gate cell).semaphore := by
  refine List.foldlRecOn calls (used cell) (b := (w, none))
    (motive := fun s => Permits.Of s.2 (s.1.gate cell).semaphore) (Permits.Of.none_of hw) ?_
  intro s hs call _
  exact of_used hs call

theorem others_usedAll (w : World) (calls : List (String × SemaphoreCall)) :
    ∃ gates, (usedAll cell w calls).1 = { w with gates } := by
  refine List.foldlRecOn calls (used cell) (b := (w, none))
    (motive := fun s => ∃ gates, s.1 = { w with gates }) ⟨w.gates, rfl⟩ ?_
  rintro s ⟨gates, hgates⟩ call -
  obtain ⟨gates', hafter⟩ := others_after s.1 call.1 call.2
  refine ⟨gates', hafter.trans ?_⟩
  rw [hgates]

/-- However a semaphore is called on, its value is what it was started with and what was posted
since less what was taken, calls that fail change nothing, and once it is destroyed it can only be
started again. -/
theorem conserved_usedAll {w : World} (hw : (w.gate cell).semaphore.ready = false)
    (calls : List (String × SemaphoreCall)) :
    Sync.Semaphore.most = 2147483647 ∧
      (usedAll cell w calls).1.Conserved cell (usedAll cell w calls).2 ∧
      ∃ gates, (usedAll cell w calls).1 = { w with gates } :=
  ⟨rfl, (of_usedAll hw calls).conserved, others_usedAll w calls⟩

theorem conserved_usedAll_of_limit :
    ∃ (w : World) (calls : List (String × SemaphoreCall)),
      w = { objects := ⟨[("a", 1, .laidOut ⟨"/g", 0, 177⟩ gateLayout),
        ("b", 2, .laidOut ⟨"g", 0, 177⟩ gateLayout)]⟩ } ∧
      calls = [("a", .init 2147483646), ("b", .post), ("a", .post), ("b", .tryWait),
        ("a", .init 2147483648), ("a", .waitTimeout ⟨1, 0⟩), ("b", .post)] ∧
      (w.gate 0).semaphore.ready = false ∧
      (usedAll 0 w calls).2 = some ⟨2147483646, 2, 2⟩ ∧
      value.answer (usedAll 0 w calls).1 "b" = .ok (.value 2147483646) ∧
      (usedAll 0 w (calls ++ [("b", .destroy)])).2 = none ∧
      wait.answer (usedAll 0 w (calls ++ [("b", .destroy)])).1 "a" =
        .error (.sync (.uninitialised .semaphore)) := by
  obtain ⟨w, hw⟩ : ∃ w : World, w = { objects := ⟨[("a", 1, .laidOut ⟨"/g", 0, 177⟩ gateLayout),
      ("b", 2, .laidOut ⟨"g", 0, 177⟩ gateLayout)]⟩ } := ⟨_, rfl⟩
  obtain ⟨calls, hcalls⟩ : ∃ calls : List (String × SemaphoreCall), calls =
      [("a", .init 2147483646), ("b", .post), ("a", .post), ("b", .tryWait),
        ("a", .init 2147483648), ("a", .waitTimeout ⟨1, 0⟩), ("b", .post)] := ⟨_, rfl⟩
  have hready : (w.gate 0).semaphore.ready = false := by
    rw [hw]
    decide +kernel
  have hpermits : (usedAll 0 w calls).2 = some ⟨2147483646, 2, 2⟩ := by
    rw [hw, hcalls]
    decide +kernel
  have hdestroyed : (usedAll 0 w (calls ++ [("b", .destroy)])).2 = none := by
    rw [hw, hcalls]
    decide +kernel
  obtain ⟨-, hlaws, gates, hothers⟩ := conserved_usedAll hready calls
  obtain ⟨-, hlater, gates', hothers'⟩ := conserved_usedAll hready (calls ++ [("b", .destroy)])
  have hcells : w.gateCell? "a" = some 0 ∧ w.gateCell? "b" = some 0 := by
    rw [hw]
    decide +kernel
  have hb : (usedAll 0 w calls).1.gateCell? "b" = some 0 := by
    rw [hothers]
    exact hcells.2
  have ha : (usedAll 0 w (calls ++ [("b", .destroy)])).1.gateCell? "a" = some 0 := by
    rw [hothers']
    exact hcells.1
  obtain ⟨n, hread, -, hn⟩ := hlaws.read _ "b" hpermits hb
  have hvalue : n = 2147483646 := Nat.add_right_cancel hn
  rw [hvalue] at hread
  exact ⟨w, calls, hw, hcalls, hready, hpermits, hread, hdestroyed,
    hlater.unready hdestroyed "a" .wait ha nofun⟩

end SemaphoreCall
end Rota.World
