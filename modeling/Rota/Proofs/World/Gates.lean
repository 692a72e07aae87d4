import Rota.Proofs.World.Labels
import Rota.World.Gates

namespace Rota.World

open Region (Mapping)

/-- The gate that a label stands for, with the number of the object. -/
def gateAt? (w : World) (label : String) : Option (Nat × Mapping) :=
  (w.objects.get? label).bind fun e => (gateView e.2).map (Prod.mk e.1)

/-- The memory of the gate that a label stands for. -/
def gateCell? (w : World) (label : String) : Option Nat := (w.gateAt? label).map (·.2.cell)

theorem exists_gateAt {w : World} {label : String} {cell : Nat}
    (h : w.gateCell? label = some cell) :
    ∃ serial m, w.gateAt? label = some (serial, m) ∧ m.cell = cell := by
  obtain ⟨⟨serial, m⟩, hm, hcell⟩ := Option.map_eq_some_iff.mp h
  exact ⟨serial, m, hm, hcell⟩

/-- The world with another gate in `cell`. -/
def withGate (w : World) (cell : Nat) (g : Gate) : World :=
  { w with gates := w.gates.set cell g }

section gates

variable (w : World) (cell : Nat)

@[simp]
theorem gate_withGate_self (g : Gate) : (w.withGate cell g).gate cell = g := by
  rw [gate, withGate, Register.get?_set_self, Option.getD_some]

theorem gate_withGate_of_ne {other : Nat} (g : Gate) (h : other ≠ cell) :
    (w.withGate cell g).gate other = w.gate other := by
  rw [gate, gate, withGate, Register.get?_set_of_ne _ _ h]

/-- To put back what was there changes no gate. -/
theorem gate_withGate_same : (w.withGate cell (w.gate cell)).gate = w.gate := by
  funext other
  by_cases h : other = cell
  · rw [h, gate_withGate_self]
  · exact w.gate_withGate_of_ne cell _ h

@[simp]
theorem withGate_withGate (g g' : Gate) :
    (w.withGate cell g).withGate cell g' = w.withGate cell g' := by
  rw [withGate, withGate, withGate]
  dsimp only
  rw [Register.set_set]

theorem run_onMutex {α : Type} (step : Sync.Mutex.Step α) :
    (onMutex cell step).run.run w =
      ((step (w.gate cell).mutex).1.mapError .sync,
        w.withGate cell { w.gate cell with mutex := (step (w.gate cell).mutex).2 }) := by
  rw [onMutex, run_bind_of_ok (run_get w)]
  dsimp only
  rcases step (w.gate cell).mutex with ⟨_ | _, mutex⟩ <;> rfl

theorem run_onMutex_withGate {α : Type} (step : Sync.Mutex.Step α) (g : Gate) :
    (onMutex cell step).run.run (w.withGate cell g) =
      ((step g.mutex).1.mapError .sync, w.withGate cell { g with mutex := (step g.mutex).2 }) := by
  rw [run_onMutex, gate_withGate_self, withGate_withGate]

end gates

section labels

variable {w : World} {label : String}

theorem run_gateAt {serial : Nat} {m : Mapping} (h : w.gateAt? label = some (serial, m)) :
    (gateAt label).run.run w = (.ok (serial, m), w) := by
  obtain ⟨⟨serial', o⟩, ho, hview⟩ := Option.bind_eq_some_iff.mp h
  obtain ⟨m', hm, heq⟩ := Option.map_eq_some_iff.mp hview
  rw [← heq]
  exact run_pick ho hm

theorem run_gateAt_of_none (h : w.gateAt? label = none) :
    (gateAt label).run.run w = (.error (.missing label), w) := by
  refine run_pick_of_none (Option.bind_eq_none_iff.mpr fun e he => ?_)
  exact Option.map_eq_none_iff.mp (Option.bind_eq_none_iff.mp h e he)

theorem run_freeGate {serial : Nat} {m : Mapping} (h : w.gateAt? label = some (serial, m)) :
    (freeGate label).run.run w =
      if w.lockHeld m then (.error .blocks, w) else (.ok (serial, m), w) := by
  rw [freeGate, run_bind_of_ok (run_gateAt h)]
  dsimp only
  rw [run_bind_of_ok (run_get w)]
  split_ifs <;> rfl

theorem run_onSemaphore {α : Type} {serial : Nat} {m : Mapping}
    (h : w.gateAt? label = some (serial, m)) (step : Sync.Semaphore.Step α) :
    (onSemaphore label step).run.run w =
      ((step (w.gate m.cell).semaphore).1.mapError .sync,
        w.withGate m.cell
          { w.gate m.cell with semaphore := (step (w.gate m.cell).semaphore).2 }) := by
  rw [onSemaphore, run_bind_of_ok (run_gateAt h)]
  dsimp only
  rw [run_bind_of_ok (run_get w)]
  rcases step (w.gate m.cell).semaphore with ⟨_ | _, semaphore⟩ <;> rfl

theorem run_wait {serial : Nat} {m : Mapping} (h : w.gateAt? label = some (serial, m)) :
    (Semaphore.wait label).run.run w =
      (((Sync.Semaphore.tryWait (w.gate m.cell).semaphore).1.mapError .sync).bind
          fun found => if found then .ok () else .error .blocks,
        w.withGate m.cell
          { w.gate m.cell with
            semaphore := (Sync.Semaphore.tryWait (w.gate m.cell).semaphore).2 }) := by
  have hrun := run_onSemaphore h Sync.Semaphore.tryWait
  rw [Semaphore.wait]
  rcases htry : Sync.Semaphore.tryWait (w.gate m.cell).semaphore with ⟨f | found, s⟩
  · rw [htry] at hrun
    exact run_bind_of_error hrun
  · rw [htry] at hrun
    rw [run_bind_of_ok hrun]
    cases found <;> rfl

end labels

theorem lockHeld_iff {w : World} {m : Mapping} :
    w.lockHeld m = true ↔ ∃ label serial n l, (label, serial, .laidOut n l) ∈ w.objects.entries ∧
      Region.bareName? n.name = Region.bareName? m.name ∧
      (w.gate n.cell).mutex.hold = .held serial := by
  rw [lockHeld, List.any_eq_true]
  constructor
  · rintro ⟨⟨label, serial, o⟩, hin, hheld⟩
    cases o with
    | laidOut n l =>
      obtain ⟨hname, hhold⟩ := (Bool.and_eq_true _ _).mp hheld
      exact ⟨label, serial, n, l, hin, of_decide_eq_true hname, of_decide_eq_true hhold⟩
    | region _ | queue _ | producer _ | logger _ | station _ => cases hheld
  · rintro ⟨label, serial, n, l, hin, hname, hhold⟩
    refine ⟨(label, serial, .laidOut n l), hin, ?_⟩
    simp [Object.laidOut?, hname, hhold]

end Rota.World
