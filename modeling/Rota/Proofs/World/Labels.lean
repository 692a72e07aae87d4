import Rota.Proofs.World.Keeps
import Rota.World.Regions

namespace Rota

namespace Register

variable {κ α : Type} [DecidableEq κ] (r : Register κ α) (k l : κ)

theorem get?_set (a : α) : (r.set k a).get? l = if l = k then some a else r.get? l := by
  split_ifs with h
  · rw [h, get?_set_self]
  · exact get?_set_of_ne r a h

theorem get?_erase : (r.erase k).get? l = if l = k then none else r.get? l := by
  split_ifs with h
  · rw [h, get?_erase_self]
  · exact get?_erase_of_ne r h

variable {r k} in
theorem erase_of_get?_eq_none (h : r.get? k = none) : r.erase k = r := by
  have hfind : r.entries.find? (·.1 = k) = none := Option.map_eq_none_iff.mp h
  rw [List.find?_eq_none] at hfind
  have hfilter : r.entries.filter (·.1 ≠ k) = r.entries :=
    List.filter_eq_self.mpr fun e he => by simpa using hfind e he
  rw [erase, hfilter]

end Register

namespace World

/-- An act whose answer is only turned into another. -/
theorem run_bind_pure {α β : Type} (x : Act α) (f : α → β) (w : World) :
    (x >>= fun a => pure (f a) : Act β).run.run w = ((x.run.run w).1.map f, (x.run.run w).2) := by
  rcases hx : x.run.run w with ⟨_ | _, w'⟩
  · exact run_bind_of_error hx
  · exact run_bind_of_ok hx

section labels

variable {w : World} {label : String}

theorem run_pick {α : Type} {view : Object → Option α} {serial : Nat} {o : Object} {a : α}
    (ho : w.objects.get? label = some (serial, o)) (ha : view o = some a) :
    (pick view label).run.run w = (.ok (serial, a), w) := by
  rw [pick, run_bind_of_ok (run_get w), ho]
  dsimp only
  rw [ha]
  rfl

theorem run_pick_of_none {α : Type} {view : Object → Option α}
    (h : (w.objects.get? label).bind (fun e => view e.2) = none) :
    (pick view label).run.run w = (.error (.missing label), w) := by
  rw [pick, run_bind_of_ok (run_get w)]
  cases ho : w.objects.get? label with
  | none => rfl
  | some e =>
    rw [ho] at h
    have hview : view e.2 = none := h
    dsimp only
    rw [hview]
    rfl

theorem run_stationAt {serial : Nat} {s : Station}
    (ho : w.objects.get? label = some (serial, .station s)) :
    (stationAt label).run.run w = (.ok s, w) := by
  have hpick : (pick Object.station? label).run.run w = (.ok (serial, s), w) := run_pick ho rfl
  rw [stationAt, run_bind_of_ok hpick]
  rfl

end labels

section looking

variable {β : Type} (view : World → β)

theorem keeps_pick {α : Type} (kind : Object → Option α) (label : String) :
    Keeps view (pick kind label).run := by
  refine Keeps.bindAct (Keeps.lift Keeps.get) fun w => ?_
  rcases w.objects.get? label with _ | ⟨serial, o⟩
  · exact Keeps.pure _
  · dsimp only
    cases kind o <;> exact Keeps.pure _

theorem keeps_stationAt (label : String) : Keeps view (stationAt label).run :=
  Keeps.bindAct (keeps_pick view _ label) fun _ => Keeps.pure _

theorem keeps_openTable (name : String) : Keeps view (openTable name).run :=
  Keeps.bindAct (Keeps.lift Keeps.get) fun _ => keeps_ofTable view _

end looking

/-- No label stands for a logger, which would write what it finds on its queue when it ends. -/
def Quiet (w : World) : Prop :=
  ∀ (label : String) (serial : Nat) (l : Logger), w.objects.get? label ≠ some (serial, .logger l)

theorem release_of_ne_logger {o : Object} (ho : ∀ l, o ≠ .logger l) (serial : Nat) (w : World) :
    ∃ gates, ((release serial o).run w).2 = { w with gates } := by
  cases o with
  | logger l => exact absurd rfl (ho l)
  | laidOut m l => exact ⟨_, rfl⟩
  | region m => exact ⟨w.gates, rfl⟩
  | queue m => exact ⟨w.gates, rfl⟩
  | producer m => exact ⟨w.gates, rfl⟩
  | station s => exact ⟨w.gates, rfl⟩

namespace Quiet

variable {w : World} (hw : w.Quiet)
include hw

theorem run_put (label : String) (o : Object) :
    ∃ gates, ((put label o).run w).2 =
      { w with
        gates
        made := w.made + 1
        objects := w.objects.set label (w.made + 1, o) } := by
  simp only [put, StateT.run_bind, StateT.run_get, StateT.run_set, pure_bind]
  cases ho : w.objects.get? label with
  | none => exact ⟨w.gates, rfl⟩
  | some e => exact release_of_ne_logger (fun l hl => hw label e.1 l (hl ▸ ho)) e.1 _

theorem run_drop (label : String) :
    ∃ gates, ((drop label).run.run w).2 =
      { w with gates, objects := w.objects.erase label } := by
  cases ho : w.objects.get? label with
  | none =>
    rw [drop, run_bind_of_error (run_pick_of_none (by rw [ho]; rfl)),
      Register.erase_of_get?_eq_none ho]
    exact ⟨w.gates, rfl⟩
  | some e =>
    rw [drop, run_bind_of_ok (run_pick ho rfl)]
    exact release_of_ne_logger (fun l hl => hw label e.1 l (hl ▸ ho)) e.1 _

end Quiet
end World
end Rota
