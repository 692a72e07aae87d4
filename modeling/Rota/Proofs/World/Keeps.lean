import Rota.World.Tables
import Mathlib.Tactic.Common

namespace Rota.World

section run

variable {ε α β : Type} {x : ExceptT ε (StateM World) α} {f : α → ExceptT ε (StateM World) β}
  {w w' : World}

theorem run_bind_of_ok {a : α} (h : x.run.run w = (.ok a, w')) :
    (x >>= f).run.run w = (f a).run.run w' := by
  rw [ExceptT.run_bind, StateT.run_bind, h]
  rfl

theorem run_bind_of_error {e : ε} (h : x.run.run w = (.error e, w')) :
    (x >>= f).run.run w = (.error e, w') := by
  rw [ExceptT.run_bind, StateT.run_bind, h]
  rfl

theorem run_get (w : World) : (get : Act World).run.run w = (.ok w, w) := rfl

end run

/-- No run of `act` changes what `view` shows of the world. -/
def Keeps {α β : Type} (view : World → β) (act : StateM World α) : Prop :=
  ∀ w, view (act.run w).2 = view w

namespace Keeps

variable {α β γ : Type} {view : World → β}

theorem pure (a : α) : Keeps view (Pure.pure a) := fun _ => rfl

theorem modify {f : World → World} (h : ∀ w, view (f w) = view w) : Keeps view (modify f) := h

theorem get : Keeps view get := fun _ => rfl

theorem bind {x : StateM World α} {f : α → StateM World γ} (hx : Keeps view x)
    (hf : ∀ a, Keeps view (f a)) : Keeps view (x >>= f) := by
  intro w
  rw [StateT.run_bind]
  exact (hf _ _).trans (hx w)

theorem bindAct {x : Act α} {f : α → Act γ} (hx : Keeps view x.run)
    (hf : ∀ a, Keeps view (f a).run) : Keeps view (x >>= f).run := by
  rw [ExceptT.run_bind]
  refine hx.bind fun r => ?_
  cases r with
  | ok a => exact hf a
  | error f => exact pure _

theorem lift {x : StateM World α} (hx : Keeps view x) : Keeps view (liftM x : Act α).run :=
  hx

theorem forM {f : α → StateM World Unit} (h : ∀ a, Keeps view (f a)) (as : List α) :
    Keeps view (as.forM f) := by
  induction as with
  | nil => exact pure _
  | cons a as ih => exact (h a).bind fun _ => ih

end Keeps

theorem keeps_ofTable {α β : Type} (view : World → β) (r : Except Table.Fault α) :
    Keeps view (ofTable r).run := by
  cases r <;> exact Keeps.pure _

section queues

variable {β : Type} {view : World → β} (hv : ∀ w queues, view { w with queues } = view w)
include hv

theorem keeps_onQueue {α : Type} (cell : Nat) (step : Log.Queue.Step α) :
    Keeps view (onQueue cell step).run := by
  refine Keeps.bindAct (Keeps.lift Keeps.get) fun w => ?_
  refine Keeps.bindAct (Keeps.lift (Keeps.modify fun w => hv w _)) fun _ => ?_
  cases (step (w.queue cell)).1 <;> exact Keeps.pure _

theorem keeps_tell (cell : Nat) (text : String) : Keeps view (tell cell text) := by
  refine (keeps_onQueue hv cell _).bind fun r => ?_
  cases r <;> exact Keeps.pure _

/-- Telling events reaches nothing but the queues. -/
theorem keeps_announce (s : Station) (events : List Event) : Keeps view (announce s events) := by
  unfold announce
  cases s.log with
  | none => exact Keeps.pure _
  | some log => exact Keeps.forM (fun e => (keeps_tell hv _ _).bind fun _ => Keeps.pure _) events

end queues

section shelf

variable {β : Type} {view : World → β}
  (hv : ∀ w files stores, view { w with files, stores } = view w)

theorem keeps_storeAt (view : World → β) (label : String) : Keeps view (storeAt label).run := by
  refine Keeps.bindAct (Keeps.lift Keeps.get) fun w => ?_
  cases w.stores.get? label <;> exact Keeps.pure _

theorem keeps_lockedGame (view : World → β) (cell : Nat) : Keeps view (lockedGame cell).run := by
  refine Keeps.bindAct (Keeps.lift Keeps.get) fun w => ?_
  cases w.games.get? cell <;> exact Keeps.pure _

include hv

theorem keeps_saveIn (s : Score.Store) (b : Score.Board) : Keeps view (saveIn s b).run := by
  refine Keeps.bindAct (Keeps.lift Keeps.get) fun w => ?_
  refine Keeps.bindAct (keeps_ofTable view _) fun _ => ?_
  exact Keeps.bindAct (Keeps.lift (Keeps.modify fun w => hv w _ w.stores)) fun _ => Keeps.pure _

theorem keeps_saveBoard (store : String) (b : Score.Board) :
    Keeps view (saveBoard store b).run := by
  refine Keeps.bindAct (keeps_storeAt view store) fun s => ?_
  refine Keeps.bindAct (keeps_saveIn hv s b) fun _ => ?_
  exact Keeps.lift (Keeps.modify fun w => hv w w.files _)

/-- Keeping scores reaches nothing but the shelf. -/
theorem keeps_keepScores (s : Station) : Keeps view (keepScores s).run := by
  unfold keepScores
  cases s.store with
  | none => exact Keeps.pure _
  | some store =>
    refine Keeps.bindAct ?_ fun b => keeps_saveBoard hv store b
    exact Keeps.bindAct (keeps_lockedGame view _) fun _ => Keeps.pure _

end shelf

/-- Rousing reaches nothing but those who wait. -/
theorem keeps_rouse {β : Type} {view : World → β}
    (hv : ∀ w waiters, view { w with waiters } = view w) (s : Station)
    (r : Game.Reply Game.Done) : Keeps view (rouse s r) :=
  Keeps.modify fun w => hv w _

theorem keeps_follow (s : Station) (r : Game.Reply Game.Done) : Keeps games (follow s r) := by
  refine (keeps_rouse (fun _ _ => rfl) s r).bind fun _ => ?_
  refine (keeps_announce (fun _ _ => rfl) s r.events).bind fun _ => ?_
  split_ifs
  · exact (keeps_keepScores (fun _ _ _ => rfl) s).bind fun _ => Keeps.pure _
  · exact Keeps.pure _

end Rota.World
