import Rota.Proofs.Log.Journal
import Rota.Proofs.Region.Head
import Rota.Proofs.World.Labels

namespace Rota.World

open Log (Journal Record)

/-- The queue that a label stands for. -/
def queueAt? (w : World) (label : String) : Option Nat :=
  ((w.objects.get? label).bind (·.2.queue?)).map (·.cell)

/-- The world with another queue in `cell`. -/
def withQueue (w : World) (cell : Nat) (q : Log.Queue) : World :=
  { w with queues := w.queues.set cell q }

@[simp]
theorem queue_withQueue_self (w : World) (cell : Nat) (q : Log.Queue) :
    (w.withQueue cell q).queue cell = q := by
  rw [queue, withQueue, Register.get?_set_self, Option.getD_some]

theorem queue_withQueue_of_ne (w : World) {cell other : Nat} (q : Log.Queue) (h : other ≠ cell) :
    (w.withQueue cell q).queue other = w.queue other := by
  rw [queue, queue, withQueue, Register.get?_set_of_ne _ _ h]

theorem run_onQueue {α : Type} (w : World) (cell : Nat) (step : Log.Queue.Step α) :
    (onQueue cell step).run.run w =
      ((step (w.queue cell)).1.mapError (.log ∘ .primitive),
        w.withQueue cell (step (w.queue cell)).2) := by
  rw [onQueue, run_bind_of_ok (run_get w)]
  rcases step (w.queue cell) with ⟨_ | _, q⟩ <;> rfl

theorem run_queueAt_of_none {w : World} {label : String} (h : w.queueAt? label = none) :
    (queueAt label).run.run w = (.error (.missing label), w) :=
  run_bind_of_error (run_pick_of_none (Option.map_eq_none_iff.mp h))

theorem run_queueAt {w : World} {label : String} {cell : Nat} (h : w.queueAt? label = some cell) :
    ∃ m, (queueAt label).run.run w = (.ok m, w) ∧ m.cell = cell := by
  obtain ⟨m, hm, rfl⟩ := Option.map_eq_some_iff.mp h
  obtain ⟨e, ho, hview⟩ := Option.bind_eq_some_iff.mp hm
  exact ⟨m, run_bind_of_ok (run_pick ho hview), rfl⟩

section calls

variable {w : World} {label : String} {cell : Nat} (h : w.queueAt? label = some cell)
include h

theorem run_tryPush (r : Record) :
    (tryPush label r).run.run w =
      ((Log.Queue.tryPush r (w.queue cell)).1.mapError (.log ∘ .primitive),
        w.withQueue cell (Log.Queue.tryPush r (w.queue cell)).2) := by
  obtain ⟨m, hm, rfl⟩ := run_queueAt h
  rw [tryPush, run_bind_of_ok hm, run_onQueue]

theorem run_pushTimeout (r : Record) :
    (pushTimeout label r).run.run w =
      ((Log.Queue.offer r (w.queue cell)).1.mapError (.log ∘ .primitive),
        w.withQueue cell (Log.Queue.offer r (w.queue cell)).2) := by
  obtain ⟨m, hm, rfl⟩ := run_queueAt h
  rw [pushTimeout, run_bind_of_ok hm, run_onQueue]

theorem run_push (r : Record) (q : Log.Queue) (found : Bool)
    (ho : Log.Queue.offer r (w.queue cell) = (.ok found, q)) :
    (push label r).run.run w = (if found then .ok () else .error .blocks, w.withQueue cell q) := by
  have hrun := run_pushTimeout h r
  rw [ho] at hrun
  rw [push, run_bind_of_ok hrun]
  cases found <;> rfl

theorem run_pop (a : Option Record) (q : Log.Queue)
    (hp : (w.queue cell).pop = (.ok a, q)) :
    (pop label).run.run w = (a.elim (.error .blocks) .ok, w.withQueue cell q) := by
  obtain ⟨m, hm, rfl⟩ := run_queueAt h
  have hon := run_onQueue w m.cell Log.Queue.pop
  rw [hp] at hon
  have hrun : ((queueAt label) >>= fun m => onQueue m.cell Log.Queue.pop : Act _).run.run w =
      (.ok a, w.withQueue m.cell q) := (run_bind_of_ok hm).trans hon
  change ((queueAt label) >>= fun m => onQueue m.cell Log.Queue.pop >>= _ : Act _).run.run w = _
  rw [← bind_assoc, run_bind_of_ok hrun]
  cases a <;> rfl

end calls

theorem run_openOrMakeQueue (w : World) (name : String) :
    (openOrMakeQueue name).run.run w =
      match w.space.createAs name queueLayout Region.Space.unfilled with
      | (.ok (m, true), sp) =>
        (.ok m, { w with space := sp }.withQueue m.cell (w.queue m.cell).init)
      | (.ok (m, false), sp) => (.ok m, { w with space := sp })
      | (.error f, sp) => (.error (.log (.region f)), { w with space := sp }) := by
  change ((ofLog (w.space.createAs name queueLayout Region.Space.unfilled).1) >>= _ :
    Act _).run.run
      { w with space := (w.space.createAs name queueLayout Region.Space.unfilled).2 } = _
  rcases w.space.createAs name queueLayout Region.Space.unfilled with ⟨_ | ⟨m, _ | _⟩, sp⟩ <;> rfl

theorem run_openQueue (w : World) (name : String) :
    (openQueue name).run.run w =
      ((w.space.openAs name queueLayout).mapError (.log ∘ .region), w) := by
  change (ofLog (w.space.openAs name queueLayout)).run.run w = _
  cases w.space.openAs name queueLayout <;> rfl

/-- A queue is laid out under a name, holds what its journal says, and no logger takes from it. -/
structure Serving (w : World) (bare : String) (cell : Nat) (j : Journal) : Prop where
  quiet : w.Quiet
  housed : w.space.Houses bare cell queueLayout
  tallied : (w.queue cell).Tallies j

theorem Quiet.queueAt?_put {w : World} (hw : w.Quiet) (label : String) (m : Region.Mapping) :
    ((put label (.queue m)).run w).2.queueAt? label = some m.cell := by
  obtain ⟨gates, hrun⟩ := hw.run_put label (.queue m)
  rw [hrun, queueAt?, Register.get?_set_self]
  rfl

namespace Serving

variable {w : World} {bare : String} {cell : Nat} {j : Journal} (h : w.Serving bare cell j)
include h

theorem withQueue {j' : Journal} {q : Log.Queue} (hq : q.Tallies j') :
    (w.withQueue cell q).Serving bare cell j' :=
  ⟨h.quiet, h.housed, (queue_withQueue_self w cell q).symm ▸ hq⟩

theorem withQueue_of_ne {other : Nat} (q : Log.Queue) (hne : cell ≠ other) :
    (w.withQueue other q).Serving bare cell j :=
  ⟨h.quiet, h.housed, (queue_withQueue_of_ne w q hne).symm ▸ h.tallied⟩

theorem put (label : String) (m : Region.Mapping) :
    ((put label (.queue m)).run w).2.Serving bare cell j := by
  obtain ⟨gates, hrun⟩ := h.quiet.run_put label (.queue m)
  rw [hrun]
  refine ⟨fun other serial l => ?_, h.housed, h.tallied⟩
  rw [Register.get?_set]
  split_ifs
  · intro hl
    cases hl
  · exact h.quiet other serial l

theorem drop (label : String) : ((drop label).run.run w).2.Serving bare cell j := by
  obtain ⟨gates, hrun⟩ := h.quiet.run_drop label
  rw [hrun]
  refine ⟨fun other serial l => ?_, h.housed, h.tallied⟩
  rw [Register.get?_erase]
  split_ifs
  · intro hl
    cases hl
  · exact h.quiet other serial l

theorem openOrMake (name : String) :
    ((openOrMakeQueue name).run.run w).2.Serving bare cell j := by
  obtain ⟨hhoused, hfresh⟩ := h.housed.createAs name queueLayout
  rw [run_openOrMakeQueue]
  rcases hr : w.space.createAs name queueLayout Region.Space.unfilled with ⟨_ | ⟨m, _ | _⟩, sp⟩
  · rw [hr] at hhoused
    exact ⟨h.quiet, hhoused, h.tallied⟩
  · rw [hr] at hhoused
    exact ⟨h.quiet, hhoused, h.tallied⟩
  · rw [hr] at hhoused hfresh
    have hserving : Serving { w with space := sp } bare cell j := ⟨h.quiet, hhoused, h.tallied⟩
    exact hserving.withQueue_of_ne _ (hfresh m rfl).symm

theorem createQueue (label name : String) :
    ((createQueue label name).run.run w).2.Serving bare cell j := by
  have hmade := h.openOrMake name
  rcases hr : (openOrMakeQueue name).run.run w with ⟨f | m, w'⟩
  · rw [hr] at hmade
    rw [World.createQueue, run_bind_of_error hr]
    exact hmade
  · rw [hr] at hmade
    rw [World.createQueue, run_bind_of_ok hr]
    exact hmade.put label m

theorem attachQueue (label name : String) :
    ((attachQueue label name).run.run w).2.Serving bare cell j := by
  have hr := run_openQueue w name
  rcases ho : w.space.openAs name queueLayout with f | m
  · rw [ho] at hr
    rw [World.attachQueue, run_bind_of_error hr]
    exact h
  · rw [ho] at hr
    rw [World.attachQueue, run_bind_of_ok hr]
    exact h.put label m

section calls

variable {label : String} (hl : w.queueAt? label = some cell) (r : Record)
include hl

section full

variable (hfull : j.waiting.length = Log.capacity)
include hfull

theorem tryPush_of_full :
    (tryPush label r).run.run w =
      (.ok false,
        w.withQueue cell { w.queue cell with dropped := (w.queue cell).dropped + 1 }) := by
  rw [run_tryPush hl,
    Log.Queue.tryPush_of_full h.tallied.inStep r (h.tallied.length_waiting ▸ hfull)]
  rfl

theorem pushTimeout_of_full :
    (pushTimeout label r).run.run w = (.ok false, w.withQueue cell (w.queue cell)) := by
  rw [run_pushTimeout hl,
    Log.Queue.offer_of_full h.tallied.inStep r (h.tallied.length_waiting ▸ hfull)]
  rfl

theorem push_of_full :
    (push label r).run.run w = (.error .blocks, w.withQueue cell (w.queue cell)) :=
  run_push hl r _ false
    (Log.Queue.offer_of_full h.tallied.inStep r (h.tallied.length_waiting ▸ hfull))

end full

section room

variable (hroom : j.waiting.length < Log.capacity)
include hroom

theorem tryPush_of_room :
    (tryPush label r).run.run w = (.ok true, w.withQueue cell ((w.queue cell).filled r)) := by
  rw [run_tryPush hl,
    Log.Queue.tryPush_of_room h.tallied.inStep r (h.tallied.length_waiting ▸ hroom)]
  rfl

theorem pushTimeout_of_room :
    (pushTimeout label r).run.run w = (.ok true, w.withQueue cell ((w.queue cell).filled r)) := by
  rw [run_pushTimeout hl,
    Log.Queue.offer_of_room h.tallied.inStep r (h.tallied.length_waiting ▸ hroom)]
  rfl

theorem push_of_room :
    (push label r).run.run w = (.ok (), w.withQueue cell ((w.queue cell).filled r)) :=
  run_push hl r _ true
    (Log.Queue.offer_of_room h.tallied.inStep r (h.tallied.length_waiting ▸ hroom))

end room

omit r in
theorem pop_of_nil (hnil : j.waiting = []) :
    (pop label).run.run w = (.error .blocks, w.withQueue cell (w.queue cell)) := by
  have hempty : (w.queue cell).contents = [] := by rw [h.tallied.contents_eq, hnil, List.map_nil]
  exact run_pop hl none _ (Log.Queue.pop_of_nil h.tallied.inStep hempty)

omit r in
theorem pop_of_cons {first : Record} {rest : List Record} (hcons : j.waiting = first :: rest) :
    (pop label).run.run w = (.ok first.kept, w.withQueue cell (w.queue cell).emptied) := by
  have hcontents : (w.queue cell).contents = first.kept :: rest.map Record.kept := by
    rw [h.tallied.contents_eq, hcons, List.map_cons]
  exact run_pop hl (some first.kept) _ (Log.Queue.pop_of_cons h.tallied.inStep hcontents).1

end calls

end Serving

theorem snd_run_push (w : World) (label : String) (r : Record) :
    ((push label r).run.run w).2 = ((pushTimeout label r).run.run w).2 := by
  rcases hr : (pushTimeout label r).run.run w with ⟨_ | _ | _, w'⟩
  · rw [push, run_bind_of_error hr]
  · rw [push, run_bind_of_ok hr]
    rfl
  · rw [push, run_bind_of_ok hr]
    rfl

theorem snd_run_pop (w : World) (label : String) :
    ((pop label).run.run w).2 =
      ((queueAt label >>= fun m => onQueue m.cell Log.Queue.pop : Act _).run.run w).2 := by
  change ((queueAt label >>= fun m => onQueue m.cell Log.Queue.pop >>= _ : Act _).run.run w).2 = _
  rw [← bind_assoc]
  rcases hr : (queueAt label >>= fun m => onQueue m.cell Log.Queue.pop : Act _).run.run w with
    ⟨_ | _ | _, w'⟩
  · rw [run_bind_of_error hr]
  · rw [run_bind_of_ok hr]
    rfl
  · rw [run_bind_of_ok hr]
    rfl

/-- What is done to other queues is nothing to this one. -/
theorem Serving.onQueueAt {α : Type} {w : World} {bare : String} {cell : Nat} {j : Journal}
    (h : w.Serving bare cell j) {label : String} (hl : w.queueAt? label ≠ some cell)
    (step : Log.Queue.Step α) :
    ((queueAt label >>= fun m => onQueue m.cell step : Act α).run.run w).2.Serving bare cell j := by
  cases hq : w.queueAt? label with
  | none =>
    rw [run_bind_of_error (run_queueAt_of_none hq)]
    exact h
  | some other =>
    obtain ⟨m, hm, rfl⟩ := run_queueAt hq
    rw [run_bind_of_ok hm, run_onQueue]
    exact h.withQueue_of_ne _ fun he => hl (hq.trans (congrArg some he.symm))

/-- A queue that is made under a new name is empty. -/
theorem serving_createQueue {w : World} (hw : w.Quiet) {name bare : String}
    (hb : Region.bareName? name = some bare) (hn : w.space.entry? bare = none)
    (hq : w.queues.get? w.space.cells.length = none) (label : String) :
    ∃ start, (createQueue label name).run.run w = (.ok (), start) ∧
      start.queueAt? label = some w.space.cells.length ∧
      start.Serving bare w.space.cells.length {} := by
  have hle : queueLayout.size ≤ Region.largestSize := by decide
  have hopen := run_openOrMakeQueue w name
  rw [Region.Space.createAs_of_absent hb hn (by decide) hle] at hopen
  obtain ⟨sp, hsp⟩ : ∃ sp, sp = ((w.space.made bare queueLayout.size).claim
    w.space.cells.length).layOut w.space.cells.length queueLayout := ⟨_, rfl⟩
  have hhoused : sp.Houses bare w.space.cells.length queueLayout :=
    hsp ▸ Region.Space.houses_made w.space bare hle
  have hempty : (w.queue w.space.cells.length).init = .new := by
    rw [queue, hq, Option.getD_none]
    rfl
  rw [← hsp] at hopen
  dsimp only at hopen
  rw [hempty] at hopen
  have hmade : Serving ({ w with space := sp }.withQueue w.space.cells.length .new) bare
      w.space.cells.length {} :=
    ⟨hw, hhoused, (queue_withQueue_self _ _ _).symm ▸ Log.Queue.tallies_new⟩
  rw [createQueue, run_bind_of_ok hopen]
  exact ⟨_, rfl, hmade.quiet.queueAt?_put label _, hmade.put label _⟩

end Rota.World
