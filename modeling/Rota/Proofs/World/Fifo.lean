import Rota.Proofs.World.Queues

namespace Rota.World

open Log (Journal Record)

/-- A call on a queue. -/
inductive QueueCall
  | tryPush (r : Record)
  | push (r : Record)
  | pushTimeout (r : Record)
  | pop

inductive Answer
  /-- Whether there was room. -/
  | room (found : Bool)
  | record (r : Record)

namespace QueueCall

/-- The call through the mapping under a label. -/
def act (label : String) : QueueCall → Act Answer
  | .tryPush r => return .room (← World.tryPush label r)
  | .push r => do
    World.push label r
    return .room true
  | .pushTimeout r => return .room (← World.pushTimeout label r)
  | .pop => return .record (← World.pop label)

/-- The journal of a queue once the call has been answered. -/
def entered (j : Journal) : QueueCall → Answer → Journal
  | .tryPush r, .room true | .push r, .room true | .pushTimeout r, .room true =>
    { j with accepted := j.accepted ++ [r] }
  | .tryPush _, .room false => { j with refused := j.refused + 1 }
  | .pop, .record r => { j with popped := j.popped ++ [r] }
  | _, _ => j

end QueueCall

/-- What is done with queues: they are mapped under labels, and called on through these. -/
inductive Use
  | create (label name : String)
  | attach (label name : String)
  | drop (label : String)
  | call (label : String) (c : QueueCall)

def Use.act : Use → Act Unit
  | .create label name => createQueue label name
  | .attach label name => attachQueue label name
  | .drop label => World.drop label
  | .call label c => do let _ ← c.act label

/-- The journal of the queue in `cell` after a use, which goes into it if it is an answered call on
this queue. -/
def Use.entered (w : World) (cell : Nat) (j : Journal) : Use → Journal
  | .call label c =>
    if w.queueAt? label = some cell then
      match ((c.act label).run.run w).1 with
      | .ok answer => c.entered j answer
      | .error _ => j
    else j
  | _ => j

/-- The world and the journal of the queue in `cell` after a use. -/
def used (cell : Nat) (s : World × Journal) (u : Use) : World × Journal :=
  ((u.act.run.run s.1).2, u.entered s.1 cell s.2)

/-- The world after all uses of a list, and the journal of the queue in `cell`, which starts empty. -/
def usedAll (cell : Nat) (w : World) (uses : List Use) : World × Journal :=
  uses.foldl (used cell) (w, {})

namespace Serving

variable {w : World} {bare : String} {cell : Nat} {j : Journal} (h : w.Serving bare cell j)
  {label : String} (c : QueueCall)
include h

theorem act_elsewhere (hl : w.queueAt? label ≠ some cell) :
    ((c.act label).run.run w).2.Serving bare cell j := by
  cases c with
  | tryPush r =>
    rw [QueueCall.act, run_bind_pure]
    exact h.onQueueAt hl _
  | push r =>
    rw [QueueCall.act, run_bind_pure]
    dsimp only
    rw [snd_run_push]
    exact h.onQueueAt hl _
  | pushTimeout r =>
    rw [QueueCall.act, run_bind_pure]
    exact h.onQueueAt hl _
  | pop =>
    rw [QueueCall.act, run_bind_pure]
    dsimp only
    rw [snd_run_pop]
    exact h.onQueueAt hl _

theorem filled (r : Record) (hroom : j.waiting.length < Log.capacity) :
    (w.withQueue cell ((w.queue cell).filled r)).Serving bare cell
      { j with accepted := j.accepted ++ [r] } :=
  h.withQueue (h.tallied.filled r (h.tallied.length_waiting ▸ hroom))

/-- A call on the queue is a step of the list that the queue stands for. -/
theorem act_here (hl : w.queueAt? label = some cell) :
    ((c.act label).run.run w).2.Serving bare cell
      (match ((c.act label).run.run w).1 with
        | .ok answer => c.entered j answer
        | .error _ => j) := by
  cases c with
  | tryPush r =>
    rw [QueueCall.act, run_bind_pure]
    rcases Nat.lt_or_eq_of_le h.tallied.length_waiting_le with hroom | hfull
    · rw [h.tryPush_of_room hl r hroom]
      exact h.filled r hroom
    · rw [h.tryPush_of_full hl r hfull]
      exact h.withQueue h.tallied.refused
  | push r =>
    rw [QueueCall.act, run_bind_pure]
    rcases Nat.lt_or_eq_of_le h.tallied.length_waiting_le with hroom | hfull
    · rw [h.push_of_room hl r hroom]
      exact h.filled r hroom
    · rw [h.push_of_full hl r hfull]
      exact h.withQueue h.tallied
  | pushTimeout r =>
    rw [QueueCall.act, run_bind_pure]
    rcases Nat.lt_or_eq_of_le h.tallied.length_waiting_le with hroom | hfull
    · rw [h.pushTimeout_of_room hl r hroom]
      exact h.filled r hroom
    · rw [h.pushTimeout_of_full hl r hfull]
      exact h.withQueue h.tallied
  | pop =>
    rw [QueueCall.act, run_bind_pure]
    cases hj : j.waiting with
    | nil =>
      rw [h.pop_of_nil hl hj]
      exact h.withQueue h.tallied
    | cons first rest =>
      have hcontents : (w.queue cell).contents = first.kept :: rest.map Record.kept := by
        rw [h.tallied.contents_eq, hj, List.map_cons]
      rw [h.pop_of_cons hl hj]
      exact h.withQueue (h.tallied.emptied hcontents)

end Serving

/-- What is done with queues leaves the queue in `cell` as its journal says. -/
theorem Serving.used {bare : String} {cell : Nat} {s : World × Journal}
    (h : s.1.Serving bare cell s.2) (u : Use) :
    (used cell s u).1.Serving bare cell (used cell s u).2 := by
  cases u with
  | create label name => exact h.createQueue label name
  | attach label name => exact h.attachQueue label name
  | drop label => exact h.drop label
  | call label c =>
    have hworld : (World.used cell s (.call label c)).1 = ((c.act label).run.run s.1).2 := by
      dsimp only [World.used, Use.act]
      rw [run_bind_pure]
    rw [hworld]
    dsimp only [World.used, Use.entered]
    split_ifs with hl
    · exact h.act_here c hl
    · exact h.act_elsewhere c hl

theorem Serving.usedAll {bare : String} {cell : Nat} {w : World} (h : w.Serving bare cell {})
    (uses : List Use) :
    (usedAll cell w uses).1.Serving bare cell (usedAll cell w uses).2 := by
  have hall (s : World × Journal) (hs : s.1.Serving bare cell s.2) :
      (uses.foldl (World.used cell) s).1.Serving bare cell (uses.foldl (World.used cell) s).2 := by
    induction uses generalizing s with
    | nil => exact hs
    | cons u uses ih => exact ih _ (hs.used u)
  exact hall (w, {}) h

/-- A queue as those see it who use it: a list of at most ten records, whose journal is `j`. -/
structure Bounded (w : World) (bare : String) (cell : Nat) (j : Journal) : Prop where
  /-- All mappings of the name, made by whichever call, are of this queue and leave it alone. -/
  shared : ∀ label name, Region.bareName? name = some bare →
    ∀ act ∈ [createQueue label name, attachQueue label name], ∃ w', act.run.run w = (.ok (), w') ∧
      w'.queueAt? label = some cell ∧ w'.queue cell = w.queue cell
  atMost : j.waiting.length ≤ Log.capacity
  popped_le : j.popped.length ≤ j.accepted.length
  popped : List.Forall₂ Record.Keeps (j.accepted.take j.popped.length) j.popped
  counts : (w.queue cell).free.value + (w.queue cell).used.value = Log.capacity
  tail : (w.queue cell).tail.val =
    ((w.queue cell).head.val + (w.queue cell).used.value) % Log.capacity
  viewed : ∀ label, w.queueAt? label = some cell → ∃ v, ((viewQueue label).run.run w).1 = .ok v ∧
    v.pending = j.accepted.length - j.popped.length ∧ v.dropped = .ofNat j.refused ∧
    (j.refused < UInt64.size → v.dropped.toNat = j.refused)
  tried : ∀ label r, w.queueAt? label = some cell →
    ((tryPush label r).run.run w).1 = .ok (decide (j.waiting.length < Log.capacity))
  timed : ∀ label r, w.queueAt? label = some cell →
    ((pushTimeout label r).run.run w).1 = .ok (decide (j.waiting.length < Log.capacity))
  pushed : ∀ label r, w.queueAt? label = some cell →
    ((push label r).run.run w).1 =
      if j.waiting.length < Log.capacity then .ok () else .error .blocks
  next : ∀ label, w.queueAt? label = some cell →
    ((pop label).run.run w).1 = j.waiting.head?.elim (.error .blocks) fun r => .ok r.kept
  /-- A call that is turned away changes nothing, except that one that does not wait is counted. -/
  turnedAway : ∀ label r, w.queueAt? label = some cell → j.waiting.length = Log.capacity →
    ((tryPush label r).run.run w).2 =
        w.withQueue cell { w.queue cell with dropped := (w.queue cell).dropped + 1 } ∧
      ((pushTimeout label r).run.run w).2 = w.withQueue cell (w.queue cell) ∧
      ((push label r).run.run w).2 = w.withQueue cell (w.queue cell)

namespace Serving

variable {w : World} {bare : String} {cell : Nat} {j : Journal} (h : w.Serving bare cell j)
include h

theorem shared (label : String) {name : String} (hb : Region.bareName? name = some bare) :
    ∀ act ∈ [World.createQueue label name, World.attachQueue label name],
      ∃ w', act.run.run w = (.ok (), w') ∧
        w'.queueAt? label = some cell ∧ w'.queue cell = w.queue cell := by
  have hput : ∃ w', ((World.put label (.queue ⟨name, cell, queueLayout.size⟩)).run w).2 = w' ∧
      w'.queueAt? label = some cell ∧ w'.queue cell = w.queue cell := by
    refine ⟨_, rfl, h.quiet.queueAt?_put label _, ?_⟩
    obtain ⟨gates, hrun⟩ := h.quiet.run_put label (.queue ⟨name, cell, queueLayout.size⟩)
    rw [hrun]
    rfl
  obtain ⟨w', hw', hfacts⟩ := hput
  intro act hact
  refine ⟨w', ?_, hfacts⟩
  rcases List.mem_pair.mp hact with rfl | rfl
  · have hopen := run_openOrMakeQueue w name
    rw [h.housed.createAs_self hb (by decide)] at hopen
    rw [World.createQueue, run_bind_of_ok hopen, ← hw']
    rfl
  · have hopen := run_openQueue w name
    rw [h.housed.openAs_self hb] at hopen
    rw [World.attachQueue, run_bind_of_ok hopen, ← hw']
    rfl

theorem viewed {label : String} (hl : w.queueAt? label = some cell) :
    ∃ v, ((viewQueue label).run.run w).1 = .ok v ∧
      v.pending = j.accepted.length - j.popped.length ∧ v.dropped = .ofNat j.refused ∧
      (j.refused < UInt64.size → v.dropped.toNat = j.refused) := by
  obtain ⟨m, hm, rfl⟩ := run_queueAt hl
  have hpending := run_onQueue w m.cell fun q => (q.pending, q)
  rw [Log.Queue.pending_eq h.tallied.inStep] at hpending
  have hdropped : ((w.withQueue m.cell (w.queue m.cell)).queue m.cell).dropped =
      .ofNat j.refused := by
    rw [queue_withQueue_self]
    exact h.tallied.dropped
  rw [viewQueue, run_bind_of_ok hm, run_bind_of_ok hpending]
  refine ⟨_, rfl, ?_, ?_, ?_⟩
  · rw [← h.tallied.length_waiting, Journal.waiting, List.length_drop]
  · exact hdropped
  · intro hlt
    exact (congrArg UInt64.toNat hdropped).trans (UInt64.toNat_ofNat_of_lt' hlt)

theorem bounded : w.Bounded bare cell j where
  shared label _ hb := h.shared label hb
  atMost := h.tallied.length_waiting_le
  popped_le := h.tallied.length_popped_le
  popped := h.tallied.keeps_popped
  counts := h.tallied.inStep.counts
  tail := congrArg Fin.val h.tallied.inStep.tail
  viewed _ hl := h.viewed hl
  tried label r hl := by
    rcases Nat.lt_or_eq_of_le h.tallied.length_waiting_le with hroom | hfull
    · rw [h.tryPush_of_room hl r hroom, decide_eq_true hroom]
    · rw [h.tryPush_of_full hl r hfull, hfull]
      rfl
  timed label r hl := by
    rcases Nat.lt_or_eq_of_le h.tallied.length_waiting_le with hroom | hfull
    · rw [h.pushTimeout_of_room hl r hroom, decide_eq_true hroom]
    · rw [h.pushTimeout_of_full hl r hfull, hfull]
      rfl
  pushed label r hl := by
    rcases Nat.lt_or_eq_of_le h.tallied.length_waiting_le with hroom | hfull
    · rw [h.push_of_room hl r hroom, if_pos hroom]
    · rw [h.push_of_full hl r hfull, hfull, if_neg (Nat.lt_irrefl _)]
  next label hl := by
    cases hj : j.waiting with
    | nil => rw [h.pop_of_nil hl hj, List.head?_nil, Option.elim_none]
    | cons first rest => rw [h.pop_of_cons hl hj, List.head?_cons, Option.elim_some]
  turnedAway label r hl hfull := by
    refine ⟨?_, ?_, ?_⟩
    · rw [h.tryPush_of_full hl r hfull]
    · rw [h.pushTimeout_of_full hl r hfull]
    · rw [h.push_of_full hl r hfull]

end Serving

/-- However a queue is mapped and called on, it is a list of at most ten records. -/
theorem bounded_usedAll {w : World} (hw : w.Quiet) {name bare : String}
    (hb : Region.bareName? name = some bare) (hn : w.space.entry? bare = none)
    (hq : w.queues.get? w.space.cells.length = none) (label : String) (uses : List Use) :
    ∃ start cell, (createQueue label name).run.run w = (.ok (), start) ∧
      start.queueAt? label = some cell ∧
      (usedAll cell start uses).1.Bounded bare cell (usedAll cell start uses).2 := by
  obtain ⟨start, hrun, hlabel, hserving⟩ := serving_createQueue hw hb hn hq label
  exact ⟨start, _, hrun, hlabel, (hserving.usedAll uses).bounded⟩

theorem bounded_usedAll_of_overflow :
    ∃ uses : List Use,
      uses = .attach "b" "q" :: List.replicate 11 (.call "b" (.tryPush { text := "tell" })) ++
        [.drop "a", .call "b" .pop, .call "b" (.push { text := "last", pid := 3 })] ∧
      Quiet {} ∧ Region.bareName? "/q" = some "q" ∧ Region.Space.entry? {} "q" = none ∧
      ({} : World).queues.get? 0 = none ∧
      ∃ start, (createQueue "a" "/q").run.run {} = (.ok (), start) ∧
        (usedAll 0 start uses).1.Bounded "q" 0 (usedAll 0 start uses).2 ∧
        (usedAll 0 start uses).2.accepted.length = 11 ∧ (usedAll 0 start uses).2.refused = 1 ∧
        (usedAll 0 start uses).2.popped = [{ text := "tell" }] := by
  have hquiet : Quiet {} := fun _ _ _ h => nomatch h
  have hbare : Region.bareName? "/q" = some "q" := by decide +kernel
  obtain ⟨uses, huses⟩ : ∃ uses : List Use,
      uses = .attach "b" "q" :: List.replicate 11 (.call "b" (.tryPush { text := "tell" })) ++
        [.drop "a", .call "b" .pop, .call "b" (.push { text := "last", pid := 3 })] := ⟨_, rfl⟩
  obtain ⟨start, cell, hrun, hlabel, hbounded⟩ :=
    bounded_usedAll hquiet hbare rfl rfl "a" uses
  have hstart : start = ((createQueue "a" "/q").run.run {}).2 := (congrArg Prod.snd hrun).symm
  have hcell : cell = 0 := by
    have hzero : start.queueAt? "a" = some 0 := by
      rw [hstart]
      decide +kernel
    exact Option.some.inj (hlabel.symm.trans hzero)
  rw [hcell] at hbounded
  refine ⟨uses, huses, hquiet, hbare, rfl, rfl, start, hrun, hbounded, ?_, ?_, ?_⟩
  all_goals
    rw [hstart, huses]
    decide +kernel

end Rota.World
