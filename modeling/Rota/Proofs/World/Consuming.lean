import Rota.Proofs.Log.Appending
import Rota.Proofs.World.Fifo

namespace Rota

/-- The logger as it was when it began. -/
def Logger.begun (l : Logger) : Logger := { l with written := 0, reading := true }

namespace World

open Log (Fate Journal Record)

/-- A queue at work: who uses it, what has gone through it, and the logger that reads it. -/
structure Scene where
  world : World
  journal : Journal
  logger : Logger

/-- What happens to a queue with a consumer of its own, from which nobody else takes. -/
inductive Beat
  | use (u : Use) (hpop : ∀ label, u ≠ .call label .pop)
  /-- A record is put in, if there is room, by somebody who has no label. -/
  | offer (r : Record)
  | tell (text : String)
  /-- The consumer takes its next record. -/
  | pass

namespace Scene

/-- The queue that the logger reads. -/
def cell (s : Scene) : Nat := s.logger.queue.cell

/-- The logger writes a line, or tries to. -/
def write (s : Scene) (line : String) (fate : Fate) : Scene :=
  match s.world.files.append s.logger.path (fate.trace line) with
  | .ok files =>
    { s with
      world := { s.world with files }
      logger := { s.logger with
        written := s.logger.written + if fate = .written then 1 else 0 } }
  | .error _ => s

/-- The consumer takes one record off the queue, if there is one. The marker ends its work, and of
anything else it writes the line. -/
def pass (time : Nat → Int64) (fate : Nat → Fate) (s : Scene) : Scene :=
  if s.logger.reading then
    let (answer, q) := (s.world.queue s.cell).pop
    let after := { s with world := s.world.withQueue s.cell q }
    match answer with
    | .ok (some r) =>
      let after := { after with journal := { s.journal with popped := s.journal.popped ++ [r] } }
      if r.kind = .shutdown then { after with logger := { s.logger with reading := false } }
      else
        let i := s.journal.popped.length
        after.write (Log.line (time i) r ++ "\n") (fate i)
    | _ => after
  else s

/-- The scene after a beat. The lines are written at the times and with the fates given for them. -/
def after (time : Nat → Int64) (fate : Nat → Fate) (s : Scene) : Beat → Scene
  | .use u _ =>
    let (world, journal) := used s.cell (s.world, s.journal) u
    { s with world, journal }
  | .offer r =>
    let (answer, world) := (onQueue s.cell (Log.Queue.offer r)).run.run s.world
    { s with
      world
      journal := match answer with
        | .ok found => (QueueCall.pushTimeout r).entered s.journal (.room found)
        | .error _ => s.journal }
  | .tell text =>
    let (told, world) := (tell s.cell text).run s.world
    { s with
      world
      journal := (QueueCall.tryPush (.message pid now text)).entered s.journal (.room told) }
  | .pass => s.pass time fate

def afterAll (time : Nat → Int64) (fate : Nat → Fate) (s : Scene) (beats : List Beat) : Scene :=
  beats.foldl (after time fate) s

end Scene

namespace Scene

variable (time : Nat → Int64) (fate : Nat → Fate) (s : Scene)

theorem begun_write (line : String) (f : Fate) :
    (s.write line f).logger.begun = s.logger.begun := by
  rw [write]
  split <;> rfl

theorem begun_pass : (s.pass time fate).logger.begun = s.logger.begun := by
  rw [pass]
  split_ifs
  · dsimp only
    split
    · split_ifs
      · rfl
      · rw [begun_write]
    · rfl
  · rfl

/-- A logger reads the same queue into the same file all the time. -/
theorem begun_afterAll (beats : List Beat) :
    (s.afterAll time fate beats).logger.begun = s.logger.begun := by
  induction beats generalizing s with
  | nil => rfl
  | cons b beats ih =>
    refine (ih (s.after time fate b)).trans ?_
    cases b with
    | pass => exact s.begun_pass time fate
    | use | offer | tell => rfl

end Scene

theorem keeps_queueCall {β : Type} {view : World → β}
    (hv : ∀ w queues, view { w with queues } = view w) (label : String) (c : QueueCall) :
    Keeps view (c.act label).run := by
  have hon {α : Type} (step : Log.Queue.Step α) :
      Keeps view (queueAt label >>= fun m => onQueue m.cell step : Act α).run :=
    .bindAct (.bindAct (keeps_pick _ _ label) fun _ => .pure _) fun m =>
      keeps_onQueue hv m.cell step
  cases c with
  | tryPush r => exact .bindAct (hon _) fun _ => .pure _
  | pushTimeout r => exact .bindAct (hon _) fun _ => .pure _
  | push r =>
    refine .bindAct (.bindAct (hon _) fun found => ?_) fun _ => .pure _
    cases found <;> exact .pure _
  | pop =>
    refine .bindAct ?_ fun _ => .pure _
    refine .bindAct (.bindAct (keeps_pick _ _ label) fun _ => .pure _) fun m => ?_
    refine .bindAct (keeps_onQueue hv m.cell _) fun r => ?_
    cases r <;> exact .pure _

/-- Mapping a queue under a label does not touch files, unless it ends a logger. -/
theorem Quiet.files_mapped {w : World} (hw : w.Quiet) {x : Act Region.Mapping}
    (hx : Keeps (fun w => (w.objects, w.files)) x.run) (label : String) :
    ((x >>= fun m => liftM (put label (.queue m)) : Act Unit).run.run w).2.files = w.files := by
  have hkept := hx w
  rcases hrun : x.run.run w with ⟨f | m, w'⟩
  · rw [run_bind_of_error hrun]
    rw [hrun] at hkept
    exact congrArg Prod.snd hkept
  · rw [run_bind_of_ok hrun]
    rw [hrun] at hkept
    obtain ⟨hobjects, hfiles⟩ := Prod.mk.inj hkept
    have hquiet : w'.Quiet := by
      intro other serial l
      rw [hobjects]
      exact hw other serial l
    obtain ⟨gates, hput⟩ := hquiet.run_put label (.queue m)
    change ((put label (.queue m)).run w').2.files = w.files
    rw [hput]
    exact hfiles

/-- Whoever uses queues does not touch files, unless it ends a logger. -/
theorem Quiet.files_used {w : World} (hw : w.Quiet) (cell : Nat) (j : Journal) (u : Use) :
    (used cell (w, j) u).1.files = w.files := by
  cases u with
  | create label name =>
    refine hw.files_mapped (x := openOrMakeQueue name) (fun w => ?_) label
    rw [run_openOrMakeQueue]
    rcases w.space.createAs name queueLayout Region.Space.unfilled with
      ⟨_ | ⟨_, _ | _⟩, _⟩ <;> rfl
  | attach label name =>
    refine hw.files_mapped (x := openQueue name) (fun w => ?_) label
    rw [run_openQueue]
  | drop label =>
    obtain ⟨gates, hrun⟩ := hw.run_drop label
    change ((drop label).run.run w).2.files = w.files
    rw [hrun]
  | call label c =>
    exact Keeps.bindAct (keeps_queueCall (fun _ _ => rfl) label c) (fun _ => .pure ()) w

/-- Between two scenes records have been put in, and nothing else has happened to the queue. -/
structure Scene.Fed (s t : Scene) : Prop where
  logger : t.logger = s.logger
  files : t.world.files = s.world.files
  popped : t.journal.popped = s.journal.popped
  accepted : s.journal.accepted <+: t.journal.accepted

theorem QueueCall.entered_of_ne_pop {c : QueueCall} (hc : c ≠ .pop) (j : Journal) (a : Answer) :
    (c.entered j a).popped = j.popped ∧ j.accepted <+: (c.entered j a).accepted := by
  have hmore (r : Record) : j.accepted <+: j.accepted ++ [r] := List.prefix_append _ _
  cases c with
  | pop => exact absurd rfl hc
  | tryPush r =>
    rcases a with ⟨_ | _⟩ | _
    · exact ⟨rfl, List.prefix_rfl⟩
    · exact ⟨rfl, hmore r⟩
    · exact ⟨rfl, List.prefix_rfl⟩
  | push r =>
    rcases a with ⟨_ | _⟩ | _
    · exact ⟨rfl, List.prefix_rfl⟩
    · exact ⟨rfl, hmore r⟩
    · exact ⟨rfl, List.prefix_rfl⟩
  | pushTimeout r =>
    rcases a with ⟨_ | _⟩ | _
    · exact ⟨rfl, List.prefix_rfl⟩
    · exact ⟨rfl, hmore r⟩
    · exact ⟨rfl, List.prefix_rfl⟩

namespace Serving

variable {w : World} {bare : String} {cell : Nat} {j : Journal} (h : w.Serving bare cell j)
include h

/-- A record is taken in if there is room. -/
theorem offer (r : Record) :
    ∃ q, (onQueue cell (Log.Queue.offer r)).run.run w =
        (.ok (decide (j.waiting.length < Log.capacity)), w.withQueue cell q) ∧
      (w.withQueue cell q).Serving bare cell
        ((QueueCall.pushTimeout r).entered j
          (.room (decide (j.waiting.length < Log.capacity)))) := by
  rw [run_onQueue]
  rcases Nat.lt_or_eq_of_le h.tallied.length_waiting_le with hroom | hfull
  · rw [decide_eq_true hroom,
      Log.Queue.offer_of_room h.tallied.inStep r (h.tallied.length_waiting ▸ hroom)]
    exact ⟨_, rfl, h.filled r hroom⟩
  · rw [decide_eq_false (by omega),
      Log.Queue.offer_of_full h.tallied.inStep r (h.tallied.length_waiting ▸ hfull)]
    exact ⟨_, rfl, h.withQueue h.tallied⟩

theorem tell (text : String) :
    ∃ told q, (tell cell text).run w = (told, w.withQueue cell q) ∧
      (w.withQueue cell q).Serving bare cell
        ((QueueCall.tryPush (.message pid now text)).entered j (.room told)) := by
  have hrun := run_onQueue w cell (Log.Queue.tryPush (.message pid now text))
  rcases Nat.lt_or_eq_of_le h.tallied.length_waiting_le with hroom | hfull
  · rw [Log.Queue.tryPush_of_room h.tallied.inStep _ (h.tallied.length_waiting ▸ hroom)] at hrun
    refine ⟨true, _, ?_, h.filled _ hroom⟩
    rw [World.tell, StateT.run_bind, hrun]
    rfl
  · rw [Log.Queue.tryPush_of_full h.tallied.inStep _ (h.tallied.length_waiting ▸ hfull)] at hrun
    refine ⟨false, _, ?_, h.withQueue h.tallied.refused⟩
    rw [World.tell, StateT.run_bind, hrun]
    rfl

end Serving

/-- A scene whose queue is as its journal says. -/
def Scene.Serves (s : Scene) (bare : String) : Prop := s.world.Serving bare s.cell s.journal

namespace Scene

variable {s : Scene} {bare : String}

theorem Serves.fed (h : s.Serves bare) (time : Nat → Int64) (fate : Nat → Fate) {b : Beat}
    (hb : b ≠ .pass) : (s.after time fate b).Serves bare ∧ s.Fed (s.after time fate b) := by
  cases b with
  | pass => exact absurd rfl hb
  | use u hpop =>
    have hserving := Serving.used (s := (s.world, s.journal)) h u
    have hentered : (u.entered s.world s.cell s.journal).popped = s.journal.popped ∧
        s.journal.accepted <+: (u.entered s.world s.cell s.journal).accepted := by
      cases u with
      | call label c =>
        rw [Use.entered]
        split_ifs
        · cases ((c.act label).run.run s.world).1 with
          | ok a => exact QueueCall.entered_of_ne_pop (fun hc => hpop label (hc ▸ rfl)) s.journal a
          | error f => exact ⟨rfl, List.prefix_rfl⟩
        · exact ⟨rfl, List.prefix_rfl⟩
      | _ => exact ⟨rfl, List.prefix_rfl⟩
    exact ⟨hserving, rfl, h.quiet.files_used s.cell s.journal u, hentered.1, hentered.2⟩
  | offer r =>
    obtain ⟨q, hrun, hserving⟩ := Serving.offer h r
    obtain ⟨hpopped, haccepted⟩ := QueueCall.entered_of_ne_pop (c := .pushTimeout r) nofun s.journal
      (.room (decide (s.journal.waiting.length < Log.capacity)))
    rw [after, hrun]
    exact ⟨hserving, rfl, rfl, hpopped, haccepted⟩
  | tell text =>
    obtain ⟨told, q, hrun, hserving⟩ := Serving.tell h text
    obtain ⟨hpopped, haccepted⟩ := QueueCall.entered_of_ne_pop
      (c := .tryPush (.message pid now text)) nofun s.journal (.room told)
    rw [after, hrun]
    exact ⟨hserving, rfl, rfl, hpopped, haccepted⟩

end Scene

end World
end Rota
