import Rota.Proofs.World.Loggers
import Rota.Proofs.World.Tallies

namespace Rota.World

open Region (Mapping)

/-- A queue is had by its name; one that had to be made is in step. -/
structure QueueHad (w : World) (name bare : String) (m : Mapping) (w' : World) : Prop where
  opened : w.space.Opened name bare m w'.space
  objects : w'.objects = w.objects
  inStep : w.space.entry? bare = none → w.queues.get? w.space.cells.length = none →
    (w'.queue m.cell).InStep

/-- A table is had by its name; one that had to be made is set up. -/
structure TableHad (w : World) (name bare : String) (m : Mapping) (w' : World) : Prop where
  opened : w.space.Opened name bare m w'.space
  objects : w'.objects = w.objects
  queues : w'.queues = w.queues
  setUp : w.space.entry? bare = none → (w'.games.get? m.cell).isSome

section opening

variable (w : World) (name : String)

theorem openOrMakeQueue_cases :
    (∃ f, (openOrMakeQueue name).run.run w = (.error (.log (.region f)), w)) ∨
      ∃ m bare w', (openOrMakeQueue name).run.run w = (.ok m, w') ∧
        w.QueueHad name bare m w' := by
  have hrun := run_openOrMakeQueue w name
  rcases hcreate : w.space.createAs name queueLayout Region.Space.unfilled with ⟨f | ⟨m, fresh⟩, sp⟩
  · rw [hcreate, Region.Space.createAs_error hcreate] at hrun
    exact .inl ⟨f, hrun⟩
  · obtain ⟨bare, hopened, hfresh⟩ := Region.Space.createAs_ok hcreate
    rw [hcreate] at hrun
    right
    cases fresh with
    | true =>
      refine ⟨m, bare, _, hrun, hopened, rfl, ?_⟩
      intro hn hq
      have hempty : (w.queue m.cell).init = .new := by
        rw [queue, hopened.made hn, hq]
        rfl
      rw [queue_withQueue_self, hempty]
      exact Log.Queue.inStep_new
    | false =>
      refine ⟨m, bare, _, hrun, hopened, rfl, ?_⟩
      intro hn
      exact absurd (hfresh hn) Bool.false_ne_true

theorem openOrMakeTable_cases (rules : Rules) (saved : Option Score.Board) :
    (∃ f, (openOrMakeTable name rules saved).run.run w = (.error f, w)) ∨
      ∃ m bare w', (openOrMakeTable name rules saved).run.run w = (.ok m, w') ∧
        w.TableHad name bare m w' := by
  cases hr : rules.fault? with
  | some f =>
    left
    refine ⟨.table (.rules f), ?_⟩
    rw [openOrMakeTable, hr]
    rfl
  | none =>
    have hrun := run_openOrMakeTable hr w name saved
    rcases hcreate : w.space.createAs name tableLayout Region.Space.unfilled with
      ⟨f | ⟨m, fresh⟩, sp⟩
    · rw [hcreate, Region.Space.createAs_error hcreate] at hrun
      exact .inl ⟨_, hrun⟩
    · obtain ⟨bare, hopened, hfresh⟩ := Region.Space.createAs_ok hcreate
      rw [hcreate] at hrun
      right
      cases fresh with
      | true =>
        refine ⟨m, bare, _, hrun, hopened, rfl, rfl, ?_⟩
        intro _
        show ((w.games.set m.cell _).get? m.cell).isSome
        rw [Register.get?_set_self]
        rfl
      | false =>
        refine ⟨m, bare, _, hrun, hopened, rfl, rfl, ?_⟩
        intro hn
        exact absurd (hfresh hn) Bool.false_ne_true

end opening

theorem run_loadBoard (w : World) (s : Score.Store) :
    (loadBoard s).run.run w = ((s.load w.files).mapError (.table ∘ .store), w) := by
  have hget : (get : Act World).run.run w = (.ok w, w) := rfl
  rw [loadBoard, run_bind_of_ok hget]
  cases s.load w.files <;> rfl

theorem run_openLogger (w : World) (queue : Mapping) (path : String) (ownsName : Bool) :
    (openLogger queue path ownsName).run.run w =
      match w.files.openToAppend path with
      | .error e => (.error (.log (.file e)), w)
      | .ok files => (.ok { queue, path, ownsName }, { w with files }) := by
  have hget : (get : Act World).run.run w = (.ok w, w) := rfl
  rw [openLogger, run_bind_of_ok hget]
  cases w.files.openToAppend path <;> rfl

/-- A logger with a queue of its own either does not get the queue, or gets it but not its file, or
stands under its label from then on. -/
inductive LoggerStart (w : World) (label name : String) : Except Fault Logger → World → Prop
  | refused (f : Region.Fault) : LoggerStart w label name (.error (.log (.region f))) w
  | unlogged {m : Mapping} {bare : String} {w' : World} (had : w.QueueHad name bare m w')
      (e : OsError) : LoggerStart w label name (.error (.log (.file e))) w'
  | started {bare : String} {l : Logger} {w₁ w₂ w' : World}
      (had : w.QueueHad name bare l.queue w₁) (others : w₁.Undisturbed w₂)
      (owns : l.ownsName = true) (stands : w' = w₂.withObject label (.logger l)) :
      LoggerStart w label name (.ok l) w'

theorem startLogger_cases {w : World} {label : String} (hnone : w.objects.get? label = none)
    (name path : String) :
    w.LoggerStart label name ((startLogger label name path).run.run w).1
      ((startLogger label name path).run.run w).2 := by
  obtain ⟨f, hqueue⟩ | ⟨m, bare, w₁, hqueue, hhad⟩ := openOrMakeQueue_cases w name
  · have hbegin : (beginLog name path).run.run w = (.error (.log (.region f)), w) := by
      rw [beginLog, run_bind_of_error hqueue]
    rw [startLogger, run_bind_of_error hbegin]
    exact .refused f
  · have hopen := run_openLogger w₁ m path true
    cases hfiles : w₁.files.openToAppend path with
    | error e =>
      rw [hfiles] at hopen
      have hbegin : (beginLog name path).run.run w = (.error (.log (.file e)), w₁) := by
        rw [beginLog, run_bind_of_ok hqueue, run_bind_of_error hopen]
      rw [startLogger, run_bind_of_error hbegin]
      exact .unlogged hhad e
    | ok files =>
      rw [hfiles] at hopen
      obtain ⟨l, hl⟩ : ∃ l : Logger, l = ⟨m, path, 0, true, true⟩ := ⟨_, rfl⟩
      obtain ⟨w₂, hw₂⟩ : ∃ w₂, w₂ = ((tell m.cell (banner name)).run { w₁ with files }).2 :=
        ⟨_, rfl⟩
      have hbegin : (beginLog name path).run.run w = (.ok l, w₂) := by
        rw [beginLog, run_bind_of_ok hqueue, run_bind_of_ok hopen, hl, hw₂]
        rfl
      have hothers : w₁.Undisturbed w₂ := by
        have hfiles : w₁.Undisturbed { w₁ with files } :=
          ⟨rfl, rfl, fun _ hg => hg, fun _ hq => hq⟩
        rw [hw₂]
        exact hfiles.trans (undisturbing_tell m.cell (banner name) _)
      have hfree : w₂.objects.get? label = none := by
        rw [hothers.objects, hhad.objects]
        exact hnone
      have hput : (liftM (put label (.logger l)) : Act Unit).run.run w₂ =
          (.ok (), w₂.withObject label (.logger l)) := by
        rw [run_liftM, run_put_of_none hfree]
      rw [startLogger, run_bind_of_ok hbegin, run_bind_of_ok hput]
      have hqueue : l.queue = m := by rw [hl]
      exact .started (hqueue ▸ hhad) hothers (by rw [hl]) rfl

end Rota.World
