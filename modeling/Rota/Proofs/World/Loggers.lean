import Rota.Proofs.World.Keeping
import Rota.Proofs.World.Queues
import Rota.World.Waiters

namespace Rota

namespace Log

open Queue (InStep)

section steps

variable {q : Queue} (hq : q.InStep)
include hq

theorem Queue.InStep.offer (r : Record) :
    ∃ found q', Queue.offer r q = (.ok found, q') ∧ q'.InStep := by
  have hcounts := hq.counts
  rcases Nat.lt_or_ge q.contents.length capacity with hroom | hfull
  · exact ⟨true, _, Queue.offer_of_room hq r hroom, Queue.InStep.filled hq r hroom⟩
  · have hlen : q.contents.length = capacity := by
      rw [Queue.length_contents] at hfull ⊢
      omega
    exact ⟨false, q, Queue.offer_of_full hq r hlen, hq⟩

theorem Queue.InStep.tryPush (r : Record) : (Queue.tryPush r q).2.InStep := by
  obtain ⟨found, q', hoffer, hq'⟩ := hq.offer r
  rw [Queue.tryPush, hoffer]
  cases found with
  | true => exact hq'
  | false => exact ⟨hq'.freeReady, hq'.usedReady, hq'.counts, hq'.tail⟩

theorem Queue.InStep.pop : (Queue.pop q).2.InStep := by
  cases hc : q.contents with
  | nil =>
    rw [Queue.pop_of_nil hq hc]
    exact hq
  | cons r rest =>
    rw [(Queue.pop_of_cons hq hc).1]
    apply Queue.InStep.emptied hq
    rw [hc]
    exact List.cons_ne_nil r rest

end steps

/-- A logger leaves a queue in step that it reads. -/
theorem inStep_drainUpTo (limit : Nat) {q : Queue} (hq : q.InStep) :
    (drainUpTo limit q).queue.InStep := by
  induction limit generalizing q with
  | zero => exact hq
  | succ limit ih =>
    have hpop := hq.pop
    unfold drainUpTo
    rcases hp : q.pop with ⟨f | _ | r, q'⟩
    all_goals rw [hp] at hpop
    · exact hpop
    · exact hpop
    · dsimp only
      split_ifs
      · exact hpop
      · exact ih hpop

theorem inStep_drain {q : Queue} (hq : q.InStep) : (drain q).queue.InStep := inStep_drainUpTo _ hq

end Log

/-- What an object is to others, however much of its log has been written. -/
def Object.gist (o : Object) : Option Station × Option (Region.Mapping × Bool) :=
  (o.station?, o.logger?.map fun l => (l.queue, l.ownsName))

namespace World

/-- Nothing has been mapped, freed or ended on the way from one world to another; tables that are
set up stay so, and queues that are in step stay in step. -/
structure Undisturbed (w w' : World) : Prop where
  space : w'.space = w.space
  objects : w'.objects = w.objects
  games : ∀ cell, (w.games.get? cell).isSome → (w'.games.get? cell).isSome
  queues : ∀ cell, (w.queue cell).InStep → (w'.queue cell).InStep

namespace Undisturbed

variable {w w' w'' : World}

theorem refl (w : World) : w.Undisturbed w := ⟨rfl, rfl, fun _ h => h, fun _ h => h⟩

theorem trans (h : w.Undisturbed w') (h' : w'.Undisturbed w'') : w.Undisturbed w'' where
  space := h'.space.trans h.space
  objects := h'.objects.trans h.objects
  games cell hg := h'.games cell (h.games cell hg)
  queues cell hq := h'.queues cell (h.queues cell hq)

theorem withQueue {cell : Nat} {q : Log.Queue} (hq : (w.queue cell).InStep → q.InStep) :
    w.Undisturbed (w.withQueue cell q) where
  space := rfl
  objects := rfl
  games _ hg := hg
  queues other ho := by
    by_cases he : other = cell
    · subst he
      rw [queue_withQueue_self]
      exact hq ho
    · rw [queue_withQueue_of_ne w q he]
      exact ho

end Undisturbed

/-- What an act must keep to leave the world undisturbed without more ado. -/
def premises (w : World) : Region.Space × Register String (Nat × Object) × Register Nat Game ×
    Register Nat Log.Queue :=
  (w.space, w.objects, w.games, w.queues)

/-- No run of `act` disturbs the world. -/
def Undisturbing {α : Type} (act : StateM World α) : Prop :=
  ∀ w : World, w.Undisturbed (act.run w).2

namespace Undisturbing

variable {α β : Type}

theorem of_keeps {act : StateM World α} (h : Keeps premises act) : Undisturbing act := by
  intro w
  obtain ⟨hspace, hrest⟩ := Prod.mk.inj (h w)
  obtain ⟨hobjects, hrest⟩ := Prod.mk.inj hrest
  obtain ⟨hgames, hqueues⟩ := Prod.mk.inj hrest
  refine ⟨hspace, hobjects, ?_, ?_⟩
  · intro cell hg
    rw [hgames]
    exact hg
  · intro cell hq
    rw [queue, hqueues]
    exact hq

theorem pure (a : α) : Undisturbing (Pure.pure a) := fun w => .refl w

theorem bind {x : StateM World α} {f : α → StateM World β} (hx : Undisturbing x)
    (hf : ∀ a, Undisturbing (f a)) : Undisturbing (x >>= f) := by
  intro w
  rw [StateT.run_bind]
  exact (hx w).trans (hf _ _)

theorem bindAct {x : Act α} {f : α → Act β} (hx : Undisturbing x.run)
    (hf : ∀ a, Undisturbing (f a).run) : Undisturbing (x >>= f).run := by
  rw [ExceptT.run_bind]
  apply hx.bind
  intro r
  cases r with
  | ok a => exact hf a
  | error f => exact pure _

theorem lift {x : StateM World α} (hx : Undisturbing x) : Undisturbing (liftM x : Act α).run :=
  hx

theorem forM {f : α → StateM World Unit} (h : ∀ a, Undisturbing (f a)) (as : List α) :
    Undisturbing (as.forM f) := by
  induction as with
  | nil => exact pure _
  | cons a as ih => exact (h a).bind fun _ => ih

end Undisturbing

theorem undisturbing_onQueue {α : Type} (cell : Nat) {step : Log.Queue.Step α}
    (hstep : ∀ q : Log.Queue, q.InStep → (step q).2.InStep) :
    Undisturbing (onQueue cell step).run := by
  intro w
  have hrun := run_onQueue w cell step
  rw [hrun]
  exact .withQueue (hstep _)

theorem undisturbing_offer (cell : Nat) (r : Log.Record) :
    Undisturbing (onQueue cell (Log.Queue.offer r)).run := by
  apply undisturbing_onQueue
  intro q hq
  obtain ⟨found, q', hoffer, hq'⟩ := hq.offer r
  rw [hoffer]
  exact hq'

theorem undisturbing_tell (cell : Nat) (text : String) : Undisturbing (tell cell text) := by
  apply Undisturbing.bind
  · apply undisturbing_onQueue
    intro q hq
    exact hq.tryPush _
  · intro r
    cases r <;> exact .pure _

theorem undisturbing_announce (s : Station) (events : List Event) :
    Undisturbing (announce s events) := by
  unfold announce
  cases s.log with
  | none => exact .pure _
  | some log => exact .forM (fun e => (undisturbing_tell _ _).bind fun _ => .pure _) events

theorem undisturbing_follow (s : Station) (r : Game.Reply Game.Done) :
    Undisturbing (follow s r) := by
  apply Undisturbing.bind
  · exact .of_keeps (keeps_rouse (fun _ _ => rfl) s r)
  · intro _
    apply (undisturbing_announce s r.events).bind
    intro _
    split_ifs
    · exact (Undisturbing.of_keeps (keeps_keepScores (fun _ _ _ => rfl) s)).bind fun _ => .pure _
    · exact .pure _

theorem undisturbing_setGame (cell : Nat) (g : Game) : Undisturbing (setGame cell g) := by
  intro w
  refine ⟨rfl, rfl, ?_, fun _ hq => hq⟩
  intro other hg
  show ((w.games.set cell g).get? other).isSome
  rw [Register.get?_set]
  split_ifs
  · rfl
  · exact hg

/-- Whatever is played at a station leaves the regions and everybody's labels alone. -/
theorem undisturbing_playAt (s : Station) (c : Game.Call) : Undisturbing (playAt s c).run := by
  apply Undisturbing.bindAct (.of_keeps (keeps_lockedGame premises s.table.cell))
  intro g
  apply Undisturbing.bindAct (.lift (undisturbing_setGame _ _))
  intro _
  apply Undisturbing.bindAct (.lift (undisturbing_follow s _))
  intro _
  exact .of_keeps (keeps_ofTable premises _)

theorem undisturbing_playAll (plays : List (Station × Game.Call)) :
    Undisturbing (playAll plays) := by
  induction plays with
  | nil => exact .pure _
  | cons p plays ih =>
    apply (undisturbing_playAt p.1 p.2).bind
    intro a
    exact ih.bind fun _ => .pure _

theorem undisturbing_tickUpTo (s : Station) (limit : Nat) : Undisturbing (tickUpTo s limit) := by
  induction limit with
  | zero => exact .pure _
  | succ limit ih =>
    apply (undisturbing_playAt s .advance).bind
    intro a
    split
    · exact ih.bind fun _ => .pure _
    · exact .pure _
    · exact .pure _

theorem undisturbing_tick (label : String) : Undisturbing (tick label).run := by
  apply Undisturbing.bindAct (.of_keeps (keeps_stationAt premises label))
  intro s
  apply Undisturbing.bindAct (.of_keeps (.lift .get))
  intro w
  dsimp only
  split_ifs
  · exact .lift (undisturbing_tickUpTo s _)
  · exact .pure _

section stop

variable (l : Logger) (w : World)

/-- A logger that writes what waits for it goes on reading the same queue, and disturbs nothing. -/
theorem consume_cases : ∃ l' w', (consume l).run w = (l', w') ∧ w.Undisturbed w' ∧
    l'.queue = l.queue ∧ l'.ownsName = l.ownsName := by
  unfold consume
  split_ifs with hreading
  · refine ⟨_, _, rfl, ?_, rfl, rfl⟩
    have hfiles (files : Files) : w.Undisturbed { w with files } :=
      ⟨rfl, rfl, fun _ hg => hg, fun _ hq => hq⟩
    exact (hfiles _).trans (.withQueue Log.inStep_drain)
  · exact ⟨l, w, rfl, .refl w, rfl, rfl⟩

theorem run_forget (name : String) : (forget name).run w =
    ((), match w.space.remove name with
      | .ok sp => { w with space := sp }
      | .error _ => w) := by
  unfold forget
  rw [StateT.run_bind, StateT.run_get, pure_bind]
  dsimp only
  cases w.space.remove name <;> rfl

theorem run_liftM {ε α : Type} (x : StateM World α) :
    (liftM x : ExceptT ε (StateM World) α).run.run w = (.ok (x.run w).1, (x.run w).2) :=
  rfl

/-- A logger stops unless its queue takes no marker, and frees the name of the queue if it owns
it. -/
theorem stop_cases : ∃ w', w.Undisturbed w' ∧
    ((∃ f, (stop l).run.run w = (.error f, w') ∧ ¬(w.queue l.queue.cell).InStep) ∨
      ∃ n, (stop l).run.run w =
        (.ok n, if l.ownsName then ((forget l.queue.name).run w').2 else w')) := by
  obtain ⟨l₁, w₁, hrun₁, hw₁, hqueue₁, howns₁⟩ := consume_cases l w
  have hconsume : (liftM (consume l) : Act Logger).run.run w = (.ok l₁, w₁) := by
    rw [run_liftM, hrun₁]
  have hmarker := run_onQueue w₁ l₁.queue.cell (Log.Queue.offer (.marker pid now))
  have hw₂ := undisturbing_offer l₁.queue.cell (.marker pid now) w₁
  rw [hmarker] at hw₂
  rw [stop, run_bind_of_ok hconsume]
  rcases hoffer : Log.Queue.offer (.marker pid now) (w₁.queue l₁.queue.cell) with ⟨f | found, q⟩
  · rw [hoffer] at hmarker hw₂
    refine ⟨_, hw₁.trans hw₂, .inl ⟨_, run_bind_of_error hmarker, ?_⟩⟩
    intro hstep
    obtain ⟨found, q', hoffer', -⟩ := (hw₁.queues _ hstep).offer (.marker pid now)
    rw [← hqueue₁, hoffer] at hoffer'
    cases hoffer'
  · rw [hoffer] at hmarker hw₂
    obtain ⟨l₃, w₃, hrun₃, hw₃, hqueue₃, howns₃⟩ := consume_cases l₁ (w₁.withQueue l₁.queue.cell q)
    have hconsume₃ : (liftM (consume l₁) : Act Logger).run.run (w₁.withQueue l₁.queue.cell q) =
        (.ok l₃, w₃) := by
      rw [run_liftM, hrun₃]
    refine ⟨w₃, (hw₁.trans hw₂).trans hw₃, .inr ⟨l₃.written, ?_⟩⟩
    rw [run_bind_of_ok hmarker, run_bind_of_ok hconsume₃, howns₃, howns₁, hqueue₃, hqueue₁]
    cases l.ownsName <;> rfl

end stop

/-- The station under a label, if that is what it stands for. -/
def stationAt? (w : World) (label : String) : Option Station :=
  (w.objects.get? label).bind (·.2.station?)

/-- The queue that the logger under a label reads, and whether the logger owns its name. -/
def readerAt? (w : World) (label : String) : Option (Region.Mapping × Bool) :=
  ((w.objects.get? label).bind (·.2.logger?)).map fun l => (l.queue, l.ownsName)

/-- The world with one more object. -/
def withObject (w : World) (label : String) (o : Object) : World :=
  { w with made := w.made + 1, objects := w.objects.set label (w.made + 1, o) }

section withObject

variable (w : World) {label other : String}

theorem stationAt?_withObject (label : String) (s : Station) :
    (w.withObject label (.station s)).stationAt? label = some s := by
  rw [stationAt?, withObject, Register.get?_set_self]
  rfl

theorem readerAt?_withObject (label : String) (l : Logger) :
    (w.withObject label (.logger l)).readerAt? label = some (l.queue, l.ownsName) := by
  rw [readerAt?, withObject, Register.get?_set_self]
  rfl

theorem get?_objects_withObject (o : Object) (h : other ≠ label) :
    (w.withObject label o).objects.get? other = w.objects.get? other :=
  Register.get?_set_of_ne _ _ h

end withObject

/-- What stopping a logger does that owns the name of its queue, and whether it succeeds. -/
inductive Stopped (w : World) (q : Region.Mapping) : Bool → World → Prop
  | failed {w' : World} (h : w.Undisturbed w') (hq : ¬(w.queue q.cell).InStep) :
      Stopped w q false w'
  | freed {w' : World} (h : w.Undisturbed w') : Stopped w q true ((forget q.name).run w').2

section objects

variable {w : World} {label : String}

theorem exists_of_stationAt? {s : Station} (h : w.stationAt? label = some s) :
    ∃ serial, w.objects.get? label = some (serial, .station s) := by
  obtain ⟨⟨serial, o⟩, ho, hs⟩ := Option.bind_eq_some_iff.mp h
  cases o with
  | station s' =>
    cases hs
    exact ⟨serial, ho⟩
  | region | laidOut | queue | producer | logger => cases hs

theorem exists_of_readerAt? {q : Region.Mapping} {owns : Bool}
    (h : w.readerAt? label = some (q, owns)) :
    ∃ serial l, w.objects.get? label = some (serial, .logger l) ∧ l.queue = q ∧
      l.ownsName = owns := by
  obtain ⟨l, hl, hq⟩ := Option.map_eq_some_iff.mp h
  obtain ⟨⟨serial, o⟩, ho, hs⟩ := Option.bind_eq_some_iff.mp hl
  cases o with
  | logger l' =>
    cases hs
    cases hq
    exact ⟨serial, l, ho, rfl, rfl⟩
  | region | laidOut | queue | producer | station => cases hs

theorem stopped (l : Logger) (w : World) (ho : l.ownsName = true) :
    ∃ stopped, Stopped w l.queue stopped ((stop l).run.run w).2 ∧
      (stopped = true ↔ ∃ n, ((stop l).run.run w).1 = .ok n) := by
  obtain ⟨w', hw', ⟨f, hrun, hq⟩ | ⟨n, hrun⟩⟩ := stop_cases l w
  · rw [hrun]
    refine ⟨false, .failed hw' hq, ?_⟩
    simp
  · rw [hrun, ho]
    refine ⟨true, .freed hw', ?_⟩
    simp

theorem drop_station {s : Station} (h : w.stationAt? label = some s) :
    (drop label).run.run w = (.ok (), { w with objects := w.objects.erase label }) := by
  obtain ⟨serial, ho⟩ := exists_of_stationAt? h
  rw [drop, run_bind_of_ok (run_pick ho rfl)]
  rfl

/-- A station that ends with its table frees the name of the table. -/
theorem destroy_station {s : Station} (h : w.stationAt? label = some s) {bare : String}
    (hb : Region.bareName? s.table.name = some bare) {cell : Nat}
    (he : w.space.entry? bare = some (.memory cell)) :
    (destroy label).run.run w = (.ok (), { w with
      objects := w.objects.erase label
      space := w.space.unbind bare }) := by
  obtain ⟨serial, ho⟩ := exists_of_stationAt? h
  have hpick : (pick some label).run.run w = (.ok (serial, .station s), w) := run_pick ho rfl
  have hremove : w.space.remove s.table.name = _ := Region.Space.remove_eq hb
  rw [he] at hremove
  rw [destroy, run_bind_of_ok hpick]
  dsimp only
  rw [run_bind_of_ok (drop_station h), run_bind_of_ok (run_get _)]
  dsimp only
  rw [hremove]
  rfl

theorem drop_of_none (h : w.objects.get? label = none) : ((drop label).run.run w).2 = w := by
  rw [drop, run_bind_of_error (run_pick_of_none (by rw [h]; rfl))]

theorem drop_logger {q : Region.Mapping} (h : w.readerAt? label = some (q, true)) :
    ∃ stopped, Stopped { w with objects := w.objects.erase label } q stopped
      ((drop label).run.run w).2 := by
  obtain ⟨serial, l, ho, rfl, howns⟩ := exists_of_readerAt? h
  obtain ⟨done, hstopped, -⟩ := stopped l { w with objects := w.objects.erase label } howns
  rw [drop, run_bind_of_ok (run_pick ho rfl)]
  exact ⟨done, hstopped⟩

theorem shutDown_logger {q : Region.Mapping} (h : w.readerAt? label = some (q, true)) :
    ∃ stopped, Stopped { w with objects := w.objects.erase label } q stopped
        ((shutDown label).run.run w).2 ∧
      (stopped = true ↔ ∃ n, ((shutDown label).run.run w).1 = .ok n) := by
  obtain ⟨serial, l, ho, rfl, howns⟩ := exists_of_readerAt? h
  have hpick : (pick Object.logger? label).run.run w = (.ok (serial, l), w) := run_pick ho rfl
  rw [shutDown, run_bind_of_ok hpick]
  exact stopped l { w with objects := w.objects.erase label } howns

theorem run_put_of_none (h : w.objects.get? label = none) (o : Object) :
    (put label o).run w = ((), w.withObject label o) := by
  simp only [put, StateT.run_bind, StateT.run_get, StateT.run_set, pure_bind]
  rw [h]
  rfl

end objects

namespace Stopped

variable {w w' : World} {q : Region.Mapping} {stopped : Bool} (h : w.Stopped q stopped w')
include h

theorem objects : w'.objects = w.objects := by
  cases h with
  | failed h => exact h.objects
  | @freed w₁ h =>
    rw [run_forget]
    dsimp only
    cases w₁.space.remove q.name <;> exact h.objects

/-- The name of the queue is free after all has gone well, and stays as it is if not. -/
theorem entry {bare : String} (hb : Region.bareName? q.name = some bare)
    {cell : Nat} (hc : w.space.entry? bare = some (.memory cell)) (other : String) :
    w'.space.entry? other =
      if stopped ∧ other = bare then none else w.space.entry? other := by
  cases h with
  | failed h =>
    rw [h.space, if_neg (fun hn => Bool.false_ne_true hn.1)]
  | @freed w₁ h =>
    have hremove : w₁.space.remove q.name = _ := Region.Space.remove_eq hb
    rw [h.space, hc] at hremove
    rw [run_forget, h.space, hremove]
    dsimp only
    split_ifs with ho
    · rw [ho.2]
      exact w.space.entry?_unbind_self bare
    · exact w.space.entry?_unbind_of_ne fun he => ho ⟨rfl, he⟩

theorem not_inStep (hs : stopped = false) : ¬(w.queue q.cell).InStep := by
  cases h with
  | failed h hq => exact hq
  | freed h => exact absurd hs nofun

end Stopped

/-- What the object under a label is to others. -/
def gistAt? (w : World) (label : String) : Option (Option Station × Option (Region.Mapping × Bool)) :=
  (w.objects.get? label).map (·.2.gist)

section runLoggers

variable {w w' : World} {label : String}

theorem stationAt?_eq (w : World) (label : String) :
    w.stationAt? label = (w.gistAt? label).bind (·.1) := by
  rw [stationAt?, gistAt?, Option.bind_map]
  rfl

theorem readerAt?_eq (w : World) (label : String) :
    w.readerAt? label = (w.gistAt? label).bind (·.2) := by
  rw [readerAt?, gistAt?, Option.map_bind, Option.bind_map]
  rfl

/-- Runs the logger of an entry, if it is one. -/
def runLogger : String × Nat × Object → StateM World (String × Nat × Object)
  | (label, serial, .logger l) => do return (label, serial, .logger (← consume l))
  | entry => pure entry

theorem runLogger_cases (e : String × Nat × Object) (w : World) :
    ∃ e' w', (runLogger e).run w = (e', w') ∧ w.Undisturbed w' ∧
      (e'.1, e'.2.2.gist) = (e.1, e.2.2.gist) := by
  obtain ⟨label, serial, o⟩ := e
  cases o with
  | logger l =>
    obtain ⟨l', w', hrun, hw', hqueue, howns⟩ := consume_cases l w
    refine ⟨(label, serial, .logger l'), w', ?_, hw', ?_⟩
    · rw [runLogger, StateT.run_bind, hrun]
      rfl
    · simp only [Object.gist, Object.logger?, Option.map_some, hqueue, howns]
      rfl
  | region | laidOut | queue | producer | station => exact ⟨_, w, rfl, .refl w, rfl⟩

theorem mapM_runLogger_cases (es : List (String × Nat × Object)) (w : World) :
    ∃ es' w', (es.mapM runLogger).run w = (es', w') ∧ w.Undisturbed w' ∧
      es'.map (fun e => (e.1, e.2.2.gist)) = es.map (fun e => (e.1, e.2.2.gist)) := by
  induction es generalizing w with
  | nil => exact ⟨[], w, rfl, .refl w, rfl⟩
  | cons e es ih =>
    obtain ⟨e', w₁, hrun, hw₁, hgist⟩ := runLogger_cases e w
    obtain ⟨es', w₂, hruns, hw₂, hgists⟩ := ih w₁
    refine ⟨e' :: es', w₂, ?_, hw₁.trans hw₂, ?_⟩
    · rw [List.mapM_cons, StateT.run_bind, hrun]
      show ((es.mapM runLogger >>= fun es => pure (e' :: es)) : StateM World _).run w₁ = _
      rw [StateT.run_bind, hruns]
      rfl
    · rw [List.map_cons, List.map_cons, hgist, hgists]

theorem gistAt?_eq_find? (w : World) (label : String) :
    w.gistAt? label =
      ((w.objects.entries.map fun e => (e.1, e.2.2.gist)).find? (·.1 = label)).map (·.2) := by
  rw [gistAt?, Register.get?, List.find?_map, Option.map_map, Option.map_map]
  rfl

/-- Loggers that write what waits for them leave everything to others as it was. -/
theorem runLoggers_cases (w : World) :
    ∃ w' objects, (runLoggers.run w).2 = { w' with objects } ∧ w.Undisturbed w' ∧
      ∀ label, gistAt? { w' with objects } label = w.gistAt? label := by
  obtain ⟨es, w', hrun, hw', hgists⟩ := mapM_runLogger_cases w.objects.entries w
  refine ⟨w', ⟨es⟩, ?_, hw', ?_⟩
  · show (((w.objects.entries.mapM runLogger) >>= fun es =>
      modify ({ · with objects := ⟨es⟩ }) : StateM World Unit).run w).2 = _
    rw [StateT.run_bind, hrun]
    rfl
  · intro label
    rw [gistAt?_eq_find?, gistAt?_eq_find?]
    dsimp only
    rw [hgists]

end runLoggers
end World
end Rota
