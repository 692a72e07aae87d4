import Rota.Proofs.World.Loggers
import Rota.World.Waiters

namespace Rota

def Station.unlogged (s : Station) : Station := { s with log := none }

def Object.unlogged : Object → Object
  | .station s => .station s.unlogged
  | o => o

namespace World

/-- The world in which no station has a log. -/
def unlogged (w : World) : World :=
  { w with objects := ⟨w.objects.entries.map fun e => (e.1, e.2.1, e.2.2.unlogged)⟩ }

/-- All that there is beside logs: the world with stations that have none, and the queues that are
not in the memories `logs`. -/
def besideLogs (logs : Nat → Prop) (w : World) : World × ({cell // ¬logs cell} → Log.Queue) :=
  ({ w.unlogged with queues := {} }, fun cell => w.queue cell)

/-- All stations tell their events to queues in the memories `logs`. -/
def LogsIn (w : World) (logs : Nat → Prop) : Prop :=
  ∀ label s m, w.stationAt? label = some s → s.log = some m → logs m.cell

/-- Two worlds that differ in nothing but in logs. -/
structure Alike (logs : Nat → Prop) (w w' : World) : Prop where
  beside : w.besideLogs logs = w'.besideLogs logs
  left : w.LogsIn logs
  right : w'.LogsIn logs

/-- Two stations that differ in nothing but in their logs. -/
structure Twins (logs : Nat → Prop) (s s' : Station) : Prop where
  table : s.table = s'.table
  store : s.store = s'.store
  left : ∀ m, s.log = some m → logs m.cell
  right : ∀ m, s'.log = some m → logs m.cell

section alike

variable {logs : Nat → Prop} {w w' : World}

theorem unlogged_unlogged (w : World) : w.unlogged.unlogged = w.unlogged := by
  have hobject (o : Object) : o.unlogged.unlogged = o.unlogged := by cases o <;> rfl
  rw [unlogged, unlogged]
  dsimp only
  rw [List.map_map]
  congr 2
  refine List.map_congr_left fun e _ => ?_
  rw [Function.comp_apply, hobject]

theorem get?_unlogged (w : World) (label : String) :
    w.unlogged.objects.get? label =
      (w.objects.get? label).map fun e => (e.1, e.2.unlogged) := by
  rw [Register.get?, Register.get?, unlogged, List.find?_map, Option.map_map, Option.map_map]
  rfl

theorem stationAt?_unlogged (w : World) (label : String) :
    w.unlogged.stationAt? label = (w.stationAt? label).map Station.unlogged := by
  rw [stationAt?, stationAt?, get?_unlogged]
  cases w.objects.get? label with
  | none => rfl
  | some e =>
    obtain ⟨serial, o⟩ := e
    cases o <;> rfl

namespace Alike

variable (h : Alike logs w w')
include h

theorem unlogged_eq : { w.unlogged with queues := {} } = { w'.unlogged with queues := {} } :=
  congrArg Prod.fst h.beside

theorem games : w.games = w'.games := by
  have hgames := congrArg World.games h.unlogged_eq
  exact hgames

theorem stores : w.stores = w'.stores := by
  have hstores := congrArg World.stores h.unlogged_eq
  exact hstores

theorem files : w.files = w'.files := by
  have hfiles := congrArg World.files h.unlogged_eq
  exact hfiles

theorem space : w.space = w'.space := by
  have hspace := congrArg World.space h.unlogged_eq
  exact hspace

theorem waiters : w.waiters = w'.waiters := by
  have hwaiters := congrArg World.waiters h.unlogged_eq
  exact hwaiters

theorem game (cell : Nat) : w.game cell = w'.game cell := by
  rw [World.game, World.game, h.games]

theorem stationAt? (label : String) :
    (w.stationAt? label).map Station.unlogged = (w'.stationAt? label).map Station.unlogged := by
  have hstations := congrArg (World.stationAt? · label) h.unlogged_eq
  rw [← stationAt?_unlogged, ← stationAt?_unlogged]
  exact hstations

/-- A change that is to nothing but what both worlds have. -/
theorem congr {f : World → World}
    (hf : ∀ v, (f v).besideLogs logs = (f (v.besideLogs logs).1, (v.besideLogs logs).2))
    (ho : ∀ v, (f v).objects = v.objects) : Alike logs (f w) (f w') where
  beside := by rw [hf, hf, h.beside]
  left label s m hs := h.left label s m (by rwa [World.stationAt?, ho] at hs)
  right label s m hs := h.right label s m (by rwa [World.stationAt?, ho] at hs)

end Alike
end alike

/-- Two acts that go the same way in worlds that are alike: the worlds stay alike, and what the acts
answer is as `R` says. -/
def Coupled {α β : Type} (logs : Nat → Prop) (R : α → β → Prop) (x : StateM World α)
    (y : StateM World β) : Prop :=
  ∀ w w', Alike logs w w' → R (x.run w).1 (y.run w').1 ∧ Alike logs (x.run w).2 (y.run w').2

/-- Two answers that are faults together, and the same. -/
inductive Agree {α β : Type} (R : α → β → Prop) : Except Fault α → Except Fault β → Prop
  | ok {a : α} {b : β} : R a b → Agree R (.ok a) (.ok b)
  | error (f : Fault) : Agree R (.error f) (.error f)

theorem Agree.eq {α : Type} {r r' : Except Fault α} (h : Agree Eq r r') : r = r' := by
  cases h with
  | ok hab => rw [hab]
  | error f => rfl

namespace Coupled

variable {α β γ δ : Type} {logs : Nat → Prop} {R : α → β → Prop} {S : γ → δ → Prop}

theorem pure {a : α} {b : β} (hab : R a b) : Coupled logs R (Pure.pure a) (Pure.pure b) :=
  fun _ _ h => ⟨hab, h⟩

theorem bind {x : StateM World α} {y : StateM World β} {f : α → StateM World γ}
    {g : β → StateM World δ} (hx : Coupled logs R x y)
    (hf : ∀ a b, R a b → Coupled logs S (f a) (g b)) : Coupled logs S (x >>= f) (y >>= g) := by
  intro w w' h
  obtain ⟨hab, hnext⟩ := hx w w' h
  rw [StateT.run_bind, StateT.run_bind]
  exact hf _ _ hab _ _ hnext

theorem bindAct {x : Act α} {y : Act β} {f : α → Act γ} {g : β → Act δ}
    (hx : Coupled logs (Agree R) x.run y.run)
    (hf : ∀ a b, R a b → Coupled logs (Agree S) (f a).run (g b).run) :
    Coupled logs (Agree S) (x >>= f).run (y >>= g).run := by
  rw [ExceptT.run_bind, ExceptT.run_bind]
  refine hx.bind fun r r' hr => ?_
  cases hr with
  | ok hab => exact hf _ _ hab
  | error f => exact pure (.error f)

/-- For acts that give the same answers. -/
theorem bindEq {x y : Act α} {f : α → Act γ} {g : α → Act δ}
    (hx : Coupled logs (Agree Eq) x.run y.run)
    (hf : ∀ a, Coupled logs (Agree S) (f a).run (g a).run) :
    Coupled logs (Agree S) (x >>= f).run (y >>= g).run := by
  refine hx.bindAct fun a b hab => ?_
  subst hab
  exact hf a

/-- An act whose answer is only put into another form. -/
theorem map {x y : Act α} (f : α → γ) (hx : Coupled logs (Agree Eq) x.run y.run) :
    Coupled logs (Agree Eq) (x >>= fun a => Pure.pure (f a) : Act γ).run
      (y >>= fun a => Pure.pure (f a) : Act γ).run :=
  hx.bindEq fun _ => pure (.ok rfl)

theorem lift {x : StateM World α} {y : StateM World β} (hx : Coupled logs R x y) :
    Coupled logs (Agree R) (liftM x : Act α).run (liftM y : Act β).run :=
  hx.bind fun _ _ hab => pure (.ok hab)

theorem get : Coupled logs (Alike logs) get get := fun _ _ h => ⟨h, h⟩

theorem set {w w' : World} (h : Alike logs w w') : Coupled logs Eq (set w) (set w') :=
  fun _ _ _ => ⟨rfl, h⟩

theorem modify {f : World → World}
    (hf : ∀ v, (f v).besideLogs logs = (f (v.besideLogs logs).1, (v.besideLogs logs).2))
    (ho : ∀ v, (f v).objects = v.objects) : Coupled logs Eq (modify f) (modify f) :=
  fun _ _ h => ⟨rfl, h.congr hf ho⟩

theorem of_keeps {x y : StateM World Unit} (hx : Keeps (besideLogs logs) x)
    (hxo : Keeps objects x) (hy : Keeps (besideLogs logs) y) (hyo : Keeps objects y) :
    Coupled logs Eq x y := by
  intro w w' h
  refine ⟨rfl, ?_, fun label s m hs => ?_, fun label s m hs => ?_⟩
  · rw [hx w, hy w', h.beside]
  · exact h.left label s m (by rwa [stationAt?, hxo] at hs)
  · exact h.right label s m (by rwa [stationAt?, hyo] at hs)

end Coupled

theorem run_stationAt_eq (w : World) (label : String) :
    (stationAt label).run.run w =
      match w.stationAt? label with
      | some s => (.ok s, w)
      | none => (.error (.missing label), w) := by
  rw [stationAt]
  cases hs : w.stationAt? label with
  | none =>
    have hpick : (pick Object.station? label).run.run w = (.error (.missing label), w) :=
      run_pick_of_none hs
    rw [run_bind_of_error hpick]
  | some s =>
    obtain ⟨e, he, hview⟩ := Option.bind_eq_some_iff.mp hs
    have hpick : (pick Object.station? label).run.run w = (.ok (e.1, s), w) := run_pick he hview
    rw [run_bind_of_ok hpick]
    rfl

section acts

variable {logs : Nat → Prop}

theorem coupled_stationAt (label : String) :
    Coupled logs (Agree (Twins logs)) (stationAt label).run (stationAt label).run := by
  intro w w' h
  have hpair := h.stationAt? label
  change Agree _ ((stationAt label).run.run w).1 ((stationAt label).run.run w').1 ∧
    Alike logs ((stationAt label).run.run w).2 ((stationAt label).run.run w').2
  rw [run_stationAt_eq, run_stationAt_eq]
  cases hs : w.stationAt? label with
  | none =>
    rw [hs, Option.map_none, eq_comm, Option.map_eq_none_iff] at hpair
    rw [hpair]
    exact ⟨.error _, h⟩
  | some s =>
    rw [hs, Option.map_some, eq_comm, Option.map_eq_some_iff] at hpair
    obtain ⟨s', hs', hpair⟩ := hpair
    rw [hs']
    have htable : s.table = s'.table := (congrArg Station.table hpair).symm
    have hstore : s.store = s'.store := (congrArg Station.store hpair).symm
    exact ⟨.ok ⟨htable, hstore, fun m => h.left label s m hs, fun m => h.right label s' m hs'⟩, h⟩

theorem coupled_ofTable {α : Type} (r : Except Table.Fault α) :
    Coupled logs (Agree Eq) (ofTable r).run (ofTable r).run := by
  cases r with
  | ok a => exact Coupled.pure (.ok rfl)
  | error f => exact Coupled.pure (.error _)

theorem coupled_lockedGame (cell : Nat) :
    Coupled logs (Agree Eq) (lockedGame cell).run (lockedGame cell).run := by
  refine Coupled.bindAct (Coupled.lift Coupled.get) fun w w' h => ?_
  rw [h.games]
  cases w'.games.get? cell with
  | some g => exact Coupled.pure (.ok rfl)
  | none => exact Coupled.pure (.error _)

theorem coupled_setGame (cell : Nat) (g : Game) :
    Coupled logs Eq (setGame cell g) (setGame cell g) :=
  Coupled.modify (fun _ => rfl) fun _ => rfl

theorem coupled_storeAt (label : String) :
    Coupled logs (Agree Eq) (storeAt label).run (storeAt label).run := by
  refine Coupled.bindAct (Coupled.lift Coupled.get) fun w w' h => ?_
  rw [h.stores]
  cases w'.stores.get? label with
  | some s => exact Coupled.pure (.ok rfl)
  | none => exact Coupled.pure (.error _)

theorem coupled_saveIn (s : Score.Store) (b : Score.Board) :
    Coupled logs (Agree Eq) (saveIn s b).run (saveIn s b).run := by
  refine Coupled.bindAct (Coupled.lift Coupled.get) fun w w' h => ?_
  rw [h.files]
  refine Coupled.bindEq (coupled_ofTable _) fun saved => ?_
  refine Coupled.bindEq (Coupled.lift (Coupled.modify (fun _ => rfl) fun _ => rfl)) fun _ => ?_
  exact Coupled.pure (.ok rfl)

theorem coupled_saveBoard (store : String) (b : Score.Board) :
    Coupled logs (Agree Eq) (saveBoard store b).run (saveBoard store b).run := by
  refine Coupled.bindEq (coupled_storeAt store) fun s => ?_
  refine Coupled.bindEq (coupled_saveIn s b) fun s' => ?_
  exact Coupled.lift (Coupled.modify (fun _ => rfl) fun _ => rfl)

theorem keeps_tell_besideLogs {cell : Nat} (hcell : logs cell) (text : String) :
    Keeps (besideLogs logs) (tell cell text) := by
  have honQueue {α : Type} (step : Log.Queue.Step α) :
      Keeps (besideLogs logs) (onQueue cell step).run := by
    intro w
    rw [run_onQueue]
    refine Prod.ext rfl (funext fun other => queue_withQueue_of_ne w _ ?_)
    rintro rfl
    exact other.2 hcell
  refine (honQueue _).bind fun r => ?_
  cases r <;> exact Keeps.pure _

/-- Telling events reaches nothing but the log. -/
theorem keeps_announce_besideLogs {s : Station} (hs : ∀ m, s.log = some m → logs m.cell)
    (events : List Event) : Keeps (besideLogs logs) (announce s events) := by
  unfold announce
  cases hlog : s.log with
  | none => exact Keeps.pure _
  | some m =>
    have hcell := hs m hlog
    exact Keeps.forM (fun e => (keeps_tell_besideLogs hcell _).bind fun _ => Keeps.pure _) events

end acts

section twins

variable {logs : Nat → Prop} {s s' : Station} (h : Twins logs s s')
include h

/-- The two stations may tell different queues, as long as both are logs. -/
theorem coupled_announce (events : List Event) :
    Coupled logs Eq (announce s events) (announce s' events) :=
  Coupled.of_keeps (keeps_announce_besideLogs h.left events)
    (keeps_announce (fun _ _ => rfl) s events) (keeps_announce_besideLogs h.right events)
    (keeps_announce (fun _ _ => rfl) s' events)

theorem coupled_rouse (r : Game.Reply Game.Done) : Coupled logs Eq (rouse s r) (rouse s' r) := by
  rw [rouse, rouse, h.table]
  exact Coupled.modify (fun _ => rfl) fun _ => rfl

theorem coupled_board : Coupled logs (Agree Eq) (board s).run (board s').run := by
  rw [board, board, h.table]
  exact Coupled.bindEq (coupled_lockedGame _) fun g => Coupled.pure (.ok rfl)

theorem coupled_keepScores : Coupled logs (Agree Eq) (keepScores s).run (keepScores s').run := by
  rw [keepScores, keepScores, h.store]
  cases s'.store with
  | none => exact Coupled.pure (.ok rfl)
  | some store => exact Coupled.bindEq (coupled_board h) fun b => coupled_saveBoard store b

theorem coupled_follow (r : Game.Reply Game.Done) :
    Coupled logs Eq (follow s r) (follow s' r) := by
  refine (coupled_rouse h r).bind fun _ _ _ => ?_
  refine (coupled_announce h r.events).bind fun _ _ _ => ?_
  cases r.ended with
  | true => exact (coupled_keepScores h).bind fun _ _ _ => Coupled.pure rfl
  | false => exact Coupled.pure rfl

theorem coupled_playAt (call : Game.Call) :
    Coupled logs (Agree Eq) (playAt s call).run (playAt s' call).run := by
  rw [playAt, playAt, h.table]
  refine Coupled.bindEq (coupled_lockedGame _) fun g => ?_
  refine Coupled.bindEq (Coupled.lift (coupled_setGame _ _)) fun _ => ?_
  refine Coupled.bindEq (Coupled.lift (coupled_follow h _)) fun _ => ?_
  exact coupled_ofTable _

theorem coupled_takeAt (seat : Nat) :
    Coupled logs (Agree Eq) (takeAt s seat).run (takeAt s' seat).run := by
  rw [takeAt, takeAt, h.table]
  refine Coupled.bindAct (Coupled.lift Coupled.get) fun w w' hw => ?_
  rw [hw.game]
  refine Coupled.bindEq (coupled_ofTable _) fun taken => ?_
  obtain ⟨up, g⟩ := taken
  cases up with
  | true =>
    exact Coupled.bindEq (Coupled.lift (coupled_setGame _ _)) fun _ => Coupled.pure (.ok rfl)
  | false => exact Coupled.pure (.ok rfl)

theorem coupled_tickUpTo (limit : Nat) :
    Coupled logs Eq (tickUpTo s limit) (tickUpTo s' limit) := by
  induction limit with
  | zero => exact Coupled.pure rfl
  | succ limit ih =>
    -- as the answers are the same, both go on or both stop
    refine (coupled_playAt h .advance).bind fun r r' hr => ?_
    rw [hr.eq]
    split
    · refine ih.bind fun n n' hn => ?_
      rw [hn]
      exact Coupled.pure rfl
    · exact Coupled.pure rfl
    · exact Coupled.pure rfl

end twins

/-- A call on a table at a station. -/
inductive TableCall
  | play (call : Game.Call)
  | tick
  | takeSignal (seat : Nat)
  | waitSignal (seat : Nat)
  | waitTurn (seat : Nat)
  | beginWait (waiter : String) (seat : Nat)
  | shown (seat : Nat)
  | isOver
  | scores
  | saveScores
  | snapshot
  | view

inductive TableAnswer
  | nothing
  | done (d : Game.Done)
  | passes (n : Nat)
  | flag (up : Bool)
  | wake (wake : Game.Wake)
  | gone (waiters : List (String × Game.Wake))
  | purse (p : Option Purse)
  | board (b : Score.Board)
  | game (g : Game)

def TableCall.act (label : String) : TableCall → Act TableAnswer
  | .play call => return .done (← World.play label call)
  | .tick => return .passes (← World.tick label)
  | .takeSignal seat => return .flag (← World.takeSignal label seat)
  | .waitSignal seat => do
    World.waitSignal label seat
    return .nothing
  | .waitTurn seat => return .wake (← World.waitTurn label seat)
  | .beginWait waiter seat => do
    World.beginWait waiter label seat
    return .nothing
  | .shown seat => return .purse (← World.shown label seat)
  | .isOver => return .flag (← World.isOver label)
  | .scores => return .board (← World.scores label)
  | .saveScores => do
    World.saveScores label
    return .nothing
  | .snapshot => return .game (← World.snapshot label)
  | .view => return .game (← gameAt label)

section calls

variable {logs : Nat → Prop} (label : String)

theorem coupled_takeSignal (seat : Nat) :
    Coupled logs (Agree Eq) (takeSignal label seat).run (takeSignal label seat).run :=
  Coupled.bindAct (coupled_stationAt label) fun _ _ h => coupled_takeAt h seat

theorem coupled_waitSignal (seat : Nat) :
    Coupled logs (Agree Eq) (waitSignal label seat).run (waitSignal label seat).run := by
  refine Coupled.bindEq (coupled_takeSignal label seat) fun up => ?_
  cases up with
  | true => exact Coupled.pure (.ok rfl)
  | false => exact Coupled.pure (.error _)

theorem coupled_waitTurn (seat : Nat) :
    Coupled logs (Agree Eq) (waitTurn label seat).run (waitTurn label seat).run := by
  refine Coupled.bindAct (coupled_stationAt label) fun s s' h => ?_
  rw [h.table]
  refine Coupled.bindEq (coupled_lockedGame _) fun g => ?_
  refine Coupled.bindEq (coupled_ofTable _) fun _ => ?_
  cases g.wake? seat with
  | some wake => exact Coupled.pure (.ok rfl)
  | none => exact Coupled.pure (.error _)

theorem coupled_beginWait (waiter : String) (seat : Nat) :
    Coupled logs (Agree Eq) (beginWait waiter label seat).run
      (beginWait waiter label seat).run := by
  refine Coupled.bindAct (coupled_stationAt label) fun s s' h => ?_
  rw [h.table]
  have hopen : Coupled logs (Agree Eq) (openTable s'.table.name).run
      (openTable s'.table.name).run := by
    refine Coupled.bindAct (Coupled.lift Coupled.get) fun w w' hw => ?_
    rw [hw.space]
    exact coupled_ofTable _
  refine Coupled.bindEq hopen fun m => ?_
  refine Coupled.bindEq (coupled_lockedGame _) fun g => ?_
  refine Coupled.bindEq (coupled_ofTable _) fun _ => ?_
  exact Coupled.lift (Coupled.modify (fun _ => rfl) fun _ => rfl)

theorem coupled_shown (seat : Nat) :
    Coupled logs (Agree Eq) (shown label seat).run (shown label seat).run := by
  refine Coupled.bindAct (coupled_stationAt label) fun s s' h => ?_
  refine Coupled.bindAct (Coupled.lift Coupled.get) fun w w' hw => ?_
  rw [h.table, hw.games]
  cases w'.games.get? s'.table.cell with
  | some g => exact Coupled.pure (.ok rfl)
  | none => exact Coupled.pure (.ok rfl)

theorem coupled_gameAt : Coupled logs (Agree Eq) (gameAt label).run (gameAt label).run := by
  refine Coupled.bindAct (coupled_stationAt label) fun s s' h => ?_
  refine Coupled.bindAct (Coupled.lift Coupled.get) fun w w' hw => ?_
  rw [h.table, hw.game]
  exact Coupled.pure (.ok rfl)

theorem coupled_snapshot : Coupled logs (Agree Eq) (snapshot label).run (snapshot label).run := by
  refine Coupled.bindAct (coupled_stationAt label) fun s s' h => ?_
  rw [h.table]
  exact coupled_lockedGame _

theorem coupled_isOver : Coupled logs (Agree Eq) (isOver label).run (isOver label).run := by
  refine Coupled.bindAct (coupled_stationAt label) fun s s' h => ?_
  rw [h.table]
  exact (coupled_lockedGame _).map Game.isOver

theorem coupled_tick : Coupled logs (Agree Eq) (tick label).run (tick label).run := by
  refine Coupled.bindAct (coupled_stationAt label) fun s s' h => ?_
  refine Coupled.bindAct (Coupled.lift Coupled.get) fun w w' hw => ?_
  rw [h.table, hw.game]
  dsimp only
  split_ifs
  · exact Coupled.lift (coupled_tickUpTo h _)
  · exact Coupled.pure (.ok rfl)

theorem coupled_tableCall (c : TableCall) :
    Coupled logs (Agree Eq) (c.act label).run (c.act label).run := by
  have hstation : Coupled logs (Agree (Twins logs)) (stationAt label).run (stationAt label).run :=
    coupled_stationAt label
  cases c with
  | play call => exact (hstation.bindAct fun _ _ h => coupled_playAt h call).map _
  | tick => exact (coupled_tick label).map _
  | takeSignal seat => exact (coupled_takeSignal label seat).map _
  | waitSignal seat => exact (coupled_waitSignal label seat).map _
  | waitTurn seat => exact (coupled_waitTurn label seat).map _
  | beginWait waiter seat => exact (coupled_beginWait label waiter seat).map _
  | shown seat => exact (coupled_shown label seat).map _
  | isOver => exact (coupled_isOver label).map _
  | scores => exact (hstation.bindAct fun _ _ h => coupled_board h).map _
  | saveScores => exact (hstation.bindAct fun _ _ h => coupled_keepScores h).map _
  | snapshot => exact (coupled_snapshot label).map _
  | view => exact (coupled_gameAt label).map _

end calls

/-- What happens in a world with tables: calls, looks of those who wait, and what anybody does with a
queue. -/
inductive Happening
  | call (label : String) (c : TableCall)
  | look (who : Waiter → Bool)
  | queue (cell : Nat) (f : Log.Queue → Log.Queue)

def Happening.act : Happening → StateM World (Except Fault TableAnswer)
  | .call label c => (c.act label).run
  | .look who => return .ok (.gone (← World.look who))
  | .queue cell f => do
    modify fun w => w.withQueue cell (f (w.queue cell))
    return .ok .nothing

section happening

variable {logs : Nat → Prop}

theorem coupled_look (who : Waiter → Bool) : Coupled logs Eq (look who) (look who) := by
  refine Coupled.get.bind fun w w' h => ?_
  have hwake (x : Waiter) : wakeOf? w x = wakeOf? w' x := by
    rw [wakeOf?, wakeOf?, h.game]
  have hremains : remains? w who = remains? w' who := by
    funext x
    rw [remains?, remains?, hwake]
  have hleaves : leaves? w who = leaves? w' who := by
    funext x
    rw [leaves?, leaves?, hwake]
  rw [hremains, hleaves, h.waiters]
  refine (Coupled.set ?_).bind fun _ _ _ => Coupled.pure rfl
  exact h.congr (f := fun v => { v with waiters := w'.waiters.filterMap (remains? w' who) })
    (fun _ => rfl) fun _ => rfl

theorem Alike.withQueue {w w' : World} (h : Alike logs w w') (cell : Nat)
    (f : Log.Queue → Log.Queue) :
    Alike logs (w.withQueue cell (f (w.queue cell))) (w'.withQueue cell (f (w'.queue cell))) := by
  refine ⟨Prod.ext h.unlogged_eq (funext fun other => ?_), h.left, h.right⟩
  have hsame : w.queue other = w'.queue other := congrFun (congrArg Prod.snd h.beside) other
  change (w.withQueue _ _).queue other = (w'.withQueue _ _).queue other
  by_cases hother : other = cell
  · rw [← hother, queue_withQueue_self, queue_withQueue_self, hsame]
  · rw [queue_withQueue_of_ne _ _ hother, queue_withQueue_of_ne _ _ hother, hsame]

theorem coupled_happening (a : Happening) : Coupled logs Eq a.act a.act := by
  cases a with
  | call label c =>
    intro w w' h
    obtain ⟨hanswer, hworlds⟩ := coupled_tableCall label c w w' h
    exact ⟨hanswer.eq, hworlds⟩
  | look who =>
    refine (coupled_look who).bind fun _ _ hgone => ?_
    rw [hgone]
    exact Coupled.pure rfl
  | queue cell f => exact fun w w' h => ⟨rfl, h.withQueue cell f⟩

theorem coupled_happenings (as : List Happening) :
    Coupled logs Eq (as.mapM Happening.act) (as.mapM Happening.act) := by
  induction as with
  | nil => exact Coupled.pure rfl
  | cons a as ih =>
    rw [List.mapM_cons]
    refine (coupled_happening a).bind fun r _ hr => ?_
    refine ih.bind fun rs _ hrs => ?_
    rw [hr, hrs]
    exact Coupled.pure rfl

end happening

/-- Some station tells its events to the queue in `cell`. -/
def LogsTo (w : World) (cell : Nat) : Prop :=
  ∃ label s m, w.stationAt? label = some s ∧ s.log = some m ∧ m.cell = cell

theorem alike_unlogged (w : World) : Alike w.LogsTo w w.unlogged where
  beside := by
    rw [besideLogs, besideLogs, unlogged_unlogged]
    rfl
  left label s m hs hm := ⟨label, s, m, hs, hm, rfl⟩
  right label s m hs hm := by
    rw [stationAt?_unlogged, Option.map_eq_some_iff] at hs
    obtain ⟨s', -, rfl⟩ := hs
    cases hm

/-- What stays the same whether stations have logs or not, and what does not. -/
structure Unheard (w logged plain : World) : Prop where
  games : logged.games = plain.games
  shelf : logged.stores = plain.stores ∧ logged.files = plain.files
  others : { logged.unlogged with queues := {} } = { plain.unlogged with queues := {} }
  queues : ∀ cell, ¬w.LogsTo cell → logged.queue cell = plain.queue cell

/-- Whether the stations of a world have logs or not, all calls are answered alike, and nothing is
different afterwards but the queues that are logs, whatever others put on them or take from them. -/
theorem unheard_happenings (w : World) (as : List Happening) :
    ((as.mapM Happening.act).run w).1 = ((as.mapM Happening.act).run w.unlogged).1 ∧
      w.Unheard ((as.mapM Happening.act).run w).2 ((as.mapM Happening.act).run w.unlogged).2 := by
  obtain ⟨hanswers, h⟩ := coupled_happenings as w w.unlogged w.alike_unlogged
  refine ⟨hanswers, h.games, ⟨h.stores, h.files⟩, h.unlogged_eq, fun cell hcell => ?_⟩
  exact congrFun (congrArg Prod.snd h.beside) ⟨cell, hcell⟩

/-- The log is told of the first who joins. -/
example :
    (let act : Act Unit := do
      createQueue "q" "q"
      createTable "g" "t" {} none false (some "q")
    let w := (act.run.run {}).2
    let run (v : World) := (([.call "g" (.play (.join "ann"))] : List Happening).mapM
      Happening.act).run v
    (((run w).2.queue 0).used.value, ((run w.unlogged).2.queue 0).used.value)) = (1, 0) := by
  decide +kernel

end World
end Rota
