import Rota.Proofs.World.Draining
import Rota.Proofs.World.Opening

namespace Rota.World

open Log (Fate Journal Record)

theorem withQueue_withQueue (w : World) (cell : Nat) (q q' : Log.Queue) :
    (w.withQueue cell q).withQueue cell q' = w.withQueue cell q' := by
  change { w with queues := (w.queues.set cell q).set cell q' } = _
  rw [Register.set_set, ← withQueue]

theorem foldl_writeLines (files : Files) (path : String) (records : List Record) (count : Nat) :
    records.foldl
        (fun (files, written) r =>
          match files.append path (Log.line now r ++ "\n") with
          | .ok files => (files, written + 1)
          | .error _ => (files, written))
        (files, count) =
      ((writeLines files path records).1, count + (writeLines files path records).2) := by
  induction records generalizing files count with
  | nil => rfl
  | cons r records ih =>
    rw [writeLines, List.foldl_cons, List.foldl_cons]
    dsimp only
    cases files.append path (Log.line now r ++ "\n") with
    | ok files =>
      refine (ih files (count + 1)).trans ?_
      rw [Nat.add_assoc]
      exact congrArg (fun lines => (lines.1, count + lines.2)) (ih files 1).symm
    | error => exact ih files count

theorem writeLines_cons (files : Files) (path : String) (r : Record) (records : List Record) :
    writeLines files path (r :: records) =
      match files.append path (Log.line now r ++ "\n") with
      | .ok files =>
        ((writeLines files path records).1, 1 + (writeLines files path records).2)
      | .error _ => writeLines files path records := by
  rw [writeLines, List.foldl_cons]
  dsimp only
  cases files.append path (Log.line now r ++ "\n") with
  | ok files => exact foldl_writeLines files path records 1
  | error => rfl

/-- The world and the logger once the logger has read up to so many records at once. -/
def readUpTo (limit : Nat) (w : World) (l : Logger) : World × Logger :=
  let intake := Log.drainUpTo limit (w.queue l.queue.cell)
  let lines := writeLines w.files l.path intake.records
  ({ w.withQueue l.queue.cell intake.queue with files := lines.1 },
    { l with written := l.written + lines.2, reading := !intake.stopped })

theorem readUpTo_of_message {w : World} {l : Logger} {r : Record} {q : Log.Queue}
    (hpop : (w.queue l.queue.cell).pop = (.ok (some r), q)) (hkind : r.kind = .message)
    (limit : Nat) :
    readUpTo (limit + 1) w l =
      match w.files.append l.path (Log.line now r ++ "\n") with
      | .ok files => readUpTo limit { w.withQueue l.queue.cell q with files }
          { l with written := l.written + 1 }
      | .error _ => readUpTo limit (w.withQueue l.queue.cell q) l := by
  have hnot : r.kind ≠ .shutdown := by
    rw [hkind]
    decide
  have hself (files : Files) :
      queue { w.withQueue l.queue.cell q with files } l.queue.cell = q :=
    queue_withQueue_self w l.queue.cell q
  have htwice (files : Files) (q' : Log.Queue) :
      withQueue { w.withQueue l.queue.cell q with files } l.queue.cell q' =
        { w.withQueue l.queue.cell q' with files } := by
    rw [← withQueue_withQueue w l.queue.cell q q']
    rfl
  rw [readUpTo, Log.drainUpTo, hpop]
  dsimp only
  rw [if_neg hnot, writeLines_cons]
  cases w.files.append l.path (Log.line now r ++ "\n") with
  | ok files =>
    dsimp only
    rw [readUpTo, hself, htwice, Nat.add_assoc]
  | error =>
    dsimp only
    rw [readUpTo, queue_withQueue_self, withQueue_withQueue]
    rfl

namespace Scene

variable {bare : String} {before : Option String} {s : Scene}

/-- The scene after so many turns of a consumer whose every line gets into the file. -/
def passed (s : Scene) (turns : Nat) : Scene :=
  s.afterAll (fun _ => now) (fun _ => .written) (List.replicate turns .pass)

theorem passed_succ (s : Scene) (turns : Nat) :
    s.passed (turns + 1) = (s.pass (fun _ => now) fun _ => .written).passed turns :=
  rfl

theorem passed_succ_last (s : Scene) (turns : Nat) :
    s.passed (turns + 1) = (s.passed turns).pass (fun _ => now) fun _ => .written := by
  rw [passed, List.replicate_succ', afterAll, List.foldl_concat]
  rfl

theorem passed_of_idle (hidle : s.logger.reading = false) (turns : Nat) : s.passed turns = s := by
  induction turns with
  | zero => rfl
  | succ turns ih => rw [passed_succ, pass_of_idle hidle, ih]

theorem begun_passed (s : Scene) (turns : Nat) :
    (s.passed turns).logger.begun = s.logger.begun :=
  begun_afterAll _ _ s _

/-- The scene after the marker has been put in, if there was room for it. -/
def marked (s : Scene) : Scene :=
  s.after (fun _ => now) (fun _ => .written) (.offer (.marker pid now))

namespace Minds

variable (h : s.Minds (fun _ => now) (fun _ => .written) bare before)
include h

/-- All that a consumer reads at once is what it takes in as many turns as records wait, and one
more to find nothing. -/
theorem passed_eq (hreading : s.logger.reading = true) {turns : Nat}
    (hturns : s.journal.waiting.length = turns) :
    ((s.passed (turns + 1)).world, (s.passed (turns + 1)).logger) =
      readUpTo turns s.world s.logger := by
  induction turns generalizing s with
  | zero =>
    rw [passed_succ, h.serves.pass_of_nil hreading (List.eq_nil_of_length_eq_zero hturns)]
    change (_, s.logger) = (_, { s.logger with reading := true })
    rw [← hreading]
    rfl
  | succ turns ih =>
    obtain ⟨r, rest, hcons⟩ := List.exists_cons_of_length_eq_add_one hturns
    obtain ⟨hpop, -⟩ := Log.Queue.pop_of_cons h.serves.tallied.inStep
      (h.serves.contents_of_cons hcons)
    cases hkind : r.kind with
    | shutdown =>
      have hkept : r.kept.kind = .shutdown := hkind
      have hpop : (s.world.queue s.logger.queue.cell).pop = _ := hpop
      rw [passed_succ, h.serves.pass_of_marker hcons hreading hkind, passed_of_idle rfl, readUpTo,
        Log.drainUpTo, hpop]
      dsimp only
      rw [if_pos hkept]
      rfl
    | message =>
      have hleft : (s.pass (fun _ => now) fun _ => .written).journal.waiting.length = turns := by
        rw [h.serves.length_waiting_pass _ _ hreading, hturns, Nat.add_sub_cancel]
      have hnext := h.pass
      have hwrite := h.serves.pass_of_message hcons (fun _ => now) (fun _ => .written) hreading
        hkind
      rw [write] at hwrite
      change _ = match s.world.files.append s.logger.path (Log.line now r.kept ++ "\n") with
        | .ok _ => _
        | .error _ => _ at hwrite
      rw [passed_succ, readUpTo_of_message hpop hkind]
      cases happend : s.world.files.append s.logger.path (Log.line now r.kept ++ "\n") with
      | ok files =>
        rw [happend] at hwrite
        rw [hwrite] at hnext hleft ⊢
        exact ih hnext hreading hleft
      | error =>
        rw [happend] at hwrite
        rw [hwrite] at hnext hleft ⊢
        exact ih hnext hreading hleft

theorem run_consume : (consume s.logger).run s.world =
    ((s.passed (s.journal.waiting.length + 1)).logger,
      (s.passed (s.journal.waiting.length + 1)).world) := by
  cases hreading : s.logger.reading with
  | false =>
    rw [passed_of_idle hreading, consume, if_neg (hreading ▸ Bool.false_ne_true)]
    rfl
  | true =>
    have hpending : (s.world.queue s.logger.queue.cell).pending = .ok s.journal.waiting.length :=
      (Log.Queue.pending_eq h.serves.tallied.inStep).trans
        (congrArg Except.ok h.serves.tallied.length_waiting.symm)
    have hdrain : Log.drainUpTo s.journal.waiting.length (s.world.queue s.logger.queue.cell) =
        Log.drain (s.world.queue s.logger.queue.cell) := by
      rw [Log.drain, hpending]
      rfl
    have hpassed := congrArg Prod.swap (h.passed_eq hreading rfl)
    rw [readUpTo, hdrain] at hpassed
    refine Eq.trans ?_ hpassed.symm
    rw [consume, if_pos hreading]
    rfl

end Minds

/-- Stopping the logger is a run of turns of its consumer, with the marker put in between. It
answers how many lines have got into the file. -/
def Stops (s : Scene) : Prop :=
  ∃ first last,
    let t := s.afterAll (fun _ => now) (fun _ => .written)
      (List.replicate first .pass ++ .offer (.marker pid now) :: List.replicate last .pass)
    t.logger.reading = false ∧
      (stop s.logger).run.run s.world = (.ok t.logger.written,
        if s.logger.ownsName then ((forget s.logger.queue.name).run t.world).2 else t.world)

namespace Minds

variable (h : s.Minds (fun _ => now) (fun _ => .written) bare before)
include h

theorem passed (turns : Nat) :
    (s.passed turns).Minds (fun _ => now) (fun _ => .written) bare before :=
  h.afterAll _

theorem marked : s.marked.Minds (fun _ => now) (fun _ => .written) bare before := h.after _

/-- A consumer that comes upon the marker once it has taken what waits has stopped. -/
theorem reading_marked (turns : Nat) :
    ((s.passed (turns + 1)).marked.passed
      ((s.passed (turns + 1)).marked.journal.waiting.length + 1)).logger.reading = false := by
  have hpassed := h.passed (turns + 1)
  have hmarked := hpassed.marked
  obtain ⟨t, ht⟩ : ∃ t, t = (s.passed (turns + 1)).marked := ⟨_, rfl⟩
  rw [← ht] at hmarked ⊢
  cases hreading : (s.passed (turns + 1)).logger.reading with
  | false =>
    have hidle : t.logger.reading = false := ht ▸ hreading
    rw [passed_of_idle hidle]
    exact hidle
  | true =>
    have hbefore : (s.passed turns).logger.reading = true := by
      by_contra hidle
      have hidle : (s.passed turns).logger.reading = false := Bool.eq_false_iff.mpr hidle
      rw [passed_succ_last, pass_of_idle hidle, hidle] at hreading
      cases hreading
    have hroom := (h.passed turns).serves.room (fun _ => now) (fun _ => .written) hbefore
    rw [← passed_succ_last] at hroom
    have haccepted : t.journal.accepted =
        (s.passed (turns + 1)).journal.accepted ++ [.marker pid now] := by
      rw [ht]
      exact hpassed.serves.accepted_after_offer hroom (.marker pid now)
    have hmarker : (Log.ahead t.journal.accepted).length < t.journal.accepted.length := by
      rw [haccepted]
      exact Log.length_ahead_lt List.mem_concat_self rfl
    refine (hmarked.ends _ hmarker ?_).1
    have hle := hmarked.serves.tallied.length_popped_le
    rw [passes, List.countP_replicate, if_pos (show Beat.isPass .pass = true from rfl),
      Journal.waiting, List.length_drop]
    omega

theorem run_marked : ∃ found,
    (onQueue s.logger.queue.cell (Log.Queue.offer (.marker pid now))).run.run s.world =
      (.ok found, s.marked.world) := by
  obtain ⟨q, hoffer, -⟩ := Serving.offer h.serves (.marker pid now)
  have hworld : s.marked.world = _ := congrArg Prod.snd hoffer
  exact ⟨_, hoffer.trans (congrArg _ hworld.symm)⟩

theorem stops : s.Stops := by
  obtain ⟨u, hu⟩ : ∃ u, u = s.passed (s.journal.waiting.length + 1) := ⟨_, rfl⟩
  have hminds : u.Minds _ _ bare before := hu ▸ h.passed (s.journal.waiting.length + 1)
  obtain ⟨t, ht⟩ : ∃ t, t = u.marked.passed (u.marked.journal.waiting.length + 1) := ⟨_, rfl⟩
  have hbegun : t.logger.begun = s.logger.begun := by
    rw [ht, begun_passed]
    change u.logger.begun = _
    rw [hu, begun_passed]
  -- what the program does in turn: it reads, puts the marker in, and reads again
  have hfirst : (liftM (consume s.logger) : Act Logger).run.run s.world =
      (.ok u.logger, u.world) := by
    rw [run_liftM, h.run_consume, hu]
  obtain ⟨found, hmarker⟩ := hminds.run_marked
  have hlast : (liftM (consume u.logger) : Act Logger).run.run u.marked.world =
      (.ok t.logger, t.world) := by
    have hconsume := hminds.marked.run_consume
    rw [← ht] at hconsume
    exact congrArg (fun r => (Except.ok r.1, r.2)) hconsume
  refine ⟨s.journal.waiting.length + 1, u.marked.journal.waiting.length + 1, ?_⟩
  have hall : s.afterAll (fun _ => now) (fun _ => .written)
      (List.replicate (s.journal.waiting.length + 1) .pass ++ .offer (.marker pid now) ::
        List.replicate (u.marked.journal.waiting.length + 1) .pass) = t := by
    rw [Scene.afterAll, List.foldl_append, List.foldl_cons, ht, hu]
    rfl
  rw [hall]
  refine ⟨ht ▸ hu ▸ h.reading_marked s.journal.waiting.length, ?_⟩
  have howns : t.logger.ownsName = s.logger.ownsName := by
    change t.logger.begun.ownsName = s.logger.begun.ownsName
    rw [hbegun]
  have hqueue : t.logger.queue = s.logger.queue := by
    change t.logger.begun.queue = s.logger.begun.queue
    rw [hbegun]
  rw [stop, run_bind_of_ok hfirst, run_bind_of_ok hmarker, run_bind_of_ok hlast, ← howns, ← hqueue]
  cases t.logger.ownsName <;> rfl

end Minds

end Scene

theorem Serving.files_usedAll {w : World} {bare : String} {cell : Nat} (h : w.Serving bare cell {})
    (uses : List Use) : (World.usedAll cell w uses).1.files = w.files := by
  have hall (s : World × Journal) (hs : s.1.Serving bare cell s.2) :
      (uses.foldl (World.used cell) s).1.files = s.1.files := by
    induction uses generalizing s with
    | nil => rfl
    | cons u uses ih => exact (ih _ (hs.used u)).trans (hs.quiet.files_used cell s.2 u)
  exact hall (w, {}) h

/-- A consumer that has just begun has taken and written nothing, whatever waits for it. -/
theorem Scene.Minds.opened {w : World} {bare : String} {m : Region.Mapping} {j : Journal}
    (h : w.Serving bare m.cell j) {files : Files} {path : String} {sink : Option String}
    (hsink : files.Sink path sink) (owns : Bool) (time : Nat → Int64) (fate : Nat → Fate) :
    Minds time fate bare sink
      ⟨{ w with files }, j.onward, { queue := m, path, ownsName := owns }⟩ where
  serves := ⟨h.quiet, h.housed, h.tallied.onward⟩
  extent := rfl
  sink := by
    have hnothing : sink.map (· ++ "") = sink := by
      cases sink with
      | none => rfl
      | some text => exact congrArg some String.append_empty
    exact hnothing.symm ▸ hsink
  written := by cases sink <;> rfl

/-- A logger that is opened at any time on a queue that was made under a new name begins to read
what waits there. -/
theorem exists_minds {w : World} (hw : w.Quiet) {name bare path : String} {files : Files}
    (hb : Region.bareName? name = some bare) (hn : w.space.entry? bare = none)
    (hq : w.queues.get? w.space.cells.length = none)
    (hf : w.files.openToAppend path = .ok files) (label : String) :
    ∃ start, (createQueue label name).run.run w = (.ok (), start) ∧
      start.queueAt? label = some w.space.cells.length ∧
      ∃ sink, files.Sink path sink ∧
        ∀ (uses : List Use) (m : Region.Mapping) (owns : Bool), m.cell = w.space.cells.length →
          ∃ l opened, l = { queue := m, path, ownsName := owns } ∧
            (openLogger m path owns).run.run (usedAll m.cell start uses).1 = (.ok l, opened) ∧
            ∀ time fate, Scene.Minds time fate bare sink
              ⟨opened, (usedAll m.cell start uses).2.onward, l⟩ := by
  obtain ⟨start, hrun, hlabel, hserving⟩ := serving_createQueue hw hb hn hq label
  have hstart : start.files = w.files := by
    have hused : (used w.space.cells.length (w, {}) (.create label name)).1 = start :=
      congrArg Prod.snd hrun
    rw [← hused, hw.files_used]
  obtain ⟨sink, hsink⟩ := Files.sink_openToAppend hf
  refine ⟨start, hrun, hlabel, sink, hsink, fun uses m owns hm => ?_⟩
  rw [← hm] at hserving
  have hopen := run_openLogger (usedAll m.cell start uses).1 m path owns
  rw [hserving.files_usedAll, hstart, hf] at hopen
  exact ⟨_, _, rfl, hopen, .opened (hserving.usedAll uses) hsink owns⟩

/-- Whatever is done with a queue, by whomever and whichever lines do not get into the file: the
consumer that reads the queue writes what was put in ahead of the first marker, and stops there. -/
theorem drained_afterAll {w : World} (hw : w.Quiet) {name bare path : String} {files : Files}
    (hb : Region.bareName? name = some bare) (hn : w.space.entry? bare = none)
    (hq : w.queues.get? w.space.cells.length = none)
    (hf : w.files.openToAppend path = .ok files) (label : String) :
    ∃ start, (createQueue label name).run.run w = (.ok (), start) ∧
      start.queueAt? label = some w.space.cells.length ∧
      ∀ (uses : List Use) (m : Region.Mapping) (owns : Bool), m.cell = w.space.cells.length →
        ∃ l opened, l = { queue := m, path, ownsName := owns } ∧
          (openLogger m path owns).run.run (usedAll m.cell start uses).1 = (.ok l, opened) ∧
          (∀ time fate beats,
            let t := Scene.afterAll time fate
              ⟨opened, (usedAll m.cell start uses).2.onward, l⟩ beats
            t.logger.begun = l ∧ t.Drained time fate (files.load path)) ∧
          ∀ beats, (Scene.afterAll (fun _ => now) (fun _ => .written)
            ⟨opened, (usedAll m.cell start uses).2.onward, l⟩ beats).Stops := by
  obtain ⟨start, hrun, hlabel, sink, hsink, hall⟩ := exists_minds hw hb hn hq hf label
  refine ⟨start, hrun, hlabel, fun uses m owns hm => ?_⟩
  obtain ⟨l, opened, rfl, hopen, hminds⟩ := hall uses m owns hm
  refine ⟨_, opened, rfl, hopen, fun time fate beats => ⟨?_, ?_⟩, fun beats => ?_⟩
  · exact Scene.begun_afterAll time fate _ beats
  · rw [hsink.load]
    exact ((hminds time fate).afterAll beats).drained
  · exact ((hminds _ _).afterAll beats).stops

theorem drained_afterAll_of_failure :
    ∃ (early late : Record) (m : Region.Mapping) (l : Logger) (files : Files) (beats : List Beat)
        (fate : Nat → Fate),
      early = { text := "early" } ∧ late = { text := "late" } ∧ m = ⟨"q", 0, 10696⟩ ∧
      l = { queue := m, path := "game.log", ownsName := true } ∧
      files = { texts := ⟨[(["game.log"], "")]⟩ } ∧
      beats = [.tell "one", .pass, .pass, .offer (.marker 7 0), .offer late, .pass, .pass] ∧
      fate = (fun i => if i = 1 then .failed "part of it" else .written) ∧
      Quiet {} ∧ Region.bareName? "/q" = some "q" ∧ Region.Space.entry? {} "q" = none ∧
      ({} : World).queues.get? 0 = none ∧
      ({} : World).files.openToAppend "game.log" = .ok files ∧
      ∃ start opened, (createQueue "a" "/q").run.run {} = (.ok (), start) ∧
        (openLogger m "game.log" true).run.run
          (usedAll 0 start [.call "a" (.tryPush early)]).1 = (.ok l, opened) ∧
        ∃ t, t = Scene.afterAll (fun _ => 0) fate
            ⟨opened, (usedAll 0 start [.call "a" (.tryPush early)]).2.onward, l⟩ beats ∧
          t.Drained (fun _ => 0) fate (files.load "game.log") ∧
          t.journal.accepted = [early, .message 2 0 "one", .marker 7 0, late] ∧
          t.logger.reading = false ∧ t.logger.written = 1 ∧
          (t.world.queue 0).contents = [late] ∧
          t.world.files.load "game.log" =
            .ok "1970-01-01 00:00:00.000 [0] early\npart of it" := by
  have hquiet : Quiet {} := fun _ _ _ h => nomatch h
  have hbare : Region.bareName? "/q" = some "q" := by decide +kernel
  obtain ⟨early, hearly⟩ : ∃ early : Record, early = { text := "early" } := ⟨_, rfl⟩
  obtain ⟨late, hlate⟩ : ∃ late : Record, late = { text := "late" } := ⟨_, rfl⟩
  obtain ⟨files, hfiles⟩ : ∃ files : Files, files = { texts := ⟨[(["game.log"], "")]⟩ } := ⟨_, rfl⟩
  obtain ⟨beats, hbeats⟩ : ∃ beats : List Beat, beats =
      [.tell "one", .pass, .pass, .offer (.marker 7 0), .offer late, .pass, .pass] := ⟨_, rfl⟩
  obtain ⟨fate, hfate⟩ : ∃ fate : Nat → Fate,
      fate = fun i => if i = 1 then .failed "part of it" else .written := ⟨_, rfl⟩
  have hopen : ({} : World).files.openToAppend "game.log" = .ok files := by
    rw [hfiles]
    decide +kernel
  obtain ⟨start, hrun, -, hall⟩ := drained_afterAll hquiet hbare rfl rfl hopen "a"
  obtain ⟨l, opened, hl, hopened, hdrained, -⟩ :=
    hall [.call "a" (.tryPush early)] ⟨"q", 0, 10696⟩ true rfl
  refine ⟨early, late, _, l, files, beats, fate, hearly, hlate, rfl, hl, hfiles, hbeats, hfate,
    hquiet, hbare, rfl, rfl, hopen, start, opened, hrun, hopened, _, rfl,
    (hdrained _ fate beats).2, ?_⟩
  have hstart : start = ((createQueue "a" "/q").run.run {}).2 := (congrArg Prod.snd hrun).symm
  have hopened' : opened = ((openLogger ⟨"q", 0, 10696⟩ "game.log" true).run.run
      (usedAll 0 start [.call "a" (.tryPush early)]).1).2 := (congrArg Prod.snd hopened).symm
  rw [hl, hopened', hstart, hbeats, hfate, hearly, hlate]
  refine ⟨?_, ?_, ?_, ?_, ?_⟩
  all_goals decide +kernel

end Rota.World
