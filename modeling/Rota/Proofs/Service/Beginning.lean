import Rota.Proofs.Service.Clearing
import Rota.Proofs.World.Opening

namespace Rota.Service.Host

open Cli (HostOptions)
open Region (Mapping bareName?)

theorem append_ne_append {p q : String} {a b : Char} (hp : p.toList.head? = some a)
    (hq : q.toList.head? = some b) (hab : a ≠ b) (s t : String) : p ++ s ≠ q ++ t := by
  intro h
  have hlist : p.toList ++ s.toList = q.toList ++ t.toList := by
    rw [← String.toList_append, ← String.toList_append, h]
  have hhead := congrArg List.head? hlist
  rw [List.head?_append, List.head?_append, hp, hq] at hhead
  exact hab (Option.some.inj hhead)

theorem stationLabel_ne_loggerLabel (game : String) : stationLabel game ≠ loggerLabel game :=
  append_ne_append (p := "host of ") (q := "logger of ") rfl rfl (by decide) game game

/-- The game and its log go by different names. -/
theorem bareName?_ne {game bare bare' : String} (h : bareName? game = some bare)
    (h' : bareName? (logName game) = some bare') : bare ≠ bare' := by
  rintro rfl
  have hgame := (Region.bareName?_eq_some_iff.mp h).1
  have hlog := (Region.bareName?_eq_some_iff.mp h').1
  have hlength : (logName game).toList.length = game.toList.length + 4 := by
    have happend : (logName game).toList = game.toList ++ "_log".toList := String.toList_append
    rw [happend, List.length_append]
    rfl
  have hslash : ("/" ++ bare).toList.length = bare.toList.length + 1 := by
    rw [String.toList_append, List.length_append, Nat.add_comm]
    rfl
  rcases hgame with hg | hg <;> rcases hlog with hl | hl
  all_goals
    rw [hl, hg] at hlength
    omega

section run

variable {w w' : World}

section attempt

variable {α : Type} {act : World.Act α}

theorem run_attempt_of_ok {a : α} (h : act.run.run w = (.ok a, w')) (task : Option Task) :
    (attempt task act).run.run w = (.ok a, w') := by
  have hlift := World.run_liftM (ε := Failure) w act.run
  rw [h] at hlift
  rw [attempt, World.run_bind_of_ok hlift]
  rfl

theorem run_attempt_of_error {f : World.Fault} (h : act.run.run w = (.error f, w'))
    (task : Option Task) :
    (attempt task act).run.run w = (.error ⟨task, .world f⟩, w') := by
  have hlift := World.run_liftM (ε := Failure) w act.run
  rw [h] at hlift
  rw [attempt, World.run_bind_of_ok hlift]
  rfl

end attempt

theorem run_tryCatch_of_ok {α : Type} {x : Act α} {a : α} {h : Failure → Act α}
    (hx : x.run.run w = (.ok a, w')) : (tryCatch x h).run.run w = (.ok a, w') := by
  rw [ExceptT.run_tryCatch, StateT.run_bind, hx]
  rfl

theorem run_tryCatch_of_error {α : Type} {x : Act α} {f : Failure} {h : Failure → Act α}
    (hx : x.run.run w = (.error f, w')) :
    (tryCatch x h).run.run w = (h f).run.run w' := by
  rw [ExceptT.run_tryCatch, StateT.run_bind, hx]
  rfl

/-- Sits down at the table, and goes if there is none to be had. -/
def sitOrLeave (o : HostOptions) (rules : Rules) (queue : Mapping) : Act Unit :=
  tryCatch (takeStation o rules queue) fun f => do
    leave o
    throw f

theorem begin_eq (o : HostOptions) :
    begin o = (do
      let rules ← match o.rules.resolve (← get).files with
        | .ok r => pure r
        | .error f => throw ⟨none, .rules f⟩
      clear o
      let logger ← attempt (some (.startLog o.logFile))
        (World.startLogger (loggerLabel o.name) (logName o.name) o.logFile)
      sitOrLeave o rules logger.queue
      return rules) := by
  unfold begin clear
  cases o.reset with
  | false => rfl
  | true =>
    simp only [if_true, bind_assoc]
    rfl

theorem run_leave (o : HostOptions) (w : World) :
    ((leave o).run w).2 =
      ((World.drop (loggerLabel o.name)).run.run
        ((World.drop (stationLabel o.name)).run.run w).2).2 :=
  rfl

end run

/-- The log could not be started for want of its file. -/
def Unlogged (o : HostOptions) (failure : Option Failure) : Prop :=
  ∃ e, failure = some ⟨some (.startLog o.logFile), .world (.log (.file e))⟩

def About (task : Task) (failure : Option Failure) : Prop :=
  failure.bind (·.task) = some task

theorem not_unlogged {o : HostOptions} {f : Failure} (h : f.task ≠ some (.startLog o.logFile)) :
    ¬Unlogged o f := by
  rintro ⟨e, he⟩
  rw [Option.some.inj he] at h
  exact h rfl

/-- What is left under the names of a host that made regions itself, by the failure it ends with. -/
structure Left (o : HostOptions) (start w : World) (failure : Option Failure) : Prop where
  queue : Stray start w (logName o.name) ↔ Creates o start (logName o.name) ∧ Unlogged o failure
  table : Stray start w o.name ↔ Creates o start o.name ∧
    (About (.saveScores o.scoresFile) failure ∨ About .stopLog failure)
  /-- Only a log that was there before can fail to be stopped. -/
  joined : About .stopLog failure → ¬Creates o start (logName o.name)

/-- The host runs a logger that owns the name of its queue. A queue that the host has made is in
step, so that the logger can be stopped. -/
structure Logs (o : HostOptions) (start w : World) (q : Mapping) : Prop where
  reader : w.readerAt? (loggerLabel o.name) = some (q, true)
  name : q.name = logName o.name
  binds : Binds w (logName o.name) q.cell
  made : start.space.cells.length ≤ q.cell ↔ Creates o start (logName o.name)
  inStep : start.space.cells.length ≤ q.cell → (w.queue q.cell).InStep

/-- The host sits at the table of the game, which is set up if the host has made it. -/
structure Sits (o : HostOptions) (start w : World) (s : Station) : Prop where
  station : w.stationAt? (stationLabel o.name) = some s
  name : s.table.name = o.name
  binds : Binds w o.name s.table.cell
  made : start.space.cells.length ≤ s.table.cell ↔ Creates o start o.name
  setUp : start.space.cells.length ≤ s.table.cell → (w.games.get? s.table.cell).isSome

/-- What a host has is spared: its names, its station and its logger, and with them the tables that
are set up and the queues that are in step. -/
structure Spares (o : HostOptions) (w w' : World) : Prop where
  entries : ∀ given ∈ names o, ∀ bare, bareName? given = some bare →
    w'.space.entry? bare = w.space.entry? bare
  station : w'.stationAt? (stationLabel o.name) = w.stationAt? (stationLabel o.name)
  logger : w'.readerAt? (loggerLabel o.name) = w.readerAt? (loggerLabel o.name)
  games : ∀ cell, (w.games.get? cell).isSome → (w'.games.get? cell).isSome
  queues : ∀ cell, (w.queue cell).InStep → (w'.queue cell).InStep

theorem name_mem_names (o : HostOptions) : o.name ∈ names o := List.mem_cons_self

theorem logName_mem_names (o : HostOptions) : logName o.name ∈ names o :=
  List.mem_cons_of_mem _ List.mem_cons_self

section spares

variable {o : HostOptions} {start w w' : World}

theorem Spares.of_undisturbed (h : w.Undisturbed w') : Spares o w w' where
  entries given _ bare _ := by rw [h.space]
  station := by rw [World.stationAt?, World.stationAt?, h.objects]
  logger := by rw [World.readerAt?, World.readerAt?, h.objects]
  games := h.games
  queues := h.queues

theorem Logs.congr {q : Mapping} (h : Logs o start w q)
    (hentry : ∀ bare, bareName? (logName o.name) = some bare →
      w'.space.entry? bare = w.space.entry? bare)
    (hreader : w'.readerAt? (loggerLabel o.name) = w.readerAt? (loggerLabel o.name))
    (hqueue : (w.queue q.cell).InStep → (w'.queue q.cell).InStep) : Logs o start w' q where
  reader := hreader.trans h.reader
  name := h.name
  binds := h.binds.congr hentry
  made := h.made
  inStep hle := hqueue (h.inStep hle)

theorem Logs.spared {q : Mapping} (h : Logs o start w q) (hs : Spares o w w') :
    Logs o start w' q :=
  h.congr (hs.entries _ (logName_mem_names o)) hs.logger (hs.queues q.cell)

theorem Sits.spared {s : Station} (h : Sits o start w s) (hs : Spares o w w') :
    Sits o start w' s where
  station := hs.station.trans h.station
  name := h.name
  binds := h.binds.congr (hs.entries _ (name_mem_names o))
  made := h.made
  setUp hle := hs.games s.table.cell (h.setUp hle)

end spares

section leave

variable {o : HostOptions} {start w w' : World} {q : Mapping} {s : Station}

/-- However the logger stops, the host does not leave a queue behind that it has made. -/
theorem Logs.stopped (h : Logs o start w q) {done : Bool}
    (hs : World.Stopped { w with objects := w.objects.erase (loggerLabel o.name) } q done w') :
    ¬Stray start w' (logName o.name) ∧
      (∀ bare, bareName? o.name = some bare → w'.space.entry? bare = w.space.entry? bare) ∧
      (done = false → ¬Creates o start (logName o.name)) := by
  obtain ⟨bare, hb, he⟩ := h.binds
  have hname : bareName? q.name = some bare := by
    rw [h.name]
    exact hb
  have hentry := hs.entry hname he
  -- a logger fails to stop only on a queue that was there before
  have hstep : done = false → ¬start.space.cells.length ≤ q.cell := by
    intro hdone hle
    exact hs.not_inStep hdone (h.inStep hle)
  refine ⟨?_, ?_, ?_⟩
  · rintro ⟨cell, hle, other, ho, hcell⟩
    rw [Option.some.inj (ho.symm.trans hb), hentry bare] at hcell
    cases done with
    | true =>
      rw [if_pos ⟨rfl, rfl⟩] at hcell
      cases hcell
    | false =>
      rw [if_neg (fun hn => Bool.false_ne_true hn.1)] at hcell
      rw [← h.binds.unique ⟨bare, hb, hcell⟩] at hle
      exact hstep rfl hle
  · intro other ho
    rw [hentry other, if_neg (fun hn => bareName?_ne ho hb hn.2)]
  · intro hdone hcreates
    exact hstep hdone (h.made.mpr hcreates)

theorem Logs.drop (h : Logs o start w q) :
    ¬Stray start ((World.drop (loggerLabel o.name)).run.run w).2 (logName o.name) ∧
      (Stray start ((World.drop (loggerLabel o.name)).run.run w).2 o.name ↔
        Stray start w o.name) := by
  obtain ⟨done, hstopped⟩ := World.drop_logger h.reader
  obtain ⟨hqueue, hsame, -⟩ := h.stopped hstopped
  exact ⟨hqueue, stray_congr hsame⟩

theorem Logs.erase (h : Logs o start w q) :
    Logs o start { w with objects := w.objects.erase (stationLabel o.name) } q := by
  have hreader : World.readerAt? { w with objects := w.objects.erase (stationLabel o.name) }
      (loggerLabel o.name) = w.readerAt? (loggerLabel o.name) := by
    have hne := (stationLabel_ne_loggerLabel o.name).symm
    rw [World.readerAt?, World.readerAt?, Register.get?_erase_of_ne _ hne]
  exact h.congr (fun _ _ => rfl) hreader id

/-- A host that just goes leaves the table behind. -/
theorem Logs.leave (h : Logs o start w q) (hs : Sits o start w s) :
    ¬Stray start ((leave o).run w).2 (logName o.name) ∧
      (Stray start ((leave o).run w).2 o.name ↔ Creates o start o.name) := by
  rw [run_leave, World.drop_station hs.station]
  obtain ⟨hqueue, htable⟩ := h.erase.drop
  refine ⟨hqueue, htable.trans ?_⟩
  have hbinds : Binds { w with objects := w.objects.erase (stationLabel o.name) } o.name
      s.table.cell := hs.binds
  exact hbinds.stray_iff.trans hs.made

end leave

section opening

variable {o : HostOptions} {start : World}

/-- A host that fails over anything but its log, the scores or the end of the log leaves nothing
behind if both names are rid of what it made. -/
theorem left_of_not_stray {w : World} {failure : Option Failure}
    (hqueue : ¬Stray start w (logName o.name)) (htable : ¬Stray start w o.name)
    (hlog : ¬Unlogged o failure) (hsave : ¬About (.saveScores o.scoresFile) failure)
    (hstop : ¬About .stopLog failure) : Left o start w failure where
  queue := by simp [hqueue, hlog]
  table := by simp [htable, hsave, hstop]
  joined h := absurd h hstop

/-- Where a host stands that has begun, or has failed to. -/
inductive Begun (o : HostOptions) (start : World) : Except Failure Rules → World → Prop
  | failed {f : Failure} {w : World} (left : Left o start w f) : Begun o start (.error f) w
  | hosting {rules : Rules} {w : World} {q : Mapping} {s : Station} (logs : Logs o start w q)
      (sits : Sits o start w s) (others : ∀ label, label ≠ stationLabel o.name →
        label ≠ loggerLabel o.name → w.objects.get? label = start.objects.get? label) :
      Begun o start (.ok rules) w

theorem takeStation_cases {w : World} (hnone : w.objects.get? (stationLabel o.name) = none)
    (rules : Rules) (queue : Mapping) :
    (∃ task f, (takeStation o rules queue).run.run w = (.error ⟨some task, f⟩, w) ∧
        (task = .loadScores o.scoresFile ∨ task = .createGame)) ∨
      ∃ m bare w', w.TableHad o.name bare m w' ∧ (takeStation o rules queue).run.run w =
        (.ok (), w'.withObject (stationLabel o.name) (.station { table := m, log := queue })) := by
  have hload := World.run_loadBoard w (.file o.scoresFile)
  rw [takeStation]
  cases hsaved : Score.Store.load w.files (.file o.scoresFile) with
  | error f =>
    rw [hsaved] at hload
    rw [World.run_bind_of_error (run_attempt_of_error hload _)]
    exact .inl ⟨_, _, rfl, .inl rfl⟩
  | ok saved =>
    rw [hsaved] at hload
    rw [World.run_bind_of_ok (run_attempt_of_ok hload _)]
    obtain ⟨f, hopen⟩ | ⟨m, bare, w', hopen, hhad⟩ :=
      World.openOrMakeTable_cases w o.name rules saved
    · rw [World.run_bind_of_error (run_attempt_of_error hopen _)]
      exact .inl ⟨_, _, rfl, .inr rfl⟩
    · rw [World.run_bind_of_ok (run_attempt_of_ok hopen _)]
      have hfree : w'.objects.get? (stationLabel o.name) = none := by
        rw [hhad.objects]
        exact hnone
      refine .inr ⟨m, bare, w', hhad, ?_⟩
      rw [World.run_liftM, World.run_put_of_none hfree]

/-- The world before a host, which has nothing in it yet and no queue in memory still to be made. -/
structure Ready (o : HostOptions) (w : World) : Prop where
  sound : w.space.Sound
  unused : w.queues.get? w.space.cells.length = none
  station : w.objects.get? (stationLabel o.name) = none
  logger : w.objects.get? (loggerLabel o.name) = none

variable (h : Ready o start)
include h

theorem Ready.not_stray_of_queueHad {w w' : World} (hc : Cleared o start w) {bare : String}
    {m : Mapping} (had : w.QueueHad (logName o.name) bare m w') : ¬Stray start w' o.name := by
  have hsame : ∀ other, bareName? o.name = some other →
      w'.space.entry? other = w.space.entry? other :=
    fun other ho => had.opened.others other (bareName?_ne ho had.opened.proper)
  rw [stray_congr hsame]
  exact hc.trimmed.not_stray h.sound o.name

theorem Ready.logs {w w₁ w₂ : World} (hc : Cleared o start w) {bare : String} {l : Logger}
    (had : w.QueueHad (logName o.name) bare l.queue w₁) (others : w₁.Undisturbed w₂)
    (owns : l.ownsName = true) :
    Logs o start (w₂.withObject (loggerLabel o.name) (.logger l)) l.queue where
  reader := by rw [World.readerAt?_withObject, owns]
  name := had.opened.name
  binds := by
    refine ⟨bare, had.opened.proper, ?_⟩
    show w₂.space.entry? bare = _
    rw [others.space]
    exact had.opened.bound
  made := hc.made_iff h.sound (logName_mem_names o) rfl (Nat.le_refl _) had.opened
  inStep hle := by
    have hmade := hc.made_iff h.sound (logName_mem_names o) rfl (Nat.le_refl _) had.opened
    have hnone := hc.absent (logName_mem_names o) (hmade.mp hle) had.opened.proper
    have hunused : w.queues.get? w.space.cells.length = none := by
      rw [hc.trimmed.queues, hc.trimmed.cells]
      exact h.unused
    exact others.queues l.queue.cell (had.inStep hnone hunused)

theorem Ready.sits {w w₁ w₂ : World} (hc : Cleared o start w) {bare : String} {m : Mapping}
    (hsame : w₁.space.entry? bare = w.space.entry? bare)
    (hlength : w.space.cells.length ≤ w₁.space.cells.length)
    (had : w₁.TableHad o.name bare m w₂) (log : Option Mapping) :
    Sits o start (w₂.withObject (stationLabel o.name) (.station { table := m, log }))
      { table := m, log } where
  station := World.stationAt?_withObject w₂ _ _
  name := had.opened.name
  binds := ⟨bare, had.opened.proper, had.opened.bound⟩
  made := hc.made_iff h.sound (name_mem_names o) hsame hlength had.opened
  setUp hle := by
    have hmade := hc.made_iff h.sound (name_mem_names o) hsame hlength had.opened
    have hnone := hc.absent (name_mem_names o) (hmade.mp hle) had.opened.proper
    exact had.setUp (hsame.trans hnone)

/-- A host that has its logger either sits down as well or takes its queue away again. -/
theorem Ready.sitOrLeave_cases {w w₁ : World} (hc : Cleared o start w) {q : Mapping}
    (hlogs : Logs o start w₁ q) (hfree : w₁.objects.get? (stationLabel o.name) = none)
    (hsame : ∀ bare, bareName? o.name = some bare →
      w₁.space.entry? bare = w.space.entry? bare)
    (hlength : w.space.cells.length ≤ w₁.space.cells.length) (rules : Rules) :
    (∃ f w', (sitOrLeave o rules q).run.run w₁ = (.error f, w') ∧ Left o start w' f) ∨
      ∃ s w', (sitOrLeave o rules q).run.run w₁ = (.ok (), w') ∧ Logs o start w' q ∧
        Sits o start w' s ∧ ∀ label, label ≠ stationLabel o.name →
          w'.objects.get? label = w₁.objects.get? label := by
  obtain ⟨task, f, hrun, htask⟩ | ⟨m, bare, w₂, had, hrun⟩ := takeStation_cases hfree rules q
  · left
    refine ⟨⟨some task, f⟩, ((leave o).run w₁).2, ?_, ?_⟩
    · rw [sitOrLeave, run_tryCatch_of_error hrun, World.run_bind_of_ok (World.run_liftM w₁ (leave o))]
      rfl
    · have hgame : ¬Stray start w₁ o.name := by
        rw [stray_congr hsame]
        exact hc.trimmed.not_stray h.sound o.name
      rw [run_leave, World.drop_of_none hfree]
      obtain ⟨hqueue, htable⟩ := hlogs.drop
      have hnone := htable.not.mpr hgame
      rcases htask with rfl | rfl
      · exact left_of_not_stray hqueue hnone (not_unlogged nofun) nofun nofun
      · exact left_of_not_stray hqueue hnone (not_unlogged nofun) nofun nofun
  · right
    have hbare := had.opened.proper
    refine ⟨_, _, run_tryCatch_of_ok hrun, hlogs.congr ?_ ?_ ?_,
      h.sits hc (hsame bare hbare) hlength had q, ?_⟩
    · intro other ho
      exact had.opened.others other (bareName?_ne hbare ho).symm
    · have hne := (stationLabel_ne_loggerLabel o.name).symm
      rw [World.readerAt?, World.readerAt?, World.get?_objects_withObject _ _ hne, had.objects]
    · intro hq
      show Log.Queue.InStep ((w₂.queues.get? q.cell).getD {})
      rw [had.queues]
      exact hq
    · intro label hlabel
      rw [World.get?_objects_withObject _ _ hlabel, had.objects]

/-- A host that cannot begin leaves nothing behind, unless it is for want of the file for its log. -/
theorem Ready.begun : Begun o start ((begin o).run.run start).1 ((begin o).run.run start).2 := by
  rw [begin_eq]
  have hget : (get : Act World).run.run start = (.ok start, start) := rfl
  rw [World.run_bind_of_ok hget]
  cases o.rules.resolve start.files with
  | error f =>
    have hthrow : (throw ⟨none, .rules f⟩ : Act Rules).run.run start =
        (.error ⟨none, .rules f⟩, start) := rfl
    rw [World.run_bind_of_error hthrow]
    have htrim := Trimmed.refl start
    exact .failed (left_of_not_stray (htrim.not_stray h.sound _) (htrim.not_stray h.sound _)
      nofun nofun nofun)
  | ok rules =>
    have hpure : (pure rules : Act Rules).run.run start = (.ok rules, start) := rfl
    rw [World.run_bind_of_ok hpure]
    obtain ⟨w, hrun, hc⟩ | ⟨name, cause, w, hrun, htrim⟩ := clear_cases o start
    · rw [World.run_bind_of_ok hrun]
      have hfree : w.objects.get? (loggerLabel o.name) = none := by
        rw [hc.trimmed.objects]
        exact h.logger
      have hstart := World.startLogger_cases hfree (logName o.name) o.logFile
      rcases hrun : (World.startLogger (loggerLabel o.name) (logName o.name) o.logFile).run.run w
        with ⟨r, w'⟩
      rw [hrun] at hstart
      dsimp only at hstart
      cases hstart with
      | refused f =>
        rw [World.run_bind_of_error (run_attempt_of_error hrun _)]
        exact .failed (left_of_not_stray (hc.trimmed.not_stray h.sound _)
          (hc.trimmed.not_stray h.sound _) (by rintro ⟨e, he⟩; cases he) nofun nofun)
      | @unlogged m bare _ had e =>
        rw [World.run_bind_of_error (run_attempt_of_error hrun _)]
        have hbinds : Binds w' (logName o.name) m.cell :=
          ⟨bare, had.opened.proper, had.opened.bound⟩
        have hmade := hc.made_iff h.sound (logName_mem_names o) rfl (Nat.le_refl _) had.opened
        refine .failed ⟨?_, ?_, nofun⟩
        · rw [hbinds.stray_iff, hmade, and_iff_left]
          exact ⟨e, rfl⟩
        · simp [h.not_stray_of_queueHad hc had, About]
      | @started bare l w₁ w₂ _ had others owns stands =>
        rw [World.run_bind_of_ok (run_attempt_of_ok hrun _), stands]
        have hfree' : (w₂.withObject (loggerLabel o.name) (.logger l)).objects.get?
            (stationLabel o.name) = none := by
          rw [World.get?_objects_withObject _ _ (stationLabel_ne_loggerLabel o.name),
            others.objects, had.objects, hc.trimmed.objects]
          exact h.station
        have hsame : ∀ other, bareName? o.name = some other →
            w₂.space.entry? other = w.space.entry? other := by
          intro other ho
          rw [others.space]
          exact had.opened.others other (bareName?_ne ho had.opened.proper)
        have hlength : w.space.cells.length ≤ w₂.space.cells.length := by
          rw [others.space]
          exact had.opened.length_le
        obtain ⟨f, w', hsit, hleft⟩ | ⟨s, w', hsit, hlogs, hsits, hothers⟩ :=
          h.sitOrLeave_cases hc (h.logs hc had others owns) hfree' hsame hlength rules
        · rw [World.run_bind_of_error hsit]
          exact .failed hleft
        · rw [World.run_bind_of_ok hsit]
          refine .hosting hlogs hsits ?_
          intro label hstation hlogger
          show w'.objects.get? label = _
          rw [hothers label hstation, World.get?_objects_withObject _ _ hlogger, others.objects,
            had.objects, hc.trimmed.objects]
    · rw [World.run_bind_of_error hrun]
      exact .failed (left_of_not_stray (htrim.not_stray h.sound _) (htrim.not_stray h.sound _)
        nofun nofun nofun)

/-- Under the labels of others stands what stood there before. -/
theorem Ready.others {rules : Rules} {w : World} (hrun : (begin o).run.run start = (.ok rules, w))
    {label : String} (hstation : label ≠ stationLabel o.name)
    (hlogger : label ≠ loggerLabel o.name) :
    w.objects.get? label = start.objects.get? label := by
  have hbegun := h.begun
  rw [hrun] at hbegun
  cases hbegun with
  | hosting _ _ others => exact others label hstation hlogger

end opening

end Rota.Service.Host
