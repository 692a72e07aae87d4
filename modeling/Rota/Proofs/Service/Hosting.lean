import Rota.Proofs.Service.Visiting

namespace Rota.Service.Host

open Cli (HostOptions)
open Region (Mapping bareName?)

section finish

variable {o : HostOptions} {start w : World} {q : Mapping} {s : Station}

/-- Keeping the scores disturbs nothing. It fails over a table that is not set up, or over the file
for the scores. -/
theorem conclude_cases (hs : w.stationAt? (stationLabel o.name) = some s) :
    (∃ cause, (conclude o).run.run w = (.error ⟨none, cause⟩, w) ∧
        w.games.get? s.table.cell = none) ∨
      (∃ cause, (conclude o).run.run w = (.error ⟨some (.saveScores o.scoresFile), cause⟩, w)) ∨
        ∃ printed w', (conclude o).run.run w = (.ok printed, w') ∧ w.Undisturbed w' := by
  obtain ⟨serial, ho⟩ := World.exists_of_stationAt? hs
  have hstation := World.run_stationAt ho
  have hover : World.isOver (stationLabel o.name) =
      (World.stationAt (stationLabel o.name) >>= fun s => do
        return (← World.lockedGame s.table.cell).isOver) := rfl
  rw [conclude]
  cases hg : w.games.get? s.table.cell with
  | none =>
    left
    have hlocked := World.run_lockedGame_of_none hg
    have hrun : (World.isOver (stationLabel o.name)).run.run w =
        (.error (.table (.uninitialised .mutex)), w) := by
      rw [hover, World.run_bind_of_ok hstation, World.run_bind_of_error hlocked]
    rw [World.run_bind_of_error (run_attempt_of_error hrun none)]
    exact ⟨_, rfl, rfl⟩
  | some g =>
    right
    have hlocked := World.run_lockedGame hg
    have hrun : (World.isOver (stationLabel o.name)).run.run w = (.ok g.isOver, w) := by
      rw [hover, World.run_bind_of_ok hstation, World.run_bind_of_ok hlocked]
      rfl
    rw [World.run_bind_of_ok (run_attempt_of_ok hrun none)]
    cases g.isOver with
    | false => exact .inr ⟨none, w, rfl, .refl w⟩
    | true =>
      have hscores : (World.scores (stationLabel o.name)).run.run w =
          (.ok g.scores.toBoard, w) := by
        rw [World.scores, World.run_bind_of_ok hstation, World.run_board hg]
      rw [if_pos rfl, World.run_bind_of_ok (run_attempt_of_ok hscores none)]
      have hsave := World.run_saveIn w (.file o.scoresFile) g.scores.toBoard
      cases hstore : Score.Store.save w.files g.scores.toBoard (.file o.scoresFile) with
      | error f =>
        rw [hstore] at hsave
        rw [World.run_bind_of_error (run_attempt_of_error hsave _)]
        exact .inl ⟨_, rfl⟩
      | ok r =>
        obtain ⟨store, files⟩ := r
        rw [hstore] at hsave
        rw [World.run_bind_of_ok (run_attempt_of_ok hsave _)]
        have hsnapshot : (World.snapshot (stationLabel o.name)).run.run { w with files } =
            (.ok g, { w with files }) := by
          have hstation' : (World.stationAt (stationLabel o.name)).run.run { w with files } =
              (.ok s, { w with files }) := World.run_stationAt ho
          rw [World.snapshot, World.run_bind_of_ok hstation']
          exact World.run_lockedGame hg
        rw [World.run_bind_of_ok (run_attempt_of_ok hsnapshot none)]
        exact .inr ⟨_, { w with files }, rfl, rfl, rfl, fun _ hg => hg, fun _ hq => hq⟩

/-- A host that stops its log and destroys its table leaves nothing behind; one whose log does not
stop leaves the table. -/
theorem shutDown_cases (hl : Logs o start w q) (hs : Sits o start w s) :
    (∃ w', (shutDown o).run.run w = (.ok (), w') ∧ ¬Stray start w' (logName o.name) ∧
        ¬Stray start w' o.name) ∨
      ∃ cause w', (shutDown o).run.run w = (.error ⟨some .stopLog, cause⟩, w') ∧
        ¬Stray start ((leave o).run w').2 (logName o.name) ∧
        (Stray start ((leave o).run w').2 o.name ↔ Creates o start o.name) ∧
        ¬Creates o start (logName o.name) := by
  obtain ⟨done, hstopped, hdone⟩ := World.shutDown_logger hl.reader
  rcases hrun : (World.shutDown (loggerLabel o.name)).run.run w with ⟨f | n, w₁⟩
  all_goals
    rw [hrun] at hstopped hdone
    obtain ⟨hqueue, hsame, hjoined⟩ := hl.stopped hstopped
    have hbinds : Binds w₁ o.name s.table.cell := hs.binds.congr hsame
    have hobjects : w₁.objects = w.objects.erase (loggerLabel o.name) := hstopped.objects
    have hstation : w₁.stationAt? (stationLabel o.name) = some s := by
      have hne := stationLabel_ne_loggerLabel o.name
      rw [← hs.station, World.stationAt?, World.stationAt?, hobjects,
        Register.get?_erase_of_ne _ hne]
    rw [shutDown]
  · right
    have hfailed : done = false := by
      cases done with
      | false => rfl
      | true =>
        obtain ⟨n, hn⟩ := hdone.mp rfl
        cases hn
    rw [World.run_bind_of_error (run_attempt_of_error hrun _)]
    refine ⟨_, w₁, rfl, ?_⟩
    have hnone : ({ w₁ with objects := w₁.objects.erase (stationLabel o.name) } :
        World).objects.get? (loggerLabel o.name) = none := by
      show (w₁.objects.erase (stationLabel o.name)).get? (loggerLabel o.name) = none
      rw [Register.get?_erase_of_ne _ (stationLabel_ne_loggerLabel o.name).symm, hobjects,
        Register.get?_erase_self]
    rw [run_leave, World.drop_station hstation, World.drop_of_none hnone]
    have htable : Binds { w₁ with objects := w₁.objects.erase (stationLabel o.name) } o.name
        s.table.cell := hbinds
    exact ⟨hqueue, htable.stray_iff.trans hs.made, hjoined hfailed⟩
  · left
    -- the queue's name is free by now, and the table's goes with the station
    obtain ⟨bare, hb, he⟩ := hbinds
    have hname : bareName? s.table.name = some bare := by
      rw [hs.name]
      exact hb
    have hdestroy := World.destroy_station hstation hname he
    rw [World.run_bind_of_ok (run_attempt_of_ok hrun _)]
    refine ⟨_, run_attempt_of_ok hdestroy none, ?_, ?_⟩
    · rintro ⟨cell, hle, other, ho, hcell⟩
      have hkept : w₁.space.entry? other = some (.memory cell) := Region.Space.entry?_of_unbind hcell
      exact hqueue ⟨cell, hle, other, ho, hkept⟩
    · rintro ⟨cell, hle, other, ho, hcell⟩
      rw [Option.some.inj (ho.symm.trans hb)] at hcell
      have hgone : Region.Space.entry? (w₁.space.unbind bare) bare = none :=
        w₁.space.entry?_unbind_self bare
      cases hgone.symm.trans hcell

/-- The end of a host that has nothing to keep any more. -/
def close (o : HostOptions) (printed : Option String) : StateM World Outcome := do
  match ← (shutDown o).run with
  | .error f =>
    leave o
    return ⟨printed.getD "", f⟩
  | .ok () => return ⟨printed.getD "", if printed.isNone then some ⟨none, .gameTimeout⟩ else none⟩

/-- The end of a host that lets no turn pass by itself any more. -/
def wrapUp (o : HostOptions) : StateM World Outcome := do
  match ← (conclude o).run with
  | .error f =>
    leave o
    return { failure := f }
  | .ok printed => close o printed

theorem finish_eq_wrapUp (o : HostOptions) (rules : Rules) (w : World) :
    ∃ w', w.Undisturbed w' ∧ (finish o rules).run w = (wrapUp o).run w' := by
  unfold finish
  cases rules.tickMillis with
  | none => exact ⟨w, .refl w, rfl⟩
  | some millis => exact ⟨_, World.undisturbing_tick (stationLabel o.name) w, rfl⟩

theorem Logs.left_close (hl : Logs o start w q) (hs : Sits o start w s)
    (printed : Option String) :
    Left o start ((close o printed).run w).2 ((close o printed).run w).1.failure := by
  rw [close, StateT.run_bind]
  obtain ⟨w', hrun, hqueue, htable⟩ | ⟨cause, w', hrun, hqueue, htable, hjoined⟩ :=
    shutDown_cases hl hs
  · rw [hrun]
    cases printed with
    | none => exact left_of_not_stray hqueue htable (not_unlogged nofun) nofun nofun
    | some text => exact left_of_not_stray hqueue htable nofun nofun nofun
  · rw [hrun]
    have hlog : ¬Unlogged o (some ⟨some .stopLog, cause⟩) := not_unlogged nofun
    refine ⟨iff_of_false hqueue fun hn => hlog hn.2, htable.trans ?_, fun _ => hjoined⟩
    exact (and_iff_left (.inr rfl)).symm

theorem Logs.left_wrapUp (hl : Logs o start w q) (hs : Sits o start w s) :
    Left o start ((wrapUp o).run w).2 ((wrapUp o).run w).1.failure := by
  rw [wrapUp, StateT.run_bind]
  obtain ⟨cause, hrun, hg⟩ | ⟨cause, hrun⟩ | ⟨printed, w', hrun, hsaved⟩ :=
    conclude_cases hs.station
  · rw [hrun]
    have hold : ¬Creates o start o.name := by
      intro hcreates
      have hset := hs.setUp (hs.made.mpr hcreates)
      rw [hg] at hset
      cases hset
    obtain ⟨hqueue, htable⟩ := hl.leave hs
    exact left_of_not_stray hqueue (htable.not.mpr hold) (not_unlogged nofun) nofun nofun
  · rw [hrun]
    obtain ⟨hqueue, htable⟩ := hl.leave hs
    have hlog : ¬Unlogged o (some ⟨some (.saveScores o.scoresFile), cause⟩) :=
      not_unlogged nofun
    refine ⟨iff_of_false hqueue fun hn => hlog hn.2, htable.trans ?_, nofun⟩
    exact (and_iff_left (.inl rfl)).symm
  · rw [hrun]
    have hspares : Spares o w w' := .of_undisturbed hsaved
    exact (hl.spared hspares).left_close (hs.spared hspares) printed

theorem Logs.left_finish (hl : Logs o start w q) (hs : Sits o start w s) (rules : Rules) :
    Left o start ((finish o rules).run w).2 ((finish o rules).run w).1.failure := by
  obtain ⟨w', hticked, hfinish⟩ := finish_eq_wrapUp o rules w
  rw [hfinish]
  have hspares : Spares o w w' := .of_undisturbed hticked
  exact (hl.spared hspares).left_wrapUp (hs.spared hspares)

end finish

theorem Ready.left {α : Type} {o : HostOptions} {start : World} (h : Ready o start)
    {play : StateM World α} (hplay : ∀ rules w, (begin o).run.run start = (.ok rules, w) →
      Spares o w (play.run w).2) :
    Left o start ((run o play).run start).2 ((run o play).run start).1.2.failure := by
  have hbegun := h.begun
  rw [run, StateT.run_bind]
  rcases hrun : (begin o).run.run start with ⟨r, w⟩
  rw [hrun] at hbegun
  dsimp only at hbegun
  cases hbegun with
  | failed left => exact left
  | hosting logs sits others =>
    have hspares := hplay _ w hrun
    exact (logs.spared hspares).left_finish (sits.spared hspares) _

/-- A host leaves the queue behind that it has made just if the file for its log cannot be opened,
and the table that it has made just if the scores cannot be saved or the log cannot be stopped. It
is so whatever is played, as long as what the host has is spared, which the players of a simulation
do. -/
theorem left_run {o : HostOptions} {start : World} (h : Ready o start) :
    (∀ (α : Type) (play : StateM World α), (∀ rules w,
        (begin o).run.run start = (.ok rules, w) → Spares o w (play.run w).2) →
      Left o start ((run o play).run start).2 ((run o play).run start).1.2.failure) ∧
    ∀ (env : Cli.Environment) (process : String) (dice : Nat → Dice.Source) (game : String)
      (players : Nat), (∀ i, start.objects.get? (Simulation.stationLabel i) = none) →
      Left o start ((run o (Simulation.play env process dice game players)).run start).2
        ((run o (Simulation.play env process dice game players)).run start).1.2.failure := by
  constructor
  · intro α play hplay
    exact h.left hplay
  · intro env process dice game players hfree
    apply h.left
    intro rules w hrun
    have hvisited : Visited Simulation.Seated w := by
      rintro label ⟨i, rfl⟩ serial ob hob
      obtain ⟨hstation, hlogger⟩ := Simulation.apart o _ ⟨i, rfl⟩
      rw [h.others hrun hstation hlogger, hfree i] at hob
      cases hob
    exact (Simulation.sparing_play env process dice game players w hvisited).1

theorem left_run_of_unsaved :
    ∃ (o : HostOptions) (plays : List (Station × Game.Call)),
      o = { name := "g", logFile := "game.log", scoresFile := "no/scores.json", rules := {},
            reset := false, timeoutSecs := none } ∧
      plays = [({ table := ⟨"g", 1, 816⟩ }, .join "ann"), ({ table := ⟨"g", 1, 816⟩ }, .join "bob"),
        ({ table := ⟨"g", 1, 816⟩ }, .join "cleo"),
        ({ table := ⟨"g", 1, 816⟩ }, .act 0 ({ · with money := -1 })),
        ({ table := ⟨"g", 1, 816⟩ }, .act 1 ({ · with money := -1 }))] ∧
      Ready o {} ∧ (∀ rules w, (begin o).run.run {} = (.ok rules, w) →
        Spares o w ((World.playAll plays).run w).2) ∧
      Stray {} ((run o (World.playAll plays)).run {}).2 "g" ∧
      ¬Stray {} ((run o (World.playAll plays)).run {}).2 "g_log" ∧
      ∀ dice, Left o {} ((run o (Simulation.play [] "0" dice "g" 3)).run {}).2
        ((run o (Simulation.play [] "0" dice "g" 3)).run {}).1.2.failure := by
  obtain ⟨o, ho⟩ : ∃ o : HostOptions,
      o = { name := "g", logFile := "game.log", scoresFile := "no/scores.json", rules := {},
            reset := false, timeoutSecs := none } := ⟨_, rfl⟩
  obtain ⟨plays, hplays⟩ : ∃ plays : List (Station × Game.Call),
      plays = [({ table := ⟨"g", 1, 816⟩ }, .join "ann"), ({ table := ⟨"g", 1, 816⟩ }, .join "bob"),
        ({ table := ⟨"g", 1, 816⟩ }, .join "cleo"),
        ({ table := ⟨"g", 1, 816⟩ }, .act 0 ({ · with money := -1 })),
        ({ table := ⟨"g", 1, 816⟩ }, .act 1 ({ · with money := -1 }))] := ⟨_, rfl⟩
  have hready : Ready o {} := ⟨Region.Space.sound_blank, rfl, rfl, rfl⟩
  have hspares : ∀ rules w, (begin o).run.run {} = (.ok rules, w) →
      Spares o w ((World.playAll plays).run w).2 := by
    intro rules w _
    exact .of_undisturbed (World.undisturbing_playAll plays w)
  obtain ⟨hplayed, hsimulated⟩ := left_run hready
  have hleft := hplayed _ _ hspares
  have hfailure : ((run o (World.playAll plays)).run {}).1.2.failure =
      some ⟨some (.saveScores o.scoresFile), .world (.table (.store .persistence))⟩ := by
    rw [ho, hplays]
    decide +kernel
  have hcreates : Creates o {} o.name := by
    rw [ho]
    exact ⟨"g", by decide +kernel, .inr rfl⟩
  have hname : o.name = "g" := by rw [ho]
  have hlog : logName o.name = "g_log" := by
    rw [ho]
    decide +kernel
  rw [hfailure] at hleft
  refine ⟨o, plays, ho, hplays, hready, hspares, ?_, ?_, ?_⟩
  · rw [← hname, hleft.table]
    exact ⟨hcreates, .inl rfl⟩
  · rw [← hlog, hleft.queue]
    rintro ⟨-, e, he⟩
    cases he
  · intro dice
    apply hsimulated
    intro i
    rfl

/-- A host leaves its queue behind if the folder of the log file is missing. -/
theorem stray_of_unlogged :
    ¬∀ (o : HostOptions) (start : World) (play : StateM World Unit), Ready o start →
      (∀ rules w, (begin o).run.run start = (.ok rules, w) → Spares o w (play.run w).2) →
      ∀ given ∈ names o, ¬Stray start ((run o play).run start).2 given := by
  intro hclean
  obtain ⟨o, ho⟩ : ∃ o : HostOptions,
      o = { name := "h", logFile := "no/dir.log", scoresFile := "scores.json", rules := {},
            reset := false, timeoutSecs := none } := ⟨_, rfl⟩
  have hready : Ready o {} := ⟨Region.Space.sound_blank, rfl, rfl, rfl⟩
  have hspares : ∀ rules w, (begin o).run.run {} = (.ok rules, w) →
      Spares o w ((pure () : StateM World Unit).run w).2 := by
    intro rules w _
    exact .of_undisturbed (.refl w)
  apply hclean o {} (pure ()) hready hspares (logName o.name) (logName_mem_names o)
  rw [ho]
  exact ⟨0, Nat.le_refl _, "h_log", by decide +kernel, by decide +kernel⟩

end Rota.Service.Host
