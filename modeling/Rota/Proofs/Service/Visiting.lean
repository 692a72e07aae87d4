import Rota.Proofs.Service.Beginning
import Rota.Service.Simulation

namespace Rota.Service

open Cli (HostOptions Environment)
open World (Undisturbing)

/-- Under the labels of visitors stand stations, or nothing. -/
def Visited (visitors : String → Prop) (w : World) : Prop :=
  ∀ label, visitors label → ∀ serial ob, w.objects.get? label = some (serial, ob) →
    ∃ s, ob = .station s

/-- Visitors have labels of their own. -/
def Apart (o : HostOptions) (visitors : String → Prop) : Prop :=
  ∀ label, visitors label →
    label ≠ Host.stationLabel o.name ∧ label ≠ Host.loggerLabel o.name

/-- In the world of visitors the act spares the host, and `P` holds of its answer. -/
def Sparing (o : HostOptions) (visitors : String → Prop) {α : Type} (act : StateM World α)
    (P : α → Prop) : Prop :=
  ∀ w, Visited visitors w → Host.Spares o w (act.run w).2 ∧ Visited visitors (act.run w).2 ∧
    P (act.run w).1

namespace Host.Spares

variable {o : HostOptions} {w w' w'' : World}

theorem refl (w : World) : Spares o w w := .of_undisturbed (.refl w)

theorem trans (h : Spares o w w') (h' : Spares o w' w'') : Spares o w w'' where
  entries given hgiven bare hb :=
    (h'.entries given hgiven bare hb).trans (h.entries given hgiven bare hb)
  station := h'.station.trans h.station
  logger := h'.logger.trans h.logger
  games cell hg := h'.games cell (h.games cell hg)
  queues cell hq := h'.queues cell (h.queues cell hq)

end Host.Spares

namespace Sparing

variable {o : HostOptions} {visitors : String → Prop} {α β : Type}

theorem pure {P : α → Prop} {a : α} (h : P a) : Sparing o visitors (Pure.pure a) P := by
  intro w hw
  exact ⟨.refl w, hw, h⟩

theorem bind {P : α → Prop} {Q : β → Prop} {x : StateM World α} {f : α → StateM World β}
    (hx : Sparing o visitors x P) (hf : ∀ a, P a → Sparing o visitors (f a) Q) :
    Sparing o visitors (x >>= f) Q := by
  intro w hw
  obtain ⟨hspares, hw', hanswer⟩ := hx w hw
  obtain ⟨hspares', hw'', hanswer'⟩ := hf _ hanswer _ hw'
  rw [StateT.run_bind]
  exact ⟨hspares.trans hspares', hw'', hanswer'⟩

theorem mono {P Q : α → Prop} {act : StateM World α} (h : Sparing o visitors act P)
    (hq : ∀ a, P a → Q a) : Sparing o visitors act Q := by
  intro w hw
  obtain ⟨hspares, hw', hanswer⟩ := h w hw
  exact ⟨hspares, hw', hq _ hanswer⟩

theorem of_undisturbing {act : StateM World α} (h : Undisturbing act) :
    Sparing o visitors act fun _ => True := by
  intro w hw
  refine ⟨.of_undisturbed (h w), ?_, trivial⟩
  rw [Visited, (h w).objects]
  exact hw

theorem bindAct {ε : Type} {x : ExceptT ε (StateM World) α} {f : α → ExceptT ε (StateM World) β}
    {P : Except ε β → Prop} (hx : Undisturbing x.run) (he : ∀ e, P (.error e))
    (hf : ∀ a, Sparing o visitors (f a).run P) :
    Sparing o visitors (x >>= f).run P := by
  rw [ExceptT.run_bind]
  apply (of_undisturbing hx).bind
  intro r _
  cases r with
  | ok a => exact hf a
  | error e => exact pure (he e)

theorem mapM {P : α → Prop} {Q : β → Prop} {f : α → StateM World β}
    (hf : ∀ a, P a → Sparing o visitors (f a) Q) (as : List α) (has : ∀ a ∈ as, P a) :
    Sparing o visitors (as.mapM f) fun bs => ∀ b ∈ bs, Q b := by
  induction as with
  | nil => exact pure nofun
  | cons a as ih =>
    rw [List.mapM_cons]
    apply (hf a (has a List.mem_cons_self)).bind
    intro b hb
    apply (ih fun a' ha' => has a' (List.mem_cons_of_mem a ha')).bind
    intro bs hbs
    apply pure
    intro b' hb'
    rcases List.mem_cons.mp hb' with rfl | hmem
    · exact hb
    · exact hbs b' hmem

end Sparing

section labels

variable {o : HostOptions} {visitors : String → Prop} (ha : Apart o visitors) {label : String}
  (hl : visitors label)
include ha hl

theorem sparing_put (s : Station) :
    Sparing o visitors (World.put label (.station s)) fun _ => True := by
  intro w hw
  have hrun : ((World.put label (.station s)).run w).2 = w.withObject label (.station s) := by
    cases hfree : w.objects.get? label with
    | none => rw [World.run_put_of_none hfree]
    | some e =>
      obtain ⟨old, hold⟩ := hw label hl e.1 e.2 hfree
      simp only [World.put, StateT.run_bind, StateT.run_get, StateT.run_set, pure_bind]
      rw [hfree]
      obtain ⟨serial, ob⟩ := e
      dsimp only at hold
      rw [hold]
      rfl
  obtain ⟨hstation, hlogger⟩ := ha label hl
  rw [hrun]
  refine ⟨⟨fun _ _ _ _ => rfl, ?_, ?_, fun _ hg => hg, fun _ hq => hq⟩, ?_, trivial⟩
  · rw [World.stationAt?, World.stationAt?, World.get?_objects_withObject _ _ hstation.symm]
  · rw [World.readerAt?, World.readerAt?, World.get?_objects_withObject _ _ hlogger.symm]
  · intro other hother serial ob hob
    by_cases he : other = label
    · subst he
      rw [World.withObject, Register.get?_set_self] at hob
      exact ⟨s, (Prod.mk.inj (Option.some.inj hob)).2.symm⟩
    · rw [World.get?_objects_withObject _ _ he] at hob
      exact hw other hother serial ob hob

theorem sparing_drop : Sparing o visitors (World.ignore (World.drop label)) fun _ => True := by
  intro w hw
  have hrun : ((World.ignore (World.drop label)).run w).2 =
      { w with objects := w.objects.erase label } := by
    show ((World.drop label).run.run w).2 = _
    cases hfree : w.objects.get? label with
    | none => rw [World.drop_of_none hfree, Register.erase_of_get?_eq_none hfree]
    | some e =>
      obtain ⟨s, hs⟩ := hw label hl e.1 e.2 hfree
      have hstation : w.stationAt? label = some s := by
        rw [World.stationAt?, hfree, Option.bind_some, hs]
        rfl
      rw [World.drop_station hstation]
  obtain ⟨hstation, hlogger⟩ := ha label hl
  rw [hrun]
  refine ⟨⟨fun _ _ _ _ => rfl, ?_, ?_, fun _ hg => hg, fun _ hq => hq⟩, ?_, trivial⟩
  · rw [World.stationAt?, World.stationAt?, Register.get?_erase_of_ne _ hstation.symm]
  · rw [World.readerAt?, World.readerAt?, Register.get?_erase_of_ne _ hlogger.symm]
  · intro other hother serial ob hob
    rw [Register.get?_erase] at hob
    split_ifs at hob
    exact hw other hother serial ob hob

end labels

theorem sparing_runLoggers (o : HostOptions) (visitors : String → Prop) :
    Sparing o visitors World.runLoggers fun _ => True := by
  intro w hw
  obtain ⟨w', objects, hrun, hw', hgist⟩ := World.runLoggers_cases w
  rw [hrun]
  refine ⟨⟨?_, ?_, ?_, hw'.games, hw'.queues⟩, ?_, trivial⟩
  · intro given _ bare _
    show w'.space.entry? bare = _
    rw [hw'.space]
  · rw [World.stationAt?_eq, World.stationAt?_eq, hgist]
  · rw [World.readerAt?_eq, World.readerAt?_eq, hgist]
  · intro label hl serial ob hob
    have hsome : World.gistAt? { w' with objects } label = some ob.gist := by
      rw [World.gistAt?]
      dsimp only
      rw [hob]
      rfl
    rw [hgist] at hsome
    obtain ⟨⟨number, old⟩, hold, hsame⟩ := Option.map_eq_some_iff.mp hsome
    obtain ⟨s, rfl⟩ := hw label hl number old hold
    have hstation : ob.station? = some s := (Prod.mk.inj hsame).1.symm
    cases ob with
    | station s' => exact ⟨s', rfl⟩
    | region | laidOut | queue | producer | logger => cases hstation

section calls

theorem undisturbing_play (label : String) (c : Game.Call) : Undisturbing (World.play label c).run := by
  apply Undisturbing.bindAct (.of_keeps (World.keeps_stationAt World.premises label))
  intro s
  exact World.undisturbing_playAt s c

theorem undisturbing_gameAt (label : String) : Undisturbing (World.gameAt label).run := by
  apply Undisturbing.bindAct (.of_keeps (World.keeps_stationAt World.premises label))
  intro s
  exact Undisturbing.bindAct (.of_keeps (.lift .get)) fun _ => .pure _

theorem undisturbing_openQueue (name : String) : Undisturbing (World.openQueue name).run := by
  intro w
  have hrun := World.run_openQueue w name
  rw [hrun]
  exact .refl w

theorem undisturbing_waitTurn (label : String) (seat : Nat) :
    Undisturbing (World.waitTurn label seat).run := by
  apply Undisturbing.bindAct (.of_keeps (World.keeps_stationAt World.premises label))
  intro s
  apply Undisturbing.bindAct (.of_keeps (World.keeps_lockedGame World.premises s.table.cell))
  intro g
  apply Undisturbing.bindAct (.of_keeps (World.keeps_ofTable World.premises _))
  intro _
  cases g.wake? seat with
  | some wake => exact .pure _
  | none => exact .pure _

theorem undisturbing_shown (label : String) (seat : Nat) :
    Undisturbing (World.shown label seat).run := by
  apply Undisturbing.bindAct (.of_keeps (World.keeps_stationAt World.premises label))
  intro s
  apply Undisturbing.bindAct (.of_keeps (.lift .get))
  intro w
  cases w.games.get? s.table.cell with
  | some g => exact .pure _
  | none => exact .pure _

theorem undisturbing_tellRoll (p : Player) (face : Nat) : Undisturbing (p.tellRoll face).run := by
  apply Undisturbing.bindAct (.of_keeps (World.keeps_stationAt World.premises p.station))
  intro s
  cases s.log with
  | some log => exact Undisturbing.bindAct (.lift (World.undisturbing_tell _ _)) fun _ => .pure _
  | none => exact .pure _

theorem undisturbing_attempt {α : Type} {act : World.Act α} (h : Undisturbing act.run)
    (task : Option Task) : Undisturbing (attempt task act).run := by
  intro w
  have hw := h w
  rcases hrun : act.run.run w with ⟨f | a, w'⟩
  · rw [hrun] at hw
    rw [Host.run_attempt_of_error hrun]
    exact hw
  · rw [hrun] at hw
    rw [Host.run_attempt_of_ok hrun]
    exact hw

theorem undisturbing_movesLeft (label : String) : Undisturbing (Simulation.movesLeft label) := by
  apply (undisturbing_gameAt label).bind
  intro r
  cases r with
  | ok g => exact .pure _
  | error f => exact .pure _

end calls

/-- A player who plays on does so at the station under `label`. -/
def Progress.StaysAt (label : String) (r : Progress) : Prop :=
  ∀ p, r = .waiting p → p.station = label

section players

variable {o : HostOptions} {visitors : String → Prop}

/-- A call on the world whose answer a player turns into progress. -/
theorem sparing_match {α : Type} {act : World.Act α} (h : Undisturbing act.run)
    {f : Except World.Fault α → StateM World Progress} {label : String}
    (hf : ∀ r, Sparing o visitors (f r) (·.StaysAt label)) :
    Sparing o visitors (act.run >>= f) (·.StaysAt label) :=
  (Sparing.of_undisturbing h).bind fun r _ => hf r

theorem sparing_quit (p : Player) :
    Sparing o visitors p.quit (·.StaysAt p.station) := by
  apply sparing_match (undisturbing_play p.station (.disconnect p.seat))
  intro r
  cases r with
  | ok _ => exact .pure nofun
  | error f => exact .pure nofun

theorem sparing_see (p : Player) : Sparing o visitors p.see (·.StaysAt p.station) := by
  apply sparing_match (undisturbing_gameAt p.station)
  intro r
  cases r with
  | ok g => exact .pure nofun
  | error f => exact .pure nofun

theorem sparing_move (p : Player) :
    Sparing o visitors p.move.run fun r => ∀ p', r = .ok p' → p'.station = p.station := by
  apply Sparing.bindAct (undisturbing_shown p.station p.seat) fun _ => nofun
  intro shown
  cases shown with
  | none =>
    apply Sparing.pure
    intro p' hp
    cases hp
    rfl
  | some purse =>
    apply Sparing.bindAct (undisturbing_play p.station _) fun _ => nofun
    intro _
    apply Sparing.bindAct (undisturbing_tellRoll p _) fun _ => nofun
    intro _
    apply Sparing.pure
    intro p' hp
    cases hp
    rfl

theorem sparing_takeTurn (p : Player) :
    Sparing o visitors p.takeTurn (·.StaysAt p.station) := by
  unfold Player.takeTurn
  split_ifs
  · exact sparing_quit p
  · apply (sparing_move p).bind
    intro r hr
    split
    · next p' =>
      apply Sparing.pure
      intro p'' hp
      cases hp
      exact hr p' rfl
    · exact sparing_see p
    · exact sparing_quit p
    · exact .pure nofun

theorem sparing_step (p : Player) : Sparing o visitors p.step (·.StaysAt p.station) := by
  apply sparing_match (undisturbing_waitTurn p.station p.seat)
  intro r
  split
  · exact sparing_takeTurn p
  · exact sparing_see p
  · apply Sparing.pure
    intro p' hp
    cases hp
    rfl
  · exact .pure nofun

theorem sparing_playUpTo (limit : Nat) (p : Player) :
    Sparing o visitors (Player.playUpTo limit p) (·.StaysAt p.station) := by
  induction limit generalizing p with
  | zero =>
    apply Sparing.pure
    intro p' hp
    cases hp
    rfl
  | succ limit ih =>
    apply (sparing_step p).bind
    intro r hr
    cases r with
    | waiting next =>
      have hnext := hr next rfl
      dsimp only
      split_ifs
      · exact .pure hr
      · rw [← hnext]
        exact ih next
    | done outcome => exact .pure hr

theorem sparing_play (p : Player) : Sparing o visitors p.play (·.StaysAt p.station) := by
  apply sparing_match (undisturbing_gameAt p.station)
  intro r
  cases r with
  | ok g => exact sparing_playUpTo _ p
  | error f => exact .pure nofun

section stations

variable (ha : Apart o visitors) {station : String} (hs : visitors station)
include ha hs

theorem sparing_takeStation (game : String) :
    Sparing o visitors (Player.takeStation station game).run fun _ => True := by
  have htable : Undisturbing (World.openTable game).run :=
    .of_keeps (World.keeps_openTable World.premises game)
  apply Sparing.bindAct (undisturbing_attempt htable _) fun _ => trivial
  intro table
  apply Sparing.bindAct (x := liftM (World.openQueue (logName game)).run)
    (undisturbing_openQueue (logName game)) fun _ => trivial
  intro log
  exact sparing_put ha hs _

theorem sparing_retire (r : Progress) :
    Sparing o visitors (Player.retire station r) (· = r) := by
  cases r with
  | waiting p => exact .pure rfl
  | done outcome => exact (sparing_drop ha hs).bind fun _ _ => .pure rfl

theorem sparing_enter (process : String) (dice : Dice.Source) (options : Cli.PlayerOptions) :
    Sparing o visitors (Player.enter station process dice options) (·.StaysAt station) := by
  have hjoin : Sparing o visitors (Player.join station process dice options)
      (·.StaysAt station) := by
    apply (sparing_takeStation ha hs options.name).bind
    intro r _
    cases r with
    | error f => exact .pure nofun
    | ok _ =>
      apply sparing_match (undisturbing_play station _)
      intro r
      split
      · apply Sparing.pure
        intro p hp
        cases hp
        rfl
      · exact .pure nofun
      · exact .pure nofun
      · exact .pure nofun
  apply hjoin.bind
  intro r hr
  apply (sparing_retire ha hs r).mono
  rintro _ rfl
  exact hr

end stations

theorem sparing_advance (ha : Apart o visitors) {r : Progress}
    (hr : ∀ p, r = .waiting p → visitors p.station) :
    Sparing o visitors r.advance fun r => ∀ p, r = .waiting p → visitors p.station := by
  cases r with
  | done outcome => exact .pure nofun
  | waiting p =>
    have hs := hr p rfl
    apply (sparing_play p).bind
    intro r' hr'
    apply (sparing_retire ha hs r').mono
    rintro _ rfl p' hp'
    rw [hr' p' hp']
    exact hs

end players

namespace Simulation

/-- The labels of all players that there may be. -/
def Seated (label : String) : Prop := ∃ i, label = stationLabel i

/-- A child that plays on does so at the station of a player. -/
def Child.Seats (c : Child) : Prop := ∀ p, c = .ok (.waiting p) → Seated p.station

theorem apart (o : HostOptions) : Apart o Seated := by
  rintro label ⟨i, rfl⟩
  constructor
  · exact Host.append_ne_append (p := "station of ") (q := "host of ") rfl rfl (by decide) _ _
  · exact Host.append_ne_append (p := "station of ") (q := "logger of ") rfl rfl (by decide) _ _

variable {o : HostOptions}

theorem sparing_enter (env : Environment) (process : String) (dice : Dice.Source) (game : String)
    (i : Nat) : Sparing o Seated (enter env process dice game i) Child.Seats := by
  unfold enter
  split
  · exact .pure nofun
  · apply (Service.sparing_enter (apart o) ⟨i, rfl⟩ process dice _).bind
    intro r hr
    apply Sparing.pure
    intro p hp
    cases hp
    exact ⟨i, hr p rfl⟩
  · exact .pure nofun

theorem sparing_advance {c : Child} (hc : c.Seats) : Sparing o Seated (advance c) Child.Seats := by
  cases c with
  | error f => exact .pure nofun
  | ok r =>
    have hr : ∀ p, r = .waiting p → Seated p.station := by
      rintro p rfl
      exact hc p rfl
    apply (Service.sparing_advance (apart o) hr).bind
    intro r' hr'
    apply (sparing_runLoggers o Seated).bind
    intro _ _
    apply Sparing.pure
    intro p hp
    cases hp
    exact hr' p rfl

theorem sparing_playRounds (count : Nat) {cs : List Child} (hcs : ∀ c ∈ cs, c.Seats) :
    Sparing o Seated (playRounds count cs) fun cs => ∀ c ∈ cs, c.Seats := by
  induction count generalizing cs with
  | zero => exact .pure hcs
  | succ count ih =>
    apply (Sparing.mapM (fun c hc => sparing_advance hc) cs hcs).bind
    intro cs' hcs'
    exact ih hcs'

theorem sparing_play (env : Environment) (process : String) (dice : Nat → Dice.Source)
    (game : String) (players : Nat) :
    Sparing o Seated (play env process dice game players) fun cs => ∀ c ∈ cs, c.Seats := by
  unfold play
  apply (Sparing.mapM (fun i _ => sparing_enter env process (dice i) game i) (List.range players)
    fun _ _ => trivial).bind
  intro cs hcs
  apply (Sparing.of_undisturbing (undisturbing_movesLeft (stationLabel 0))).bind
  intro count _
  exact sparing_playRounds _ hcs

end Simulation

end Rota.Service
