import Rota.Proofs.Game.Ending
import Rota.Proofs.World.Play

namespace Rota.World

/-- All that is reached by keeping scores: the stores and the files. -/
abbrev Shelf := Register String Score.Store × Files

def shelf (w : World) : Shelf := (w.stores, w.files)

/-- The shelf once a station has saved a board, as far as it has a store and the store takes it. -/
def kept (s : Station) (b : Score.Board) (shelf : Shelf) : Shelf :=
  match s.store with
  | none => shelf
  | some label =>
    match shelf.1.get? label with
    | none => shelf
    | some store =>
      match store.save shelf.2 b with
      | .ok (store, files) => (shelf.1.set label store, files)
      | .error _ => shelf

theorem run_board {w : World} {s : Station} {g : Game}
    (hg : w.games.get? s.table.cell = some g) :
    (board s).run.run w = (.ok g.scores.toBoard, w) :=
  run_bind_of_ok (run_lockedGame hg)

theorem run_storeAt (w : World) (label : String) :
    (storeAt label).run.run w =
      match w.stores.get? label with
      | some store => (.ok store, w)
      | none => (.error (.missing label), w) := by
  change (match w.stores.get? label with | some s => _ | none => _ : Act _).run.run w = _
  cases w.stores.get? label <;> rfl

theorem run_saveIn (w : World) (store : Score.Store) (b : Score.Board) :
    (saveIn store b).run.run w =
      match store.save w.files b with
      | .ok (store, files) => (.ok store, { w with files })
      | .error f => (.error (.table (.store f)), w) := by
  change ((ofTable ((store.save w.files b).mapError .store)) >>= _ : Act _).run.run w = _
  cases store.save w.files b <;> rfl

theorem shelf_saveBoard (w : World) {s : Station} {label : String} (hs : s.store = some label)
    (b : Score.Board) : ((saveBoard label b).run.run w).2.shelf = kept s b w.shelf := by
  have hstore := run_storeAt w label
  simp only [kept, hs, shelf]
  cases hl : w.stores.get? label with
  | none =>
    rw [hl] at hstore
    rw [saveBoard, run_bind_of_error hstore]
  | some store =>
    rw [hl] at hstore
    rw [saveBoard, run_bind_of_ok hstore]
    have hin := run_saveIn w store b
    dsimp only
    cases hsave : store.save w.files b with
    | error f =>
      rw [hsave] at hin
      rw [run_bind_of_error hin]
    | ok r =>
      rw [hsave] at hin
      rw [run_bind_of_ok hin]
      rfl

theorem shelf_keepScores {w : World} {s : Station} {g : Game}
    (hg : w.games.get? s.table.cell = some g) :
    ((keepScores s).run.run w).2.shelf = kept s g.scores.toBoard w.shelf := by
  unfold keepScores
  cases hs : s.store with
  | none =>
    rw [kept, hs]
    rfl
  | some label =>
    dsimp only
    rw [run_bind_of_ok (run_board hg)]
    exact shelf_saveBoard w hs _

/-- What follows a call saves the scores if the call ends the game, and nothing else. -/
theorem shelf_follow {w : World} {s : Station} {r : Game.Reply Game.Done}
    (hg : w.games.get? s.table.cell = some r.game) :
    ((follow s r).run w).2.shelf =
      if r.ended then kept s r.game.scores.toBoard w.shelf else w.shelf := by
  have hbefore : Keeps (fun w => (w.games, w.shelf)) (do rouse s r; announce s r.events) :=
    (keeps_rouse (fun _ _ => rfl) s r).bind fun _ =>
      keeps_announce (fun _ _ => rfl) s r.events
  obtain ⟨w', hw'⟩ : ∃ w', (StateT.run (do rouse s r; announce s r.events) w).2 = w' := ⟨_, rfl⟩
  have hview := hbefore w
  rw [hw'] at hview
  obtain ⟨hgames, hshelf⟩ : w'.games = w.games ∧ w'.shelf = w.shelf := Prod.ext_iff.mp hview
  have hrun : ((follow s r).run w).2 =
      ((if r.ended then ignore (keepScores s) else pure ()).run w').2 := by
    rw [← hw']
    rfl
  rw [hrun]
  split_ifs
  · rw [← hshelf]
    exact shelf_keepScores (hgames ▸ hg)
  · exact hshelf

/-- The world after a call or the taking of a wake-up at a station. -/
def after (w : World) : Station × Game.Deed → World
  | (s, .call c) => ((playAt s c).run.run w).2
  | (s, .take seat) => ((takeAt s seat).run.run w).2

/-- The world after a history, each deed of it at a station of its own. -/
def afterAll (w : World) (deeds : List (Station × Game.Deed)) : World := deeds.foldl after w

theorem afterAll_append (w : World) (deeds more : List (Station × Game.Deed)) :
    w.afterAll (deeds ++ more) = (w.afterAll deeds).afterAll more :=
  List.foldl_append

section deed

variable {w : World} {s : Station} {g : Game} (hg : w.games.get? s.table.cell = some g)
include hg

theorem get?_games_playAt (c : Game.Call) :
    ((playAt s c).run.run w).2.games.get? s.table.cell = some (g.perform c).game := by
  rw [(run_playAt c hg).2, Register.get?_set_self]

/-- A call saves the scores if it ends the game, and never else. -/
theorem shelf_playAt (c : Game.Call) :
    ((playAt s c).run.run w).2.shelf =
      if (g.perform c).ended then kept s (g.perform c).game.scores.toBoard w.shelf
      else w.shelf := by
  rw [run_playAt_eq c hg]
  exact shelf_follow (w := { w with games := w.games.set s.table.cell (g.perform c).game })
    (Register.get?_set_self _ _ _)

theorem run_takeAt (seat : Nat) :
    (takeAt s seat).run.run w =
      match g.takeSignal seat with
      | .ok (true, h) => (.ok true, { w with games := w.games.set s.table.cell h })
      | .ok (false, _) => (.ok false, w)
      | .error f => (.error (.table (.game f)), w) := by
  have hgame : w.game s.table.cell = g := by rw [game, hg, Option.getD_some]
  change ((ofGame ((w.game s.table.cell).takeSignal seat)) >>= _ : Act _).run.run w = _
  rw [hgame]
  rcases g.takeSignal seat with f | ⟨_ | _, h⟩ <;> rfl

/-- What is done at a station is done to the game of its table. -/
theorem get?_games_after (d : Game.Deed) :
    (w.after (s, d)).games.get? s.table.cell = some (g.after d) := by
  cases d with
  | call c => exact get?_games_playAt hg c
  | take seat =>
    dsimp only [after, Game.after]
    rw [run_takeAt hg]
    by_cases hi : seat < g.taken
    · rw [Game.takeSignal_of_lt g hi]
      split_ifs
      · exact hg
      · exact Register.get?_set_self _ _ _
    · rw [Game.takeSignal_of_le g (by omega)]
      exact hg

/-- The scores are saved when a game ends, and never else. -/
theorem shelf_after (d : Game.Deed) :
    (w.after (s, d)).shelf =
      if g.phase ≠ .over ∧ (g.after d).phase = .over then kept s (g.after d).scores.toBoard w.shelf
      else w.shelf := by
  cases d with
  | call c => exact (shelf_playAt hg c).trans (if_congr (g.perform_ended c) rfl rfl)
  | take seat =>
    have hshelf : (w.after (s, .take seat)).shelf = w.shelf := by
      dsimp only [after]
      rw [run_takeAt hg]
      rcases g.takeSignal seat with f | ⟨_ | _, h⟩ <;> rfl
    rw [hshelf, Game.phase_after_take, if_neg fun hn => hn.1 hn.2]

end deed

section history

variable {cell : Nat} {deeds : List (Station × Game.Deed)} (hs : ∀ p ∈ deeds, p.1.table.cell = cell)
  {w : World} {g : Game} (hg : w.games.get? cell = some g)
include hs hg

/-- However many stations a table has, what is done at them is one history of its game. -/
theorem get?_games_afterAll :
    (w.afterAll deeds).games.get? cell = some (g.afterAll (deeds.map Prod.snd)) := by
  induction deeds generalizing w g with
  | nil => exact hg
  | cons p deeds ih =>
    obtain ⟨s, d⟩ := p
    have hc : s.table.cell = cell := hs (s, d) List.mem_cons_self
    exact ih (fun p hp => hs p (List.mem_cons_of_mem _ hp)) (hc ▸ get?_games_after (hc ▸ hg) d)

theorem get?_games_take (k : Nat) :
    (w.afterAll (deeds.take k)).games.get? cell = some (g.stage (deeds.map Prod.snd) k) := by
  rw [get?_games_afterAll (fun p hp => hs p (List.mem_of_mem_take hp)) hg, List.map_take]
  rfl

/-- A history that does not end the game saves nothing. -/
theorem shelf_afterAll_eq (hsound : g.Sound)
    (h : g.phase = .over ∨ (g.afterAll (deeds.map Prod.snd)).phase ≠ .over) :
    (w.afterAll deeds).shelf = w.shelf := by
  induction deeds generalizing w g with
  | nil => rfl
  | cons p deeds ih =>
    obtain ⟨s, d⟩ := p
    have hc : s.table.cell = cell := hs (s, d) List.mem_cons_self
    have hsound' : (g.after d).Sound := hsound.afterAll [d]
    have hno : ¬(g.phase ≠ .over ∧ (g.after d).phase = .over) := by
      rintro ⟨hb, ha⟩
      rcases h with h | h
      · exact hb h
      · exact h ((Game.settled_afterAll hsound' ha _).phase.trans ha)
    have hrest : (g.after d).phase = .over ∨
        ((g.after d).afterAll (deeds.map Prod.snd)).phase ≠ .over :=
      h.imp_left fun hp => (Game.settled_afterAll hsound hp [d]).phase.trans hp
    have hshelf := shelf_after (hc ▸ hg : w.games.get? s.table.cell = some g) d
    rw [if_neg hno] at hshelf
    exact (ih (fun p hp => hs p (List.mem_cons_of_mem _ hp))
      (hc ▸ get?_games_after (hc ▸ hg) d) hsound' hrest).trans hshelf

theorem shelf_take_succ {k : Nat} (hk : k < deeds.length) :
    (w.afterAll (deeds.take (k + 1))).shelf =
      if (g.stage (deeds.map Prod.snd) k).phase ≠ .over ∧
          (g.stage (deeds.map Prod.snd) (k + 1)).phase = .over then
        kept deeds[k].1 (g.stage (deeds.map Prod.snd) (k + 1)).scores.toBoard
          (w.afterAll (deeds.take k)).shelf
      else (w.afterAll (deeds.take k)).shelf := by
  have hcell : deeds[k].1.table.cell = cell := hs _ (List.getElem_mem hk)
  have hlt : k < (deeds.map Prod.snd).length := by rwa [List.length_map]
  have hnext : g.stage (deeds.map Prod.snd) (k + 1) =
      (g.stage (deeds.map Prod.snd) k).after deeds[k].2 := by
    rw [Game.stage, Game.stage, Game.afterAll_take_succ g hlt, List.getElem_map]
  rw [hnext, List.take_succ_eq_append_getElem hk, afterAll_append]
  exact shelf_after (hcell ▸ get?_games_take hs hg k) deeds[k].2

/-- The deed `k` of a history ends the game of a table: it is a call that may pass the turn on, and
the scores as they are for good are saved by its station, then and at no other time. -/
structure EndsAt (w : World) (g : Game) (deeds : List (Station × Game.Deed)) (k : Nat) : Prop where
  lt : k < deeds.length
  call : ∃ c : Game.Call, deeds[k].2 = .call c ∧ c.PassesOn
  before : (g.stage (deeds.map Prod.snd) k).phase ≠ .over
  after : (g.stage (deeds.map Prod.snd) (k + 1)).phase = .over
  settled : (g.stage (deeds.map Prod.snd) (k + 1)).Settled (g.afterAll (deeds.map Prod.snd))
  unsaved : ∀ j ≤ k, (w.afterAll (deeds.take j)).shelf = w.shelf
  saved : ∀ j, k < j → (w.afterAll (deeds.take j)).shelf =
    kept deeds[k].1 (g.afterAll (deeds.map Prod.snd)).scores.toBoard w.shelf

theorem exists_endsAt (hsound : g.Sound) (hp : g.phase ≠ .over)
    (ho : (g.afterAll (deeds.map Prod.snd)).phase = .over) : ∃ k, EndsAt w g deeds k := by
  obtain ⟨k, hlt, c, hd, hc, hb, ha⟩ := Game.exists_ending hsound hp ho
  have hk : k < deeds.length := by rwa [List.length_map] at hlt
  rw [List.getElem_map] at hd
  have hset := Game.settled_stage hsound (deeds.map Prod.snd) hlt ha
  rw [Game.stage_length] at hset
  have hbefore (j : Nat) (hj : j ≤ k) : (w.afterAll (deeds.take j)).shelf = w.shelf := by
    refine shelf_afterAll_eq (fun p hp => hs p (List.mem_of_mem_take hp)) hg hsound
      (.inr fun hover => hb ?_)
    rw [List.map_take] at hover
    exact (Game.settled_stage hsound _ hj hover).phase.trans hover
  -- the shelf changes with the ending, and not again
  have hend := shelf_take_succ hs hg hk
  rw [if_pos ⟨hb, ha⟩, hbefore k (Nat.le_refl k), ← hset.scores] at hend
  refine ⟨k, hk, ⟨c, hd, hc⟩, hb, ha, hset, hbefore, fun j hj => ?_⟩
  obtain ⟨n, rfl⟩ := Nat.exists_eq_add_of_le (Nat.succ_le_of_lt hj)
  rw [← hend, List.take_add, afterAll_append]
  exact shelf_afterAll_eq (fun p hp => hs p (List.mem_of_mem_drop (List.mem_of_mem_take hp)))
    (get?_games_take hs hg (k + 1)) (hsound.afterAll _) (.inl ha)

end history

/-- The world once a table is set up in fresh memory. -/
def setUp (w : World) (cell : Nat) (rules : Rules) (saved : Option Score.Board) : World :=
  ((setUpTable cell rules saved).run w).2

/-- The game of a table is settled and counted once when it ends, and its scores are saved once, by
the station whose call ends it; what becomes of them there makes no difference to the game. -/
theorem ending_afterAll {rules : Rules} (hr : rules.Valid) (saved : Option Score.Board)
    {w : World} {cell : Nat} (hw : w.games.get? cell = none)
    {deeds : List (Station × Game.Deed)} (hs : ∀ p ∈ deeds, p.1.table.cell = cell) :
    ∃ g, (Game.new rules saved).afterAll (deeds.map Prod.snd) = g ∧
      ((w.setUp cell rules saved).afterAll deeds).games.get? cell = some g ∧
      Game.Scored (Game.new rules saved).scores g ∧
      (g.phase ≠ .over → ((w.setUp cell rules saved).afterAll deeds).shelf = w.shelf) ∧
      (g.phase = .over → (∃ k, EndsAt (w.setUp cell rules saved) (Game.new rules saved) deeds k) ∧
        ∀ c : Game.Call, c.PlaysOn → (g.perform c).answer = .error .over) ∧
      ∀ (s : Station) (c : Game.Call), s.table.cell = cell →
        ((playAt s c).run.run ((w.setUp cell rules saved).afterAll deeds)).1 =
            (g.perform c).answer.mapError (.table ∘ .game) ∧
          ((playAt s c).run.run
            ((w.setUp cell rules saved).afterAll deeds)).2.games.get? cell =
              some (g.perform c).game := by
  have hnew := get?_games_setUpTable hw rules saved
  have hg := get?_games_afterAll hs hnew
  have hsound := Game.sound_new hr saved
  refine ⟨_, rfl, hg, Game.scored_afterAll hr saved _,
    fun hno => shelf_afterAll_eq hs hnew hsound (.inr hno),
    fun ho => ⟨exists_endsAt hs hnew hsound nofun ho, fun c => Game.answer_of_over ho⟩,
    fun s c hc => ?_⟩
  rw [← hc] at hg ⊢
  exact ⟨(run_playAt c hg).1, get?_games_playAt hg c⟩

theorem ending_afterAll_of_ruin :
    ∃ (w : World) (deeds : List (Station × Game.Deed)),
      w = { stores := ⟨[("kept", .memory []), ("broken", .broken)]⟩ } ∧
      deeds = [({ table := ⟨"t", 0, 816⟩, store := some "kept" }, .call (.join "ann")),
        ({ table := ⟨"/t", 0, 816⟩, store := some "broken" }, .call (.join "bob")),
        ({ table := ⟨"/t", 0, 816⟩, store := some "broken" }, .call (.join "cleo")),
        ({ table := ⟨"/t", 0, 816⟩, store := some "broken" }, .call (.act 0 ({ · with money := -1 }))),
        ({ table := ⟨"t", 0, 816⟩, store := some "kept" }, .call (.act 1 ({ · with money := -1 }))),
        ({ table := ⟨"/t", 0, 816⟩, store := some "broken" }, .call (.disconnect 2))] ∧
      Rules.Valid {} ∧ w.games.get? 0 = none ∧ (∀ p ∈ deeds, p.1.table.cell = 0) ∧
      EndsAt (w.setUp 0 {} none) (Game.new {}) deeds 4 ∧
      ∃ g, ((w.setUp 0 {} none).afterAll deeds).games.get? 0 = some g ∧ g.phase = .over ∧
        g.scores.totalGames = 1 ∧ (g.perform .advance).answer = .error .over := by
  have hr : Rules.Valid {} := by decide
  obtain ⟨w, hw⟩ : ∃ w : World, w = { stores := ⟨[("kept", .memory []), ("broken", .broken)]⟩ } :=
    ⟨_, rfl⟩
  obtain ⟨deeds, hd⟩ : ∃ deeds : List (Station × Game.Deed), deeds =
      [({ table := ⟨"t", 0, 816⟩, store := some "kept" }, .call (.join "ann")),
        ({ table := ⟨"/t", 0, 816⟩, store := some "broken" }, .call (.join "bob")),
        ({ table := ⟨"/t", 0, 816⟩, store := some "broken" }, .call (.join "cleo")),
        ({ table := ⟨"/t", 0, 816⟩, store := some "broken" }, .call (.act 0 ({ · with money := -1 }))),
        ({ table := ⟨"t", 0, 816⟩, store := some "kept" }, .call (.act 1 ({ · with money := -1 }))),
        ({ table := ⟨"/t", 0, 816⟩, store := some "broken" }, .call (.disconnect 2))] := ⟨_, rfl⟩
  have hnone : w.games.get? 0 = none := by rw [hw]; rfl
  have hs : ∀ p ∈ deeds, p.1.table.cell = 0 := by rw [hd]; simp
  obtain ⟨g, heq, hg, hscored, -, hover, -⟩ := ending_afterAll hr none hnone hs
  have ho : g.phase = .over := by
    rw [← heq, hd]
    decide +kernel
  obtain ⟨⟨k, hk⟩, hanswer⟩ := hover ho
  have hfour : ∀ k < deeds.length, ((Game.new {}).stage (deeds.map Prod.snd) k).phase ≠ .over →
      ((Game.new {}).stage (deeds.map Prod.snd) (k + 1)).phase = .over → k = 4 := by
    rw [hd]
    decide +kernel
  have htotal := hscored.total
  rw [ho] at htotal
  exact ⟨w, deeds, hw, hd, hr, hnone, hs,
    hfour k hk.lt hk.before hk.after ▸ hk, g, hg, ho, htotal, hanswer .advance trivial⟩

end Rota.World
