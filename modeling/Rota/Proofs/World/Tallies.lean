import Rota.Proofs.Region.Head
import Rota.Proofs.Score.Sheet
import Rota.Proofs.World.Keeping
import Rota.Proofs.World.Labels

namespace Rota

namespace Score

/-- The wins of a list of standings together; counts go round at their end. -/
def winsOf (players : List Standing) : UInt32 := (players.map Standing.wins).foldr (· + ·) 0

theorem winsOf_cons (s : Standing) (players : List Standing) :
    winsOf (s :: players) = s.wins + winsOf players :=
  rfl

theorem winsOf_congr {l l' : List Standing} (hlen : l'.length = l.length)
    (h : ∀ (i : Nat) (hi : i < l.length) (hi' : i < l'.length), l'[i].wins = l[i].wins) :
    winsOf l' = winsOf l := by
  have hmap : l'.map Standing.wins = l.map Standing.wins := by
    apply List.ext_getElem (by simp [hlen])
    intro i hi hi'
    simpa using h i (by simpa using hi') (by simpa using hi)
  rw [winsOf, winsOf, hmap]

/-- One more win anywhere is one more win altogether. -/
theorem winsOf_succ {l l' : List Standing} {winner : Nat} (hlen : l'.length = l.length)
    (hlt : winner < l.length)
    (h : ∀ (i : Nat) (hi : i < l.length) (hi' : i < l'.length),
      l'[i].wins = l[i].wins + if i = winner then 1 else 0) :
    winsOf l' = winsOf l + 1 := by
  induction l generalizing l' winner with
  | nil => cases hlt
  | cons s l ih =>
    obtain ⟨s', l', rfl⟩ := List.exists_cons_of_length_eq_add_one hlen
    have hlen' : l'.length = l.length := by simpa using hlen
    have hhead : s'.wins = s.wins + if 0 = winner then 1 else 0 := h 0 (by simp) (by simp)
    have htail (i : Nat) (hi : i < l.length) (hi' : i < l'.length) :
        l'[i].wins = l[i].wins + if i + 1 = winner then 1 else 0 :=
      h (i + 1) (by simpa using hi) (by simpa using hi')
    rw [winsOf_cons, winsOf_cons, hhead]
    cases winner with
    | zero =>
      have hsame : winsOf l' = winsOf l := by
        apply winsOf_congr hlen'
        intro i hi hi'
        rw [htail i hi hi', if_neg (by omega), UInt32.add_zero]
      rw [hsame, if_pos rfl, UInt32.add_assoc, UInt32.add_comm 1, ← UInt32.add_assoc]
    | succ winner =>
      have hmore : winsOf l' = winsOf l + 1 := by
        apply ih hlen' (by simpa using hlt)
        intro i hi hi'
        rw [htail i hi hi', if_congr Nat.succ_inj rfl rfl]
      rw [hmore, if_neg (by omega), UInt32.add_zero, ← UInt32.add_assoc]

end Score

open Score

/-- How the board `b'` after some games stands to the board `b` before them. -/
structure Tallied (b b' : Board) (games : List Game) : Prop where
  length : b'.players.length = mostSeats
  total : b'.totalGames = b.totalGames + .ofNat games.length
  seatGames : ∀ (i : Nat) (h : i < b.players.length) (h' : i < b'.players.length),
    b'.players[i].games = b.players[i].games + .ofNat (games.countP fun g => i < g.taken)
  seatWins : ∀ (i : Nat) (h : i < b.players.length) (h' : i < b'.players.length),
    b'.players[i].wins = b.players[i].wins + .ofNat (games.countP fun g => g.winner = some i)
  wins : winsOf b'.players = winsOf b.players + .ofNat games.length

namespace Tallied

variable {b b' b'' : Board} {games games' : List Game}

theorem refl (hb : b.players.length = mostSeats) : Tallied b b [] where
  length := hb
  total := (UInt32.add_zero _).symm
  seatGames _ _ _ := (UInt32.add_zero _).symm
  seatWins _ _ _ := (UInt32.add_zero _).symm
  wins := (UInt32.add_zero _).symm

theorem trans (h : Tallied b b' games) (h' : Tallied b' b'' games') :
    Tallied b b'' (games ++ games') where
  length := h'.length
  total := by
    rw [h'.total, h.total, List.length_append, UInt32.ofNat_add, UInt32.add_assoc]
  seatGames i hi hi'' := by
    have hi' : i < b'.players.length := by rw [h.length, ← h'.length]; exact hi''
    rw [h'.seatGames i hi' hi'', h.seatGames i hi hi', List.countP_append, UInt32.ofNat_add,
      UInt32.add_assoc]
  seatWins i hi hi'' := by
    have hi' : i < b'.players.length := by rw [h.length, ← h'.length]; exact hi''
    rw [h'.seatWins i hi' hi'', h.seatWins i hi hi', List.countP_append, UInt32.ofNat_add,
      UInt32.add_assoc]
  wins := by
    rw [h'.wins, h.wins, List.length_append, UInt32.ofNat_add, UInt32.add_assoc]

/-- One game that has ended is counted once, for those who sat at it and for who won it. -/
theorem single {rules : Rules} {g : Game} (hb : b.players.length = mostSeats)
    (hscored : Game.Scored (Game.new rules (some b)).scores g) (hg : g.Coherent)
    (hover : g.phase = .over) : Tallied b g.scores.toBoard [g] := by
  have hlen : g.scores.toBoard.players.length = mostSeats := g.scores.length_toBoard
  have hloaded (i : Fin mostSeats) (hi : i.val < b.players.length) :
      (Game.new rules (some b)).scores.entries.get i =
        (Game.blank.scores.entries.get i).fill b.players[i.val] :=
    Game.blank.scores.get_load b i hi
  have hwins (i : Nat) (hi : i < b.players.length) (hi' : i < g.scores.toBoard.players.length) :
      g.scores.toBoard.players[i].wins =
        b.players[i].wins + if g.winner = some i then 1 else 0 := by
    have hseat : i < mostSeats := hb ▸ hi
    rw [g.scores.getElem_toBoard i hi' hseat]
    have hcount := hscored.wins ⟨i, hseat⟩
    rw [hloaded ⟨i, hseat⟩ hi] at hcount
    exact hcount
  refine ⟨hlen, ?_, ?_, ?_, ?_⟩
  · have htotal := hscored.total
    rw [if_pos hover] at htotal
    exact htotal
  · intro i hi hi'
    have hseat : i < mostSeats := hb ▸ hi
    rw [g.scores.getElem_toBoard i hi' hseat]
    have hcount := hscored.games ⟨i, hseat⟩
    rw [hloaded ⟨i, hseat⟩ hi, if_congr (and_iff_right hover) rfl rfl] at hcount
    refine hcount.trans ?_
    by_cases hin : i < g.taken <;> simp [hin] <;> rfl
  · intro i hi hi'
    rw [hwins i hi hi']
    by_cases hwon : g.winner = some i <;> simp [hwon]
  · obtain ⟨winner, hwinner⟩ : ∃ winner, g.winner = some winner :=
      Option.isSome_iff_exists.mp (hg.winner_isSome.mpr hover)
    have hlt : winner < b.players.length := by
      rw [hb]
      exact Nat.lt_of_lt_of_le (hg.winner_lt winner hwinner) hg.taken_le_most
    apply winsOf_succ (hlen.trans hb.symm) hlt
    intro i hi hi'
    rw [hwins i hi hi', hwinner]
    simp only [Option.some.injEq, eq_comm]

end Tallied

namespace World

theorem run_openOrMakeTable {rules : Rules} (hr : rules.Valid) (w : World) (name : String)
    (saved : Option Board) :
    (openOrMakeTable name rules saved).run.run w =
      match w.space.createAs name tableLayout Region.Space.unfilled with
      | (.ok (m, true), sp) => (.ok m, { w with space := sp }.setUp m.cell rules saved)
      | (.ok (m, false), sp) => (.ok m, { w with space := sp })
      | (.error f, sp) => (.error (.table (.region f)), { w with space := sp }) := by
  have hopen : (openOrMakeTable name rules saved).run.run w =
      ((ofTable ((w.space.createAs name tableLayout Region.Space.unfilled).1.mapError .region)) >>=
        fun p => do
          if p.2 then setUpTable p.1.cell rules saved
          return p.1 : Act _).run.run
        { w with space := (w.space.createAs name tableLayout Region.Space.unfilled).2 } := by
    rw [openOrMakeTable, hr]
    rfl
  rw [hopen]
  rcases w.space.createAs name tableLayout Region.Space.unfilled with ⟨_ | ⟨m, _ | _⟩, sp⟩ <;> rfl

/-- A table whose region is already laid out, or not left blank by whoever began to, stays as it is,
and so does everything else. -/
theorem openOrMakeTable_of_made {w : World} {name bare : String} {cell : Nat}
    (hb : Region.bareName? name = some bare) (he : w.space.entry? bare = some (.memory cell))
    (hs : w.space.stage cell ≠ .blank) (rules : Rules) (saved : Option Board) :
    ((openOrMakeTable name rules saved).run.run w).2 = w := by
  cases hr : rules.fault? with
  | some f =>
    rw [openOrMakeTable, hr]
    rfl
  | none =>
    rw [run_openOrMakeTable hr]
    have hcreate : w.space.create name tableLayout.size = _ :=
      Region.Space.create_eq hb tableLayout.size
    rw [if_neg (by decide), he] at hcreate
    dsimp only at hcreate
    rw [Region.Space.createAs, hcreate]
    split_ifs with hsize
    · dsimp only
      rw [if_neg hs]
      rcases w.space.check ⟨name, cell, tableLayout.size⟩ tableLayout with f | _ <;> rfl
    · rfl

/-- A table made where nothing has its name, and what is done at it. -/
structure Sitting where
  world : World
  name : String
  rules : Rules
  deeds : List (Station × Game.Deed)

namespace Sitting

variable (s : Sitting) (b : Board)

/-- The memory that the table comes to lie in. -/
def cell : Nat := s.world.space.cells.length

/-- The making of the table, with the scores of a board. -/
def made : Except Fault Region.Mapping × World :=
  (openOrMakeTable s.name s.rules (some b)).run.run s.world

/-- The game in the end. -/
def game : Game := ((s.made b).2.afterAll s.deeds).game s.cell

/-- The board that the scores of the game make in the end. -/
def board : Board := (s.game b).scores.toBoard

/-- The table is a new one, all that is done is done at it, and in the end its game is over. -/
structure PlayedFrom : Prop where
  rules : s.rules.Valid
  free : ∃ bare, Region.bareName? s.name = some bare ∧ s.world.space.entry? bare = none
  unused : s.world.games.get? s.cell = none
  deeds : ∀ p ∈ s.deeds, p.1.table.cell = s.cell
  ended : (s.game b).phase = .over

end Sitting

namespace Sitting.PlayedFrom

variable {s : Sitting} {b : Board} (h : s.PlayedFrom b)
include h

theorem made_eq : ∃ sp, s.made b =
    (.ok ⟨s.name, s.cell, tableLayout.size⟩,
      { s.world with space := sp }.setUp s.cell s.rules (some b)) := by
  obtain ⟨bare, hb, hn⟩ := h.free
  have hcreate := Region.Space.createAs_of_absent (l := tableLayout) hb hn (by decide) (by decide)
  generalize ((s.world.space.made bare tableLayout.size).claim _).layOut _ tableLayout = sp
    at hcreate
  refine ⟨sp, ?_⟩
  rw [made, run_openOrMakeTable h.rules, hcreate]
  rfl

theorem get?_games_made :
    (s.made b).2.games.get? s.cell = some (Game.new s.rules (some b)) := by
  obtain ⟨sp, hmade⟩ := h.made_eq
  rw [hmade]
  exact get?_games_setUpTable h.unused s.rules (some b)

theorem game_eq : s.game b = (Game.new s.rules (some b)).afterAll (s.deeds.map Prod.snd) := by
  rw [Sitting.game, World.game, get?_games_afterAll h.deeds h.get?_games_made]
  rfl

/-- The board is the one saved when the game ends. -/
theorem exists_endsAt :
    ∃ k, EndsAt (s.made b).2 (Game.new s.rules (some b)) s.deeds k := by
  have hover := h.ended
  rw [h.game_eq] at hover
  exact World.exists_endsAt h.deeds h.get?_games_made (Game.sound_new h.rules (some b)) nofun hover

theorem tallied (hb : b.players.length = mostSeats) : Tallied b (s.board b) [s.game b] := by
  have hscored := Game.scored_afterAll h.rules (some b) (s.deeds.map Prod.snd)
  have hsound := (Game.sound_new h.rules (some b)).afterAll (s.deeds.map Prod.snd)
  rw [← h.game_eq] at hscored hsound
  exact Tallied.single hb hscored hsound.toCoherent h.ended

end Sitting.PlayedFrom

/-- The tables of a chain with the boards that they begin with: each takes up the board of the one
before. -/
def begun (b : Board) : List Sitting → List (Sitting × Board)
  | [] => []
  | s :: sittings => (s, b) :: begun (s.board b) sittings

/-- The board in the end of a chain. -/
def boardAfter (b : Board) : List Sitting → Board
  | [] => b
  | s :: sittings => boardAfter (s.board b) sittings

theorem tallied_boardAfter {b : Board} (hb : b.players.length = mostSeats) {sittings : List Sitting}
    (h : ∀ p ∈ begun b sittings, p.1.PlayedFrom p.2) :
    Tallied b (boardAfter b sittings) ((begun b sittings).map fun p => p.1.game p.2) := by
  induction sittings generalizing b with
  | nil => exact Tallied.refl hb
  | cons s sittings ih =>
    have hfirst : Tallied b (s.board b) [s.game b] :=
      (h (s, b) List.mem_cons_self).tallied hb
    have hrest := ih hfirst.length fun p hp => h p (List.mem_cons_of_mem _ hp)
    exact hfirst.trans hrest

theorem length_begun (b : Board) (sittings : List Sitting) :
    (begun b sittings).length = sittings.length := by
  induction sittings generalizing b with
  | nil => rfl
  | cons s sittings ih => exact congrArg (· + 1) (ih (s.board b))

/-- However many games follow each other, each at a new table with the board of the one before:
every game is counted once, at the seats that were taken and for the seat that won. A table that is
found keeps its scores. -/
theorem tallied_chain {b : Board} (hb : b.players.length = mostSeats) {sittings : List Sitting}
    (h : ∀ p ∈ begun b sittings, p.1.PlayedFrom p.2) :
    (begun b sittings).length = sittings.length ∧
      Tallied b (boardAfter b sittings) ((begun b sittings).map fun p => p.1.game p.2) ∧
      (∀ p ∈ begun b sittings,
        (p.1.made p.2).1 = .ok ⟨p.1.name, p.1.cell, tableLayout.size⟩ ∧
          p.1.game p.2 = (Game.new p.1.rules (some p.2)).afterAll (p.1.deeds.map Prod.snd) ∧
          ∃ k, EndsAt (p.1.made p.2).2 (Game.new p.1.rules (some p.2)) p.1.deeds k) ∧
      ∀ (w : World) (name bare : String) (cell : Nat) (rules : Rules) (saved : Option Board),
        Region.bareName? name = some bare → w.space.entry? bare = some (.memory cell) →
          w.space.stage cell ≠ .blank → ((openOrMakeTable name rules saved).run.run w).2 = w := by
  refine ⟨length_begun b sittings, tallied_boardAfter hb h, ?_, ?_⟩
  · intro p hp
    have hplayed := h p hp
    obtain ⟨sp, hmade⟩ := hplayed.made_eq
    exact ⟨congrArg Prod.fst hmade, hplayed.game_eq, hplayed.exists_endsAt⟩
  · intro w name bare cell rules saved hbare he hs
    exact openOrMakeTable_of_made hbare he hs rules saved

theorem tallied_chain_of_overflow :
    ∃ (s : Sitting) (b : Board),
      s = { world := { stores := ⟨[("kept", .memory [])]⟩ }, name := "/t", rules := {}, deeds :=
        [({ table := ⟨"t", 0, 816⟩ }, .call (.join "ann")),
          ({ table := ⟨"t", 0, 816⟩ }, .call (.join "bob")),
          ({ table := ⟨"/t", 0, 816⟩ }, .call (.join "cleo")),
          ({ table := ⟨"t", 0, 816⟩ }, .call (.act 0 ({ · with money := -1 }))),
          ({ table := ⟨"t", 0, 816⟩ }, .take 1),
          ({ table := ⟨"t", 0, 816⟩, store := some "kept" },
            .call (.act 1 ({ · with money := -1 })))] } ∧
      b = ⟨4294967295, [⟨"dora", 7, 8⟩, ⟨"eve", 0, 3⟩, ⟨"fay", 4294967294, 9⟩, ⟨"gus", 1, 1⟩,
        ⟨"hal", 0, 4294967295⟩]⟩ ∧
      b.players.length = mostSeats ∧ (∀ p ∈ begun b [s, s], p.1.PlayedFrom p.2) ∧
      (boardAfter b [s, s]).totalGames = 1 ∧
      winsOf (boardAfter b [s, s]).players = winsOf b.players + 2 := by
  obtain ⟨s, hs⟩ : ∃ s : Sitting, s =
      { world := { stores := ⟨[("kept", .memory [])]⟩ }, name := "/t", rules := {}, deeds :=
        [({ table := ⟨"t", 0, 816⟩ }, .call (.join "ann")),
          ({ table := ⟨"t", 0, 816⟩ }, .call (.join "bob")),
          ({ table := ⟨"/t", 0, 816⟩ }, .call (.join "cleo")),
          ({ table := ⟨"t", 0, 816⟩ }, .call (.act 0 ({ · with money := -1 }))),
          ({ table := ⟨"t", 0, 816⟩ }, .take 1),
          ({ table := ⟨"t", 0, 816⟩, store := some "kept" },
            .call (.act 1 ({ · with money := -1 })))] } := ⟨_, rfl⟩
  obtain ⟨b, hb⟩ : ∃ b : Board, b =
      ⟨4294967295, [⟨"dora", 7, 8⟩, ⟨"eve", 0, 3⟩, ⟨"fay", 4294967294, 9⟩, ⟨"gus", 1, 1⟩,
        ⟨"hal", 0, 4294967295⟩]⟩ := ⟨_, rfl⟩
  have hplayers : b.players.length = mostSeats := by rw [hb]; rfl
  have hplayed (b : Board) (hover : (s.game b).phase = .over) : s.PlayedFrom b := by
    refine ⟨?_, ⟨"t", ?_⟩, ?_, ?_, hover⟩ <;> rw [hs]
    · decide
    · exact ⟨by decide +kernel, rfl⟩
    · rfl
    · simp [Sitting.cell]
  have hfirst : (s.game b).phase = .over := by
    rw [hs, hb]
    decide +kernel
  have hsecond : (s.game (s.board b)).phase = .over := by
    rw [hs, hb]
    decide +kernel
  have hall : ∀ p ∈ begun b [s, s], p.1.PlayedFrom p.2 := by
    simp only [begun, List.forall_mem_cons, List.not_mem_nil, false_implies, implies_true, and_true]
    exact ⟨hplayed b hfirst, hplayed _ hsecond⟩
  obtain ⟨-, htallied, -, -⟩ := tallied_chain hplayers hall
  have hfull : b.totalGames + 2 = 1 := by rw [hb]; decide
  have htotal : (boardAfter b [s, s]).totalGames = 1 := htallied.total.trans hfull
  exact ⟨s, b, hs, hb, hplayers, hall, htotal, htallied.wins⟩

end World

end Rota
