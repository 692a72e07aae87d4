import Mathlib.Data.List.Perm.Basic
import Rota.Proofs.Game.Waking
import Rota.Proofs.World.Labels
import Rota.Proofs.World.Play
import Rota.World.Waiters

namespace Rota

/-- The waiter after a call at a station. -/
def Waiter.rousedBy (x : Waiter) (s : Station) (r : Game.Reply Game.Done) : Waiter :=
  if r.woke && x.cell = s.table.cell then { x with roused := true } else x

namespace World

/-- After an act that only looks at the world comes either what follows it or nothing. -/
theorem run_bind_cases {α β : Type} {x : Act α} (hx : Keeps id x.run) (f : α → Act β) (w : World) :
    (∃ a, x.run.run w = (.ok a, w) ∧ (x >>= f).run.run w = (f a).run.run w) ∨
      ∃ e, (x >>= f).run.run w = (.error e, w) := by
  have hw : (x.run.run w).2 = w := hx w
  rcases hr : x.run.run w with ⟨a | e, w'⟩
  all_goals
    rw [hr] at hw
    dsimp only at hw
    subst hw
  · exact .inr ⟨a, run_bind_of_error hr⟩
  · exact .inl ⟨e, rfl, run_bind_of_ok hr⟩

theorem waiters_follow (s : Station) (r : Game.Reply Game.Done) (w : World) :
    ((follow s r).run w).2.waiters = w.waiters.map (·.rousedBy s r) := by
  have hrest : Keeps waiters (do
      announce s r.events
      if r.ended then ignore (keepScores s)) := by
    refine (keeps_announce (fun _ _ => rfl) s r.events).bind fun _ => ?_
    split_ifs
    · exact (keeps_keepScores (fun _ _ _ => rfl) s).bind fun _ => Keeps.pure _
    · exact Keeps.pure _
  exact hrest ((rouse s r).run w).2

/-- All that a call at a station does to the tables and to those who wait, if it does anything. -/
theorem play_cases (label : String) (call : Game.Call) (w : World) :
    ((play label call).run.run w).2 = w ∨
      ∃ (s : Station) (g : Game), w.games.get? s.table.cell = some g ∧
        ((play label call).run.run w).2.games =
          w.games.set s.table.cell (g.perform call).game ∧
        ((play label call).run.run w).2.waiters =
          w.waiters.map (·.rousedBy s (g.perform call)) := by
  rcases run_bind_cases (keeps_stationAt id label) (playAt · call) w with
    ⟨s, -, hs⟩ | ⟨f, hf⟩
  · rw [play, hs]
    cases hg : w.games.get? s.table.cell with
    | none =>
      have hlocked : (lockedGame s.table.cell).run.run w =
          (.error (.table (.uninitialised .mutex)), w) := by
        rw [lockedGame, run_bind_of_ok (run_get w), hg]
        rfl
      rw [playAt, run_bind_of_error hlocked]
      exact .inl rfl
    | some g =>
      rw [run_playAt_eq call hg]
      refine .inr ⟨s, g, hg, ?_, ?_⟩
      · exact keeps_follow s (g.perform call) _
      · exact waiters_follow s (g.perform call) _
  · rw [play, hf]
    exact .inl rfl

/-- Who comes to wait is let in or sent away. -/
theorem beginWait_cases (label station : String) (seat : Nat) (w : World) :
    (∃ f, (beginWait label station seat).run.run w = (.error f, w)) ∨
      ∃ cell, (beginWait label station seat).run.run w =
        (.ok (), { w with waiters := w.waiters ++ [{ label, cell, seat }] }) := by
  rw [beginWait]
  rcases run_bind_cases (keeps_stationAt id station) _ w with ⟨s, -, hs⟩ | hf
  · rw [hs]
    rcases run_bind_cases (keeps_openTable id s.table.name) _ w with ⟨m, -, hm⟩ | hf
    · rw [hm]
      rcases run_bind_cases (keeps_lockedGame id m.cell) _ w with ⟨g, -, hg⟩ | hf
      · rw [hg]
        rcases run_bind_cases (keeps_ofTable id ((g.seated seat).mapError .game)) _ w with
          ⟨a, -, ha⟩ | hf
        · exact .inr ⟨m.cell, ha⟩
        · exact .inl hf
      · exact .inl hf
    · exact .inl hf
  · exact .inl hf

/-- What happens at the tables: a call at a station, someone who comes to wait for a turn, or some
of those who are roused look at their tables. -/
inductive Stir
  | play (label : String) (call : Game.Call)
  | come (label station : String) (seat : Nat)
  | look (who : Waiter → Bool)

/-- Who begins to wait. -/
def arrivals (w : World) : Stir → List String
  | .come label station seat =>
    match ((beginWait label station seat).run.run w).1 with
    | .ok _ => [label]
    | .error _ => []
  | _ => []

/-- Who goes home, and why. -/
def departures (w : World) : Stir → List (String × Game.Wake)
  | .look who => ((look who).run w).1
  | _ => []

def stirred (w : World) : Stir → World
  | .play label call => ((play label call).run.run w).2
  | .come label station seat => ((beginWait label station seat).run.run w).2
  | .look who => ((look who).run w).2

def afterStirs (w : World) (stirs : List Stir) : World := stirs.foldl stirred w

/-- Who has begun to wait by the end. -/
def allArrivals (w : World) : List Stir → List String
  | [] => []
  | a :: stirs => w.arrivals a ++ (w.stirred a).allArrivals stirs

/-- Who has gone home by the end, and why. -/
def allDepartures (w : World) : List Stir → List (String × Game.Wake)
  | [] => []
  | a :: stirs => w.departures a ++ (w.stirred a).allDepartures stirs

/-- Nobody sleeps through the end of their wait. -/
def Watchful (w : World) : Prop :=
  ∀ x ∈ w.waiters, x.roused = false → w.wakeOf? x = none

section step

variable {w v : World} {cell : Nat} {g : Game}

theorem game_of_set (h : v.games = w.games.set cell g) (other : Nat) :
    v.game other = if other = cell then g else w.game other := by
  rw [game, game, h, Register.get?_set]
  split_ifs <;> rfl

theorem game_of_get? (h : w.games.get? cell = some g) : w.game cell = g := by
  rw [game, h, Option.getD_some]

/-- Who waits at a table whose phase or turn changes is roused. -/
theorem roused_of_play {label : String} {call : Game.Call}
    (h : (((play label call).run.run w).2.game cell).phase ≠ (w.game cell).phase ∨
      (((play label call).run.run w).2.game cell).current ≠ (w.game cell).current)
    {x : Waiter} (hx : x ∈ ((play label call).run.run w).2.waiters) (hcell : x.cell = cell) :
    x.roused = true := by
  rcases play_cases label call w with hsame | ⟨s, g, hg, hgames, hwaiters⟩
  · rw [hsame] at h
    simp at h
  · rw [game_of_set hgames] at h
    have hc : cell = s.table.cell := by
      by_contra hne
      rw [if_neg hne] at h
      simp at h
    rw [if_pos hc, hc, game_of_get? hg] at h
    have hwoke := Game.woke_of_change h
    rw [hwaiters, List.mem_map] at hx
    obtain ⟨y, -, rfl⟩ := hx
    unfold Waiter.rousedBy at hcell ⊢
    by_cases hy : y.cell = s.table.cell
    · simp [hwoke, hy]
    · simp only [hwoke, hy, decide_false, Bool.and_false] at hcell
      exact absurd (hcell.trans hc) hy

theorem Watchful.play (h : w.Watchful) (label : String) (call : Game.Call) :
    ((play label call).run.run w).2.Watchful := by
  intro x hx hr
  rcases play_cases label call w with hsame | ⟨s, g, hg, hgames, hwaiters⟩
  · rw [hsame] at hx ⊢
    exact h x hx hr
  · rw [hwaiters, List.mem_map] at hx
    obtain ⟨y, hy, rfl⟩ := hx
    unfold Waiter.rousedBy at hr ⊢
    split_ifs at hr ⊢ with hroused
    rw [wakeOf?, game_of_set hgames]
    split_ifs with hc
    · -- nobody has heard of the call, so it has done nothing
      have hunheard : (g.perform call).woke = false := by simpa [hc] using hroused
      rw [Game.perform_unheard hunheard, ← game_of_get? hg, ← hc]
      exact h y hy hr
    · exact h y hy hr

theorem Watchful.come (h : w.Watchful) (label station : String) (seat : Nat) :
    ((beginWait label station seat).run.run w).2.Watchful := by
  rcases beginWait_cases label station seat w with ⟨f, hf⟩ | ⟨cell, hc⟩
  · rw [hf]
    exact h
  · rw [hc]
    intro x hx hr
    rcases List.mem_append.mp hx with hx | hx
    · exact h x hx hr
    · -- who has just come has still to look
      rw [List.mem_singleton.mp hx] at hr
      cases hr

/-- All that a look does to a waiter. -/
theorem look_cases (w : World) (who : Waiter → Bool) (x : Waiter) :
    (looks who x = false ∧ w.remains? who x = some x ∧ w.leaves? who x = none) ∨
      (looks who x ∧ w.wakeOf? x = none ∧ w.remains? who x = some { x with roused := false } ∧
        w.leaves? who x = none) ∨
      ∃ wake, looks who x ∧ w.wakeOf? x = some wake ∧ w.remains? who x = none ∧
        w.leaves? who x = some (x.label, wake) := by
  cases hlooks : looks who x <;> cases hwake : w.wakeOf? x <;>
    simp [remains?, leaves?, hlooks, hwake]

theorem mem_waiters_look {who : Waiter → Bool} {x : Waiter}
    (hx : x ∈ ((look who).run w).2.waiters) :
    (x ∈ w.waiters ∧ looks who x = false) ∨
      ∃ y ∈ w.waiters, w.wakeOf? y = none ∧ x = { y with roused := false } := by
  obtain ⟨y, hy, hyx⟩ := List.mem_filterMap.mp hx
  rcases look_cases w who y with ⟨hno, hstays, -⟩ | ⟨-, hwake, hstays, -⟩ | ⟨_, -, -, hstays, -⟩
  all_goals
    rw [hstays] at hyx
    cases hyx
  · exact .inl ⟨hy, hno⟩
  · exact .inr ⟨y, hy, hwake, rfl⟩

theorem mem_departures_look {who : Waiter → Bool} {label : String} {wake : Game.Wake} :
    (label, wake) ∈ w.departures (.look who) ↔
      ∃ x ∈ w.waiters, looks who x ∧ w.wakeOf? x = some wake ∧ x.label = label := by
  change (label, wake) ∈ w.waiters.filterMap (w.leaves? who) ↔ _
  rw [List.mem_filterMap]
  apply exists_congr
  intro x
  apply and_congr_right
  intro hx
  rcases look_cases w who x with ⟨hno, -, hleaves⟩ | ⟨-, hwake, -, hleaves⟩ |
    ⟨wake', hlooks, hwake, -, hleaves⟩
  · simp [hleaves, hno]
  · simp [hleaves, hwake]
  · simp [hleaves, hlooks, hwake, and_comm]

/-- A look keeps everyone who does not go home. -/
theorem perm_look (w : World) (who : Waiter → Bool) :
    List.Perm (((look who).run w).2.waiters.map Waiter.label ++
      (w.departures (.look who)).map Prod.fst) (w.waiters.map Waiter.label) := by
  change List.Perm ((w.waiters.filterMap (w.remains? who)).map _ ++
    (w.waiters.filterMap (w.leaves? who)).map _) _
  induction w.waiters with
  | nil => exact .nil
  | cons x waiters ih =>
    rcases look_cases w who x with ⟨-, hstays, hleaves⟩ | ⟨-, -, hstays, hleaves⟩ |
      ⟨wake, -, -, hstays, hleaves⟩
    · rw [List.filterMap_cons_some hstays, List.filterMap_cons_none hleaves]
      exact ih.cons x.label
    · rw [List.filterMap_cons_some hstays, List.filterMap_cons_none hleaves]
      exact ih.cons x.label
    · rw [List.filterMap_cons_none hstays, List.filterMap_cons_some hleaves]
      exact List.perm_middle.trans (ih.cons x.label)

theorem perm_stirred (w : World) (a : Stir) :
    List.Perm ((w.stirred a).waiters.map Waiter.label ++ (w.departures a).map Prod.fst)
      (w.waiters.map Waiter.label ++ w.arrivals a) := by
  cases a with
  | play label call =>
    have hlabels : (w.stirred (.play label call)).waiters.map Waiter.label =
        w.waiters.map Waiter.label := by
      rcases play_cases label call w with hsame | ⟨s, g, -, -, hwaiters⟩
      · rw [stirred, hsame]
      · rw [stirred, hwaiters, List.map_map]
        apply List.map_congr_left
        intro x hx
        simp only [Function.comp_apply, Waiter.rousedBy]
        split_ifs <;> rfl
    rw [hlabels]
    exact .refl _
  | come label station seat =>
    rw [stirred, arrivals]
    rcases beginWait_cases label station seat w with ⟨f, hf⟩ | ⟨cell, hc⟩
    · rw [hf]
      exact .refl _
    · rw [hc]
      simp [departures]
  | look who => simpa [stirred, arrivals] using perm_look w who

theorem Watchful.look (h : w.Watchful) (who : Waiter → Bool) :
    ((look who).run w).2.Watchful := by
  intro x hx hr
  rcases mem_waiters_look hx with ⟨hx, -⟩ | ⟨y, hy, hnone, rfl⟩
  · exact h x hx hr
  · exact hnone

/-- Once all who are roused have looked, everyone is asleep. -/
theorem asleep_of_look {x : Waiter} (hx : x ∈ ((look fun _ => true).run w).2.waiters) :
    x.roused = false := by
  rcases mem_waiters_look hx with ⟨-, hlooks⟩ | ⟨y, -, -, rfl⟩
  · simpa [looks] using hlooks
  · rfl

theorem Watchful.stirred (h : w.Watchful) (a : Stir) : (w.stirred a).Watchful := by
  cases a with
  | play label call => exact h.play label call
  | come label station seat => exact h.come label station seat
  | look who => exact h.look who

theorem Watchful.afterStirs (h : w.Watchful) (stirs : List Stir) :
    (w.afterStirs stirs).Watchful := by
  induction stirs generalizing w with
  | nil => exact h
  | cons a stirs ih => exact ih (h.stirred a)

/-- Everyone who has come waits still or has gone home. -/
theorem perm_afterStirs (w : World) (stirs : List Stir) :
    List.Perm ((w.afterStirs stirs).waiters.map Waiter.label ++
        (w.allDepartures stirs).map Prod.fst)
      (w.waiters.map Waiter.label ++ w.allArrivals stirs) := by
  induction stirs generalizing w with
  | nil => exact .refl _
  | cons a stirs ih =>
    have hstep := perm_stirred w a
    have hrest := ih (w.stirred a)
    rw [allArrivals, allDepartures, List.map_append, ← List.append_assoc (w.waiters.map _)]
    have hleft := List.perm_append_comm_assoc ((w.afterStirs (a :: stirs)).waiters.map Waiter.label)
      ((w.departures a).map Prod.fst) (((w.stirred a).allDepartures stirs).map Prod.fst)
    have hmiddle := hrest.append_left ((w.departures a).map Prod.fst)
    have hright := hstep.append_right ((w.stirred a).allArrivals stirs)
    refine hleft.trans (hmiddle.trans (List.Perm.trans ?_ hright))
    rw [← List.append_assoc]
    exact List.perm_append_comm.append_right _

end step

/-- What holds of those who wait. -/
structure WaitLaws (w : World) : Prop where
  /-- A call that changes the phase or the turn of a table rouses all who wait there, whatever it
  answers. -/
  heard : ∀ (label : String) (call : Game.Call) (cell : Nat),
    (((play label call).run.run w).2.game cell).phase ≠ (w.game cell).phase ∨
      (((play label call).run.run w).2.game cell).current ≠ (w.game cell).current →
    ∀ x ∈ ((play label call).run.run w).2.waiters, x.cell = cell → x.roused
  asleep : ∀ x ∈ w.waiters, x.roused = false → ∀ wake, ¬(w.game x.cell).Ends x.seat wake
  served : ∀ (who : Waiter → Bool) (label : String) (wake : Game.Wake),
    (label, wake) ∈ w.departures (.look who) →
      ∃ x ∈ w.waiters, x.roused ∧ x.label = label ∧ (w.game x.cell).Ends x.seat wake
  leaves : ∀ (who : Waiter → Bool), ∀ x ∈ w.waiters, who x → x.roused →
    ∀ wake, (w.game x.cell).Ends x.seat wake → (x.label, wake) ∈ w.departures (.look who)
  /-- Once everyone who is roused has looked, nobody waits for what is there. -/
  rests : ∀ x ∈ (wakeWaiters.run w).2.waiters, ∀ wake, ¬(w.game x.cell).Ends x.seat wake

theorem Watchful.laws {w : World} (h : w.Watchful) : w.WaitLaws where
  heard label call cell hc x hx hcell := roused_of_play hc hx hcell
  asleep x hx hr := Game.wake?_eq_none_iff.mp (h x hx hr)
  served who label wake hd := by
    obtain ⟨x, hx, hlooks, hwake, hlabel⟩ := mem_departures_look.mp hd
    obtain ⟨-, hr⟩ : who x ∧ x.roused := by simpa [looks] using hlooks
    exact ⟨x, hx, hr, hlabel, Game.wake?_eq_some_iff.mp hwake⟩
  leaves who x hx hwho hr wake hends := by
    have hlooks : looks who x := by simp [looks, hwho, hr]
    exact mem_departures_look.mpr ⟨x, hx, hlooks, Game.wake?_eq_some_iff.mpr hends, rfl⟩
  rests x hx :=
    Game.wake?_eq_none_iff.mp (h.look (fun _ => true) x hx (asleep_of_look hx))

/-- However calls, those who come and those who look follow each other: no call changes the phase or
the turn of a game unheard, nobody sleeps while what they wait for is there, and who goes home has
what they have waited for. -/
theorem waitLaws_afterStirs {w : World} (hw : w.waiters = []) (stirs : List Stir) :
    (∀ (g : Game) (c : Game.Call),
      (g.perform c).game.phase ≠ g.phase ∨ (g.perform c).game.current ≠ g.current →
        (g.perform c).woke = true) ∧
      (w.afterStirs stirs).WaitLaws ∧
      List.Perm ((w.afterStirs stirs).waiters.map Waiter.label ++
        (w.allDepartures stirs).map Prod.fst) (w.allArrivals stirs) := by
  have hstart : w.Watchful := by
    intro x hx
    rw [hw] at hx
    cases hx
  have hperm := perm_afterStirs w stirs
  rw [hw] at hperm
  exact ⟨fun g c => Game.woke_of_change, (hstart.afterStirs stirs).laws, hperm⟩

theorem waitLaws_afterStirs_of_start :
    ∃ (w : World) (stirs : List Stir),
      w = ((createTable "g" "t" {} none false none).run.run {}).2 ∧
      stirs = [.play "g" (.join "ann"), .come "first" "g" 0, .play "g" (.join "bob"),
        .come "second" "g" 1, .come "third" "g" 2, .look fun _ => true, .play "g" (.join "cleo"),
        .look fun x => x.seat = 0, .play "g" (.act 1 id), .look fun _ => true] ∧
      w.waiters = [] ∧ w.allDepartures stirs = [("first", .turn)] ∧
      (w.afterStirs stirs).waiters = [⟨"second", 0, 1, false⟩] ∧
      (∀ wake, ¬((w.afterStirs stirs).game 0).Ends 1 wake) ∧
      List.Perm ["second", "first"] (w.allArrivals stirs) := by
  obtain ⟨w, hw⟩ : ∃ w : World, w = ((createTable "g" "t" {} none false none).run.run {}).2 :=
    ⟨_, rfl⟩
  obtain ⟨stirs, hs⟩ : ∃ stirs : List Stir, stirs =
      [.play "g" (.join "ann"), .come "first" "g" 0, .play "g" (.join "bob"),
        .come "second" "g" 1, .come "third" "g" 2, .look fun _ => true, .play "g" (.join "cleo"),
        .look fun x => x.seat = 0, .play "g" (.act 1 id), .look fun _ => true] := ⟨_, rfl⟩
  have hnobody : w.waiters = [] := by
    rw [hw]
    decide +kernel
  have hhome : w.allDepartures stirs = [("first", .turn)] := by
    rw [hw, hs]
    decide +kernel
  have hwaiters : (w.afterStirs stirs).waiters = [⟨"second", 0, 1, false⟩] := by
    rw [hw, hs]
    decide +kernel
  obtain ⟨-, hlaws, hperm⟩ := waitLaws_afterStirs hnobody stirs
  rw [hwaiters, hhome] at hperm
  have hasleep : ⟨"second", 0, 1, false⟩ ∈ (w.afterStirs stirs).waiters := by simp [hwaiters]
  exact ⟨w, stirs, hw, hs, hnobody, hhome, hwaiters, hlaws.asleep _ hasleep rfl, hperm⟩

end World
end Rota
