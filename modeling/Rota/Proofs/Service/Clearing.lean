import Rota.Proofs.Region.Incarnation
import Rota.Proofs.World.Loggers
import Rota.Service.Host

namespace Rota.Service

open Region (Mapping Space bareName?)

/-- The name stands for that memory. -/
def Binds (w : World) (given : String) (cell : Nat) : Prop :=
  ∃ bare, bareName? given = some bare ∧ w.space.entry? bare = some (.memory cell)

/-- The name stands for memory that there was none of at the start. -/
def Stray (start w : World) (given : String) : Prop :=
  ∃ cell, start.space.cells.length ≤ cell ∧ Binds w given cell

section binds

variable {start w w' : World} {given : String} {cell : Nat}

theorem Binds.congr (h : Binds w given cell)
    (he : ∀ bare, bareName? given = some bare → w'.space.entry? bare = w.space.entry? bare) :
    Binds w' given cell := by
  obtain ⟨bare, hb, hc⟩ := h
  refine ⟨bare, hb, ?_⟩
  rw [he bare hb]
  exact hc

theorem Binds.unique {other : Nat} (h : Binds w given cell) (h' : Binds w given other) :
    cell = other := by
  obtain ⟨bare, hb, hc⟩ := h
  obtain ⟨bare', hb', hc'⟩ := h'
  rw [Option.some.inj (hb'.symm.trans hb), hc] at hc'
  exact Region.Entry.memory.inj (Option.some.inj hc')

theorem Binds.stray_iff (h : Binds w given cell) :
    Stray start w given ↔ start.space.cells.length ≤ cell := by
  constructor
  · rintro ⟨other, hle, hother⟩
    rw [h.unique hother]
    exact hle
  · intro hle
    exact ⟨cell, hle, h⟩

theorem stray_congr
    (he : ∀ bare, bareName? given = some bare → w'.space.entry? bare = w.space.entry? bare) :
    Stray start w' given ↔ Stray start w given := by
  constructor
  · rintro ⟨cell, hle, hb⟩
    exact ⟨cell, hle, hb.congr fun bare hbare => (he bare hbare).symm⟩
  · rintro ⟨cell, hle, hb⟩
    exact ⟨cell, hle, hb.congr he⟩

end binds

/-- Names have been freed, and nothing else has happened. -/
structure Trimmed (w w' : World) : Prop where
  cells : w'.space.cells = w.space.cells
  objects : w'.objects = w.objects
  queues : w'.queues = w.queues
  entries : ∀ bare e, w'.space.entry? bare = some e → w.space.entry? bare = some e

namespace Trimmed

variable {w w' w'' : World}

theorem refl (w : World) : Trimmed w w := ⟨rfl, rfl, rfl, fun _ _ he => he⟩

theorem trans (h : Trimmed w w') (h' : Trimmed w' w'') : Trimmed w w'' where
  cells := h'.cells.trans h.cells
  objects := h'.objects.trans h.objects
  queues := h'.queues.trans h.queues
  entries bare e he := h.entries bare e (h'.entries bare e he)

theorem unbind (w : World) (bare : String) :
    Trimmed w { w with space := w.space.unbind bare } where
  cells := rfl
  objects := rfl
  queues := rfl
  entries _ _ he := Space.entry?_of_unbind he

theorem absent (h : Trimmed w w') {bare : String} (hn : w.space.entry? bare = none) :
    w'.space.entry? bare = none := by
  apply Option.eq_none_iff_forall_ne_some.mpr
  intro e he
  rw [h.entries bare e he] at hn
  cases hn

theorem not_stray (h : Trimmed w w') (hs : w.space.Sound) (given : String) :
    ¬Stray w w' given := by
  rintro ⟨cell, hle, bare, -, he⟩
  have hlt := hs.made bare cell (h.entries bare _ he)
  omega

end Trimmed

namespace Host

open Cli (HostOptions)

/-- The names that a host makes regions under. -/
def names (o : HostOptions) : List String := [o.name, logName o.name]

theorem run_removeLeftover (name : String) (w : World) :
    (removeLeftover name).run.run w =
      match w.space.remove name with
      | .ok sp => (.ok (), { w with space := sp })
      | .error (.notFound _) => (.ok (), w)
      | .error f => (.error ⟨some (.removeLeftover name), .world (.region f)⟩, w) := by
  have hget : (get : Act World).run.run w = (.ok w, w) := rfl
  rw [removeLeftover, World.run_bind_of_ok hget]
  rcases w.space.remove name with f | sp
  · cases f <;> rfl
  · rfl

/-- A leftover goes, unless something stands in the way. -/
theorem removeLeftover_cases (name : String) (w : World) :
    (∃ f, (removeLeftover name).run.run w =
        (.error ⟨some (.removeLeftover name), .world (.region f)⟩, w)) ∨
      ∃ w', (removeLeftover name).run.run w = (.ok (), w') ∧ Trimmed w w' ∧
        ∀ bare, bareName? name = some bare → w'.space.entry? bare = none := by
  have hrun := run_removeLeftover name w
  cases hb : bareName? name with
  | none =>
    have hremove : w.space.remove name = .error (.invalidName name) := by
      rw [Space.remove, Space.bare, hb]
      rfl
    rw [hremove] at hrun
    exact .inl ⟨_, hrun⟩
  | some bare =>
    have hremove : w.space.remove name = _ := Space.remove_eq hb
    cases he : w.space.entry? bare with
    | none =>
      rw [hremove, he] at hrun
      refine .inr ⟨w, hrun, .refl w, ?_⟩
      intro other ho
      rw [← Option.some.inj ho]
      exact he
    | some e =>
      rw [hremove, he] at hrun
      have hfreed : ∀ other, some bare = some other →
          Space.entry? (w.space.unbind bare) other = none := by
        intro other ho
        rw [← Option.some.inj ho]
        exact w.space.entry?_unbind_self bare
      cases e with
      | folder => exact .inl ⟨_, hrun⟩
      | memory cell => exact .inr ⟨_, hrun, .unbind w bare, hfreed⟩
      | unsized => exact .inr ⟨_, hrun, .unbind w bare, hfreed⟩

/-- Frees the names of a game if that is asked for. -/
def clear (o : HostOptions) : Act Unit := do
  if o.reset then
    removeLeftover o.name
    removeLeftover (logName o.name)

/-- A host that gets as far as the name has to make the region. -/
def Creates (o : HostOptions) (w : World) (given : String) : Prop :=
  ∃ bare, bareName? given = some bare ∧ (o.reset = true ∨ w.space.entry? bare = none)

/-- A host has cleared the names that are to be free. -/
structure Cleared (o : HostOptions) (w w' : World) : Prop where
  trimmed : Trimmed w w'
  absent_iff : ∀ given ∈ names o, ∀ bare, bareName? given = some bare →
    (w'.space.entry? bare = none ↔ o.reset = true ∨ w.space.entry? bare = none)

theorem clear_cases (o : HostOptions) (w : World) :
    (∃ w', (clear o).run.run w = (.ok (), w') ∧ Cleared o w w') ∨
      ∃ name cause w', (clear o).run.run w = (.error ⟨some (.removeLeftover name), cause⟩, w') ∧
        Trimmed w w' := by
  unfold clear
  cases hreset : o.reset with
  | false =>
    left
    refine ⟨w, rfl, .refl w, ?_⟩
    simp [hreset]
  | true =>
    rw [if_pos rfl]
    obtain ⟨f, hgame⟩ | ⟨w₁, hgame, htrim, hfree⟩ := removeLeftover_cases o.name w
    · rw [World.run_bind_of_error hgame]
      exact .inr ⟨_, _, _, rfl, .refl w⟩
    · rw [World.run_bind_of_ok hgame]
      obtain ⟨f, hlog⟩ | ⟨w₂, hlog, htrim', hfree'⟩ := removeLeftover_cases (logName o.name) w₁
      · exact .inr ⟨_, _, _, hlog, htrim⟩
      · refine .inl ⟨w₂, hlog, htrim.trans htrim', ?_⟩
        intro given hgiven bare hb
        have hnone : w₂.space.entry? bare = none := by
          rcases List.mem_pair.mp hgiven with rfl | rfl
          · exact htrim'.absent (hfree bare hb)
          · exact hfree' bare hb
        simp [hnone, hreset]

theorem Cleared.absent {o : HostOptions} {start w : World} (h : Cleared o start w) {given : String}
    (hgiven : given ∈ names o) (hcreates : Creates o start given) {bare : String}
    (hb : bareName? given = some bare) : w.space.entry? bare = none := by
  obtain ⟨bare', hb', hfree⟩ := hcreates
  rw [Option.some.inj (hb'.symm.trans hb)] at hfree
  exact (h.absent_iff given hgiven bare hb).mpr hfree

/-- What a host opens is memory of its own making just if it has to make it. -/
theorem Cleared.made_iff {o : HostOptions} {start w w' : World} (h : Cleared o start w)
    (hs : start.space.Sound) {given : String} (hgiven : given ∈ names o) {bare : String}
    (hsame : w'.space.entry? bare = w.space.entry? bare)
    (hlength : w.space.cells.length ≤ w'.space.cells.length) {m : Mapping} {sp : Space}
    (hopened : w'.space.Opened given bare m sp) :
    start.space.cells.length ≤ m.cell ↔ Creates o start given := by
  constructor
  · intro hle
    refine ⟨bare, hopened.proper, (h.absent_iff given hgiven bare hopened.proper).mp ?_⟩
    by_contra hn
    rw [← hsame] at hn
    have hfound := hopened.found hn
    rw [hsame] at hfound
    have hlt := hs.made bare m.cell (h.trimmed.entries bare _ hfound)
    omega
  · intro hcreates
    have hn := h.absent hgiven hcreates hopened.proper
    rw [← hsame] at hn
    rw [hopened.made hn, ← h.trimmed.cells]
    exact hlength

end Host
end Rota.Service
