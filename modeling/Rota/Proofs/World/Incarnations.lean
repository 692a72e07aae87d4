import Rota.Proofs.World.Namespace

namespace Rota.World

open Region (Mapping bareName?)

/-- Call `k` of a history mapped the region `bare` under `label`, and the mapping is still there at
time `n`. -/
structure Obtained (w : World) (calls : List RegionCall) (n : Nat) (label bare : String) (k : Nat) :
    Prop where
  lt : k < n
  call : ∃ c a, calls[k]? = some c ∧ c.Maps label bare ∧ (w.stage calls k).answer c = .ok a
  kept : ∀ i ≤ n, k < i →
    (w.stage calls i).mappingAt? label = (w.stage calls (k + 1)).mappingAt? label

/-- The regions that calls `j` and `k` have mapped are one incarnation of a name, which has been in
use from the one call to the other. -/
def SameIncarnation (w : World) (calls : List RegionCall) (bare : String) (j : Nat) (other : String)
    (k : Nat) : Prop :=
  bare = other ∧
    ∀ i ≤ max j k + 1, min j k < i → (w.stage calls i).space.entry? bare ≠ none

namespace Obtained

variable {w : World} {calls : List RegionCall} {n : Nat} {label bare : String} {k : Nat}

theorem succ (ho : w.Obtained calls n label bare k)
    (hm : (w.stage calls (n + 1)).mappingAt? label = (w.stage calls n).mappingAt? label) :
    w.Obtained calls (n + 1) label bare k where
  lt := Nat.lt_succ_of_lt ho.lt
  call := ho.call
  kept i hin hki := by
    rcases Nat.lt_or_eq_of_le hin with hlt | rfl
    · exact ho.kept i (Nat.le_of_lt_succ hlt) hki
    · rw [hm]
      exact ho.kept n (Nat.le_refl n) ho.lt

theorem entry (ho : w.Obtained calls n label bare k) (h : w.Tidy) :
    ∃ m, (w.stage calls n).mappingAt? label = some m ∧
      (w.stage calls (k + 1)).space.entry? bare = some (.memory m.cell) := by
  obtain ⟨c, a, hc, hmaps, ha⟩ := ho.call
  obtain ⟨m, hm, he⟩ := ((h.stage calls k).outcome c).maps hmaps ha
  rw [← stage_succ hc, ← mappingAt?_eq_some] at hm
  rw [← stage_succ hc] at he
  exact ⟨m, (ho.kept n (Nat.le_refl n) ho.lt).trans hm, he⟩

end Obtained

/-- Whatever is mapped has been mapped by a call of the history. -/
theorem exists_obtained {w : World} (hw : w.objects = {}) (h : w.Tidy) (calls : List RegionCall)
    (n : Nat) {label : String} {m : Mapping} (hm : (w.stage calls n).mappingAt? label = some m) :
    ∃ bare k, w.Obtained calls n label bare k := by
  induction n generalizing m with
  | zero =>
    have hnone : w.objectAt? label = none := by
      rw [objectAt?, hw]
      rfl
    rw [mappingAt?_eq_some] at hm
    exact absurd (hnone.symm.trans hm) (Option.some_ne_none _).symm
  | succ n ih =>
    cases hc : calls[n]? with
    | none =>
      have hsame := stage_succ_of_none (w := w) hc
      rw [hsame] at hm
      obtain ⟨bare, k, ho⟩ := ih hm
      exact ⟨bare, k, ho.succ (by rw [hsame])⟩
    | some c =>
      have hstep := stage_succ (w := w) hc
      have hm' := hm
      rw [hstep, mappingAt?_eq_some] at hm'
      rcases ((h.stage calls n).outcome c).object_cases hm' with
        hold | ⟨-, a, bare, -, ha, hmaps, -⟩
      · rw [← mappingAt?_eq_some] at hold
        obtain ⟨bare, k, ho⟩ := ih hold
        exact ⟨bare, k, ho.succ (hm.trans hold.symm)⟩
      · refine ⟨bare, n, Nat.lt_succ_self n, ⟨c, a, hc, hmaps, ha⟩, fun i hin hni => ?_⟩
        rw [Nat.le_antisymm hin hni]

theorem SameIncarnation.symm {w : World} {calls : List RegionCall} {bare other : String} {j k : Nat}
    (hsame : w.SameIncarnation calls bare j other k) : w.SameIncarnation calls other k bare j := by
  obtain ⟨rfl, hin⟩ := hsame
  refine ⟨rfl, fun i hmax hmin => hin i ?_ ?_⟩
  · rwa [Nat.max_comm]
  · rwa [Nat.min_comm]

section pair

variable {w : World} (h : w.Tidy) {calls : List RegionCall} {n : Nat}
  {label other bare bare' : String} {j k : Nat} (hj : w.Obtained calls n label bare j)
  (hk : w.Obtained calls n other bare' k) {m m' : Mapping}
  (hm : (w.stage calls n).mappingAt? label = some m)
  (hm' : (w.stage calls n).mappingAt? other = some m')
include h hj hk hm hm'

theorem cell_eq_iff_of_le (hjk : j ≤ k) :
    m.cell = m'.cell ↔ w.SameIncarnation calls bare j bare' k := by
  obtain ⟨_, hfound, he⟩ := hj.entry h
  obtain ⟨_, hfound', he'⟩ := hk.entry h
  rw [Option.some.inj (hfound.symm.trans hm)] at he
  rw [Option.some.inj (hfound'.symm.trans hm')] at he'
  rw [SameIncarnation, Nat.min_eq_left hjk, Nat.max_eq_right hjk]
  exact Region.Space.cell_eq_iff (s := fun i => (w.stage calls i).space) (h.altered_stage calls)
    h.sound (Nat.succ_le_succ hjk) he he'

/-- Two mappings are of the same memory if and only if it is the same incarnation. -/
theorem cell_eq_iff : m.cell = m'.cell ↔ w.SameIncarnation calls bare j bare' k := by
  rcases Nat.le_total j k with hjk | hkj
  · exact cell_eq_iff_of_le h hj hk hm hm' hjk
  · rw [eq_comm, cell_eq_iff_of_le h hk hj hm' hm hkj]
    exact ⟨.symm, .symm⟩

end pair

theorem Tidy.seen_write {w : World} (h : w.Tidy) {label other : String} {m m' : Mapping}
    (hm : w.mappingAt? label = some m) (hm' : w.mappingAt? other = some m') {start : Nat}
    {new : List UInt8} (hfits : start + new.length ≤ (w.space.contents m.cell).length) :
    (w.afterCall (.write label start new)).seen other =
      some (if m.cell = m'.cell then Region.Space.spliced (w.space.contents m.cell) start new
        else w.space.contents m'.cell) := by
  have hdoes := does_write hm hfits
  have hsame : (w.afterCall (.write label start new)).mappingAt? other = some m' := by
    rw [mappingAt?, hdoes.objects]
    exact hm'
  rw [World.seen, hsame, hdoes.space, Option.map_some]
  split_ifs with hcell
  · rw [← hcell, Region.Space.contents_write _ (h.made label m hm) hfits]
  · refine congrArg some (Region.Space.contents_congr ?_)
    exact Region.Space.memory_setBytes_of_ne _ _ (Ne.symm hcell)

/-- What the mappings show that there are after the first `n` calls of a history. -/
structure MappingLaws (w : World) (calls : List RegionCall) (n : Nat) : Prop where
  obtained : ∀ label old, (w.stage calls n).seen label = some old →
    ∃ bare k, w.Obtained calls n label bare k
  shown : ∀ label bare k, w.Obtained calls n label bare k →
    ∃ old, (w.stage calls n).seen label = some old
  /-- All mappings of one incarnation show the same. -/
  alike : ∀ label bare j other bare' k, w.Obtained calls n label bare j →
    w.Obtained calls n other bare' k → w.SameIncarnation calls bare j bare' k →
    (w.stage calls n).seen label = (w.stage calls n).seen other
  /-- A write is seen through all mappings of the incarnation, -/
  written : ∀ label bare j other bare' k, w.Obtained calls n label bare j →
    w.Obtained calls n other bare' k → w.SameIncarnation calls bare j bare' k →
    ∀ old start new, (w.stage calls n).seen label = some old → start + new.length ≤ old.length →
    ((w.stage calls n).afterCall (.write label start new)).seen other =
      some (Region.Space.spliced old start new)
  /-- and through no others. -/
  unseen : ∀ label bare j other bare' k, w.Obtained calls n label bare j →
    w.Obtained calls n other bare' k → ¬ w.SameIncarnation calls bare j bare' k →
    ∀ start new, ((w.stage calls n).afterCall (.write label start new)).seen other =
      (w.stage calls n).seen other

theorem Tidy.mappingLaws {w : World} (h : w.Tidy) (hw : w.objects = {}) (calls : List RegionCall)
    (n : Nat) : w.MappingLaws calls n where
  obtained label old hs := by
    obtain ⟨m, hm, -⟩ := Option.map_eq_some_iff.mp hs
    exact exists_obtained hw h calls n hm
  shown label bare k ho := by
    obtain ⟨m, hm, -⟩ := ho.entry h
    exact ⟨_, congrArg _ hm⟩
  alike label bare j other bare' k hj hk hsame := by
    obtain ⟨m, hm, -⟩ := hj.entry h
    obtain ⟨m', hm', -⟩ := hk.entry h
    rw [World.seen, World.seen, hm, hm', Option.map_some, Option.map_some,
      (cell_eq_iff h hj hk hm hm').mpr hsame]
  written label bare j other bare' k hj hk hsame old start new hs hfits := by
    obtain ⟨m', hm', -⟩ := hk.entry h
    obtain ⟨m, hm, rfl⟩ := Option.map_eq_some_iff.mp hs
    rw [(h.stage calls n).seen_write hm hm' hfits, if_pos ((cell_eq_iff h hj hk hm hm').mpr hsame)]
  unseen label bare j other bare' k hj hk hother start new := by
    obtain ⟨m, hm, -⟩ := hj.entry h
    obtain ⟨m', hm', -⟩ := hk.entry h
    have hcell : m.cell ≠ m'.cell := fun hcell => hother ((cell_eq_iff h hj hk hm hm').mp hcell)
    have hs : (w.stage calls n).seen label = some ((w.stage calls n).space.contents m.cell) :=
      congrArg _ hm
    by_cases hfits : start + new.length ≤ ((w.stage calls n).space.contents m.cell).length
    · rw [(h.stage calls n).seen_write hm hm' hfits, if_neg hcell, World.seen, hm', Option.map_some]
    · have hlaws := (h.stage calls n).laws
      have herror := hlaws.writes label _ start new hs
      rw [if_neg hfits] at herror
      obtain ⟨hspace, hmaps⟩ := hlaws.fails _ _ herror
      have hne : RegionCall.write label start new ≠ .destroy other := by
        intro he
        cases he
      rw [World.seen, World.seen, hspace, hmaps other, if_neg hne]

/-- A name is the same with a slash before it, the calls keep to the laws at all times, and what is
written is seen by those who map the same incarnation of a name, and only by them. -/
theorem lawful_stage {w : World} (hw : w.objects = {}) (hs : w.space.Sound)
    (calls : List RegionCall) (n : Nat) :
    (∀ given bare, bareName? given = some bare ↔ (given = bare ∨ given = "/" ++ bare) ∧
      bare ≠ "" ∧ bare.utf8ByteSize ≤ Region.longestName ∧ '/' ∉ bare.toList ∧
        '\x00' ∉ bare.toList) ∧
    RegionLaws (w.stage calls n) ∧ w.MappingLaws calls n := by
  have hnone (label : String) : w.objectAt? label = none := by
    rw [objectAt?, hw]
    rfl
  have h : w.Tidy := by
    refine ⟨fun label o ho => ?_, fun label m hm => ?_, hs⟩
    · exact absurd ((hnone label).symm.trans ho) (Option.some_ne_none o).symm
    · have ho := objectAt?_of_mappingAt? hm
      exact absurd ((hnone label).symm.trans ho) (Option.some_ne_none _).symm
  exact ⟨fun _ _ => Region.bareName?_eq_some_iff, (h.stage calls n).laws, h.mappingLaws hw calls n⟩

theorem lawful_stage_of_remaking :
    ∃ calls : List RegionCall,
      calls = [.create "a" "/r" 4, .attach "b" "r", .write "a" 1 [7], .remove "r",
        .create "c" "r" 4] ∧
      ({} : World).objects = {} ∧ Region.Space.Sound {} ∧ RegionLaws (stage {} calls 5) ∧
      ((stage {} calls 5).afterCall (.write "b" 0 [9])).seen "a" = some [9, 7, 0, 0] ∧
      ((stage {} calls 5).afterCall (.write "b" 0 [9])).seen "c" = some [0, 0, 0, 0] := by
  have hsound : Region.Space.Sound {} := Region.Space.sound_blank
  obtain ⟨calls, hcalls⟩ : ∃ calls : List RegionCall,
      calls = [.create "a" "/r" 4, .attach "b" "r", .write "a" 1 [7], .remove "r",
        .create "c" "r" 4] := ⟨_, rfl⟩
  have hbare : bareName? "r" = some "r" := by decide +kernel
  have hslashed : bareName? "/r" = some "r" := by decide +kernel
  have ha : Obtained {} calls 5 "a" "r" 0 := by
    rw [hcalls]
    exact ⟨by decide, ⟨_, .size 4, rfl, ⟨_, hslashed, .inr ⟨4, rfl⟩⟩, by decide +kernel⟩,
      by decide +kernel⟩
  have hb : Obtained {} calls 5 "b" "r" 1 := by
    rw [hcalls]
    exact ⟨by decide, ⟨_, .size 4, rfl, ⟨_, hbare, .inl rfl⟩, by decide +kernel⟩,
      by decide +kernel⟩
  have hc : Obtained {} calls 5 "c" "r" 4 := by
    rw [hcalls]
    exact ⟨by decide, ⟨_, .size 4, rfl, ⟨_, hbare, .inr ⟨4, rfl⟩⟩, by decide +kernel⟩,
      by decide +kernel⟩
  have hsame : SameIncarnation {} calls "r" 1 "r" 0 := by
    rw [hcalls]
    exact ⟨rfl, by decide +kernel⟩
  have hother : ¬ SameIncarnation {} calls "r" 1 "r" 4 := by
    rw [hcalls]
    exact fun ⟨_, hin⟩ => hin 4 (by decide) (by decide) (by decide +kernel)
  have hseen : (stage {} calls 5).seen "b" = some [0, 7, 0, 0] := by
    rw [hcalls]
    decide +kernel
  have hfresh : (stage {} calls 5).seen "c" = some [0, 0, 0, 0] := by
    rw [hcalls]
    decide +kernel
  obtain ⟨-, hlaws, hmappings⟩ := lawful_stage (w := {}) rfl hsound calls 5
  refine ⟨calls, hcalls, rfl, hsound, hlaws, ?_, ?_⟩
  · exact hmappings.written _ _ _ _ _ _ hb ha hsame _ 0 [9] hseen (by decide)
  · rw [hmappings.unseen _ _ _ _ _ _ hb hc hother 0 [9], hfresh]

end Rota.World
