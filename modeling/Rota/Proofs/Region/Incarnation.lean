import Rota.Proofs.Region.Cells
import Mathlib.Data.List.GetD

namespace Rota.Region.Space

/-- All bytes of the memory. -/
def contents (sp : Space) (cell : Nat) : List UInt8 :=
  (List.range (sp.memory cell).size).map (sp.byte cell)

section contents

variable (sp : Space)

@[simp]
theorem length_contents (cell : Nat) : (sp.contents cell).length = (sp.memory cell).size := by
  rw [contents, List.length_map, List.length_range]

theorem contents_congr {sp sp' : Space} {cell : Nat} (h : sp'.memory cell = sp.memory cell) :
    sp'.contents cell = sp.contents cell := by
  unfold contents byte
  rw [h]

theorem contents_made (bare : String) (size : Nat) :
    (sp.made bare size).contents sp.cells.length = List.replicate size 0 := by
  unfold contents byte
  rw [memory_made_self, List.map_const', List.length_range]

theorem read?_eq (cell start count : Nat) :
    sp.read? cell start count =
      if start + count ≤ (sp.contents cell).length then
        some (((sp.contents cell).drop start).take count)
      else none := by
  rw [length_contents, read?]
  split_ifs with h
  · congr 1
    apply List.ext_getElem
    · simp
      omega
    · intro i hi hi'
      simp [contents]
  · rfl

theorem write?_eq (cell start : Nat) (bytes : List UInt8) :
    sp.write? cell start bytes =
      if start + bytes.length ≤ (sp.contents cell).length then
        some (sp.setBytes cell (overwrite start bytes))
      else none := by
  rw [length_contents, write?]

/-- Bytes with others put over those from `start` on. -/
def spliced (old : List UInt8) (start : Nat) (bytes : List UInt8) : List UInt8 :=
  old.take start ++ bytes ++ old.drop (start + bytes.length)

theorem getElem?_contents (cell i : Nat) :
    (sp.contents cell)[i]? =
      if i < (sp.memory cell).size then some ((sp.memory cell).bytes i) else none := by
  split_ifs with h
  · rw [contents, List.getElem?_map, List.getElem?_range h]
    rfl
  · rw [List.getElem?_eq_none]
    rw [length_contents]
    exact Nat.le_of_not_lt h

theorem contents_write {cell : Nat} (hmade : cell < sp.cells.length) {start : Nat}
    {bytes : List UInt8} (h : start + bytes.length ≤ (sp.contents cell).length) :
    (sp.setBytes cell (overwrite start bytes)).contents cell =
      spliced (sp.contents cell) start bytes := by
  have htake : ((sp.contents cell).take start).length = start := by
    rw [List.length_take]
    omega
  have hend : ((sp.contents cell).take start ++ bytes).length = start + bytes.length := by
    rw [List.length_append, htake]
  rw [length_contents] at h
  apply List.ext_getElem?
  intro i
  rw [getElem?_contents, memory_setBytes_self sp _ hmade, spliced, List.getElem?_append, hend,
    List.getElem?_append, htake]
  dsimp only
  rw [overwrite]
  by_cases hbefore : i < start
  · rw [if_pos (by omega), if_neg (by omega), if_pos (by omega), if_pos hbefore,
      List.getElem?_take_of_lt hbefore, getElem?_contents, if_pos (by omega)]
  · rw [if_pos (Nat.le_of_not_lt hbefore), if_neg hbefore]
    by_cases hbehind : start + bytes.length ≤ i
    · have hrest : start + bytes.length + (i - (start + bytes.length)) = i := by omega
      rw [if_neg (Nat.not_lt_of_le hbehind), List.getElem?_drop, hrest, getElem?_contents,
        List.getD_eq_default _ _ (by omega)]
    · have hin : i - start < bytes.length := by omega
      rw [if_pos (by omega), if_pos (by omega), List.getD_eq_getElem _ _ hin,
        List.getElem?_eq_getElem hin]

end contents

/-- The size of the region of that name; one without a size yet has none of its bytes. -/
def size? (sp : Space) (bare : String) : Option Nat :=
  match sp.entry? bare with
  | some (.memory cell) => some (sp.memory cell).size
  | some .unsized => some 0
  | some .folder => none
  | none => none

theorem entry?_of_size? {sp : Space} {bare : String} {size : Nat} (hpos : 0 < size)
    (h : sp.size? bare = some size) :
    ∃ cell, sp.entry? bare = some (.memory cell) ∧ (sp.memory cell).size = size := by
  rw [size?] at h
  cases he : sp.entry? bare with
  | none =>
    rw [he] at h
    cases h
  | some e =>
    rw [he] at h
    cases e with
    | memory cell => exact ⟨cell, rfl, Option.some.inj h⟩
    | unsized => exact absurd (Option.some.inj h) (Nat.ne_of_lt hpos)
    | folder => cases h

theorem size?_of_entry? {sp : Space} {bare : String} {cell : Nat}
    (he : sp.entry? bare = some (.memory cell)) : sp.size? bare = some (sp.memory cell).size := by
  rw [size?, he]

/-- A region is made if the name is free, and else had if it is of the same size. -/
theorem create_ok_iff (sp : Space) (given : String) (size : Nat) :
    (∃ r, sp.create given size = .ok r) ↔ 0 < size ∧ ∃ bare, bareName? given = some bare ∧
      (sp.entry? bare = none ∧ size ≤ largestSize ∨ sp.size? bare = some size) := by
  constructor
  · rintro ⟨⟨m, sp'⟩, h⟩
    obtain ⟨bare, hb⟩ := bareName?_of_ok h
    rcases create_cases hb h with ⟨hn, hpos, hle, -⟩ | ⟨cell, he, hsize, hpos, -⟩
    · exact ⟨hpos, bare, hb, .inl ⟨hn, hle⟩⟩
    · exact ⟨hpos, bare, hb, .inr (hsize ▸ size?_of_entry? he)⟩
  · rintro ⟨hpos, bare, hb, ⟨hn, hle⟩ | hsize⟩
    · exact ⟨_, create_of_absent hb hn hpos hle⟩
    · obtain ⟨cell, he, rfl⟩ := entry?_of_size? hpos hsize
      exact ⟨_, create_of_memory hb he hpos⟩

/-- A name is freed if it is in use, but for a folder's. -/
theorem remove_ok_iff {sp : Space} {given bare : String} (hb : bareName? given = some bare) :
    (∃ sp', sp.remove given = .ok sp') ↔ ∃ size, sp.size? bare = some size := by
  rw [remove_eq hb, size?]
  cases sp.entry? bare with
  | none => exact ⟨nofun, nofun⟩
  | some e =>
    cases e with
    | memory cell => exact ⟨fun _ => ⟨_, rfl⟩, fun _ => ⟨_, rfl⟩⟩
    | unsized => exact ⟨fun _ => ⟨_, rfl⟩, fun _ => ⟨_, rfl⟩⟩
    | folder => exact ⟨nofun, nofun⟩

/-- Names in use lead to memory that there is, with some bytes, and no two of them to the same. -/
structure Sound (sp : Space) : Prop where
  made : ∀ bare cell, sp.entry? bare = some (.memory cell) → cell < sp.cells.length
  sized : ∀ bare cell, sp.entry? bare = some (.memory cell) → 0 < (sp.memory cell).size
  single : ∀ bare other cell, sp.entry? bare = some (.memory cell) →
    sp.entry? other = some (.memory cell) → other = bare

theorem entry?_blank {bare : String} {e : Entry} (h : entry? {} bare = some e) :
    (bare = "." ∨ bare = "..") ∧ e = .folder := by
  have hin : (bare, e) ∈ [(".", Entry.folder), ("..", Entry.folder)] := Register.mem_entries h
  rcases List.mem_cons.mp hin with heq | hin
  · cases heq
    exact ⟨.inl rfl, rfl⟩
  · cases List.mem_singleton.mp hin
    exact ⟨.inr rfl, rfl⟩

theorem sound_blank : Sound {} := by
  have hnone : ∀ bare cell, entry? {} bare ≠ some (.memory cell) := fun _ _ h =>
    nomatch (entry?_blank h).2
  exact ⟨fun _ _ h => absurd h (hnone _ _), fun _ _ h => absurd h (hnone _ _),
    fun _ _ _ h => absurd h (hnone _ _)⟩

theorem Sound.of_entries {sp sp' : Space} (hs : sp.Sound)
    (hentry : ∀ bare e, sp'.entry? bare = some e → sp.entry? bare = some e)
    (hlength : sp.cells.length ≤ sp'.cells.length)
    (hsize : ∀ cell < sp.cells.length, (sp'.memory cell).size = (sp.memory cell).size) :
    sp'.Sound where
  made bare cell he := Nat.lt_of_lt_of_le (hs.made bare cell (hentry bare _ he)) hlength
  sized bare cell he := by
    have hold := hentry bare _ he
    rw [hsize cell (hs.made bare cell hold)]
    exact hs.sized bare cell hold
  single bare other cell he ho := hs.single bare other cell (hentry bare _ he) (hentry other _ ho)

theorem Sound.made_new {sp : Space} (hs : sp.Sound) (bare : String) {size : Nat} (hpos : 0 < size) :
    (sp.made bare size).Sound := by
  -- a name is the new one, with the new memory, or an old one
  have hcases {other : String} {cell : Nat}
      (he : entry? (sp.made bare size) other = some (.memory cell)) :
      other = bare ∧ cell = sp.cells.length ∨ sp.entry? other = some (.memory cell) := by
    by_cases ho : other = bare
    · subst ho
      rw [entry?_made_self, Option.some.injEq, Entry.memory.injEq] at he
      exact .inl ⟨rfl, he.symm⟩
    · rw [entry?_made_of_ne sp size ho] at he
      exact .inr he
  have hlength := sp.length_cells_made bare size
  refine ⟨fun other cell he => ?_, fun other cell he => ?_, fun one other cell he ho => ?_⟩
  · rcases hcases he with ⟨-, rfl⟩ | hold
    · omega
    · have := hs.made other cell hold
      omega
  · rcases hcases he with ⟨-, rfl⟩ | hold
    · rw [memory_made_self]
      exact hpos
    · rw [memory_made_of_lt sp bare size (hs.made other cell hold)]
      exact hs.sized other cell hold
  · rcases hcases he with ⟨rfl, rfl⟩ | hone <;> rcases hcases ho with ⟨rfl, hcell⟩ | hother
    · rfl
    · exact absurd (hs.made other _ hother) (Nat.lt_irrefl _)
    · exact absurd (hcell ▸ hs.made one cell hone) (Nat.lt_irrefl _)
    · exact hs.single one other cell hone hother

theorem entry?_of_unbind {sp : Space} {bare other : String} {e : Entry}
    (he : entry? (sp.unbind bare) other = some e) : sp.entry? other = some e := by
  by_cases hb : other = bare
  · subst hb
    rw [entry?_unbind_self] at he
    cases he
  · rwa [entry?_unbind_of_ne sp hb] at he

/-- A region is had if it is there and has a size. -/
theorem Sound.attach_ok_iff {sp : Space} (hs : sp.Sound) (given : String) :
    (∃ m, sp.attach given = .ok m) ↔
      ∃ bare size, bareName? given = some bare ∧ sp.size? bare = some size ∧ 0 < size := by
  constructor
  · rintro ⟨m, h⟩
    obtain ⟨bare, hb⟩ := bareName?_of_ok h
    obtain ⟨cell, he, -⟩ := attach_cases hb h
    exact ⟨bare, _, hb, size?_of_entry? he, hs.sized bare cell he⟩
  · rintro ⟨bare, size, hb, hsize, hpos⟩
    obtain ⟨cell, he, -⟩ := entry?_of_size? hpos hsize
    rw [attach_eq hb, he]
    exact ⟨_, rfl⟩

/-- All that one call does to a space. -/
inductive Altered (sp : Space) : Space → Prop
  | same : Altered sp sp
  | made (bare : String) (size : Nat) : sp.entry? bare = none → 0 < size →
      Altered sp (sp.made bare size)
  | freed (bare : String) : Altered sp (sp.unbind bare)
  | written (cell : Nat) (f : (Nat → UInt8) → Nat → UInt8) : Altered sp (sp.setBytes cell f)

namespace Altered

variable {sp sp' : Space} (h : sp.Altered sp')
include h

theorem length_le : sp.cells.length ≤ sp'.cells.length := by
  cases h with
  | same => exact Nat.le_refl _
  | made bare size =>
    rw [length_cells_made]
    exact Nat.le_succ _
  | freed bare => exact Nat.le_refl _
  | written cell f => exact Nat.le_of_eq (length_cells_setBytes sp f cell).symm

/-- Only new memory is given a name. -/
theorem entry_cases {bare : String} {e : Entry} (he : sp'.entry? bare = some e) :
    sp.entry? bare = some e ∨ sp.entry? bare = none ∧ e = .memory sp.cells.length := by
  cases h with
  | same => exact .inl he
  | made other size hn =>
    by_cases hb : bare = other
    · subst hb
      rw [entry?_made_self] at he
      exact .inr ⟨hn, (Option.some.inj he).symm⟩
    · rw [entry?_made_of_ne sp size hb] at he
      exact .inl he
  | freed other => exact .inl (entry?_of_unbind he)
  | written cell f => exact .inl he

/-- A name that stays in use stays what it is. -/
theorem entry_eq {bare : String} {e : Entry} (he : sp.entry? bare = some e)
    (hsome : sp'.entry? bare ≠ none) : sp'.entry? bare = some e := by
  obtain ⟨e', he'⟩ := Option.ne_none_iff_exists'.mp hsome
  rcases h.entry_cases he' with hsame | ⟨hn, -⟩
  · rw [he', ← hsame, he]
  · rw [he] at hn
    cases hn

theorem sound (hs : sp.Sound) : sp'.Sound := by
  cases h with
  | same => exact hs
  | made bare size _ hpos => exact hs.made_new bare hpos
  | freed bare =>
    exact hs.of_entries (fun _ _ he => entry?_of_unbind he) (Nat.le_refl _) fun _ _ => rfl
  | written cell f =>
    refine hs.of_entries (fun _ _ he => he) (Altered.written cell f).length_le fun other _ => ?_
    exact size_setBytes sp f cell other

end Altered

section history

variable {s : Nat → Space} (hs : ∀ i, (s i).Altered (s (i + 1)))

/-- The name is in use at all times from `i` to `k`. -/
def Lasts (s : Nat → Space) (bare : String) (i k : Nat) : Prop :=
  ∀ n ≤ k, i ≤ n → entry? (s n) bare ≠ none

include hs

theorem sound_of_sound (hsound : (s 0).Sound) (n : Nat) : (s n).Sound := by
  induction n with
  | zero => exact hsound
  | succ n ih => exact (hs n).sound ih

theorem length_mono {i k : Nat} (hik : i ≤ k) : (s i).cells.length ≤ (s k).cells.length := by
  induction hik with
  | refl => exact Nat.le_refl _
  | @step k _ ih => exact Nat.le_trans ih (hs k).length_le

theorem entry_of_lasts {bare : String} {e : Entry} {i k : Nat} (hik : i ≤ k)
    (he : entry? (s i) bare = some e) (hl : Lasts s bare i k) : entry? (s k) bare = some e := by
  induction hik with
  | refl => exact he
  | @step k hk ih =>
    have hbefore : Lasts s bare i k := fun n hnk hn => hl n (Nat.le_succ_of_le hnk) hn
    exact (hs k).entry_eq (ih hbefore) (hl (k + 1) (Nat.le_refl _) (Nat.le_succ_of_le hk))

/-- Memory is named by the name that it was made for, and no more once that has been freed. -/
theorem lasts_of_entry (hsound : (s 0).Sound) {bare other : String} {cell i k : Nat} (hik : i ≤ k)
    (he : entry? (s i) bare = some (.memory cell)) (ho : entry? (s k) other = some (.memory cell)) :
    bare = other ∧ Lasts s bare i k := by
  have hmade : cell < (s i).cells.length := (sound_of_sound hs hsound i).made bare cell he
  induction hik generalizing other with
  | refl =>
    refine ⟨(sound_of_sound hs hsound i).single other bare cell ho he, fun n hni hn => ?_⟩
    rw [Nat.le_antisymm hni hn, he]
    exact Option.some_ne_none _
  | @step k hk ih =>
    rcases (hs k).entry_cases ho with hold | ⟨-, hnew⟩
    · obtain ⟨rfl, hl⟩ := ih hold
      refine ⟨rfl, fun n hnk hn => ?_⟩
      rcases Nat.lt_or_eq_of_le hnk with hlt | rfl
      · exact hl n (Nat.le_of_lt_succ hlt) hn
      · rw [ho]
        exact Option.some_ne_none _
    · -- new memory is none that was there before
      have hle := length_mono hs hk
      rw [Entry.memory.injEq] at hnew
      omega

/-- Two views are of one memory if and only if they were made for one incarnation of a name. -/
theorem cell_eq_iff (hsound : (s 0).Sound) {bare other : String} {cell cell' i k : Nat}
    (hik : i ≤ k) (he : entry? (s i) bare = some (.memory cell))
    (ho : entry? (s k) other = some (.memory cell')) :
    cell = cell' ↔ bare = other ∧ Lasts s bare i k := by
  constructor
  · rintro rfl
    exact lasts_of_entry hs hsound hik he ho
  · rintro ⟨rfl, hl⟩
    have hk := entry_of_lasts hs hik he hl
    rw [ho, Option.some.injEq, Entry.memory.injEq] at hk
    exact hk.symm

end history
end Rota.Region.Space
