import Rota.Proofs.Region.Head
import Rota.World.Regions

namespace Rota.Region.Space

variable {sp : Space} {cell : Nat}

theorem number_congr_bytes {sp' : Space} {start count : Nat}
    (h : ∀ i < start + count, sp'.byte cell i = sp.byte cell i) :
    sp'.number cell start count = sp.number cell start count := by
  unfold number
  congr 1
  apply List.map_congr_left
  intro i hi
  have hi := List.mem_range.mp hi
  exact h (start + i) (by omega)

theorem byte_setNumber_of_apart (hmade : cell < sp.cells.length) {start count n i : Nat}
    (h : i < start ∨ start + count ≤ i) :
    (sp.setNumber cell start count n).byte cell i = sp.byte cell i := by
  rw [byte_setNumber hmade, overwrite]
  split_ifs with hi
  · have hbehind : (bytesOf count n).length ≤ i - start := by
      rw [length_bytesOf]
      omega
    exact List.getD_eq_default _ _ hbehind
  · rfl

theorem stage_setNumber (hmade : cell < sp.cells.length) {n : Nat} (hn : n < numbers 4) :
    (sp.setNumber cell 16 4 n).number cell 16 4 = n :=
  number_setNumber_self hmade hn

/-- The memory has the head and the size that it had, whatever has become of its contents. -/
structure SameHead (sp : Space) (cell : Nat) (sp' : Space) : Prop where
  names : sp'.names = sp.names
  length : sp'.cells.length = sp.cells.length
  size : (sp'.memory cell).size = (sp.memory cell).size
  head : ∀ i < headSize, sp'.byte cell i = sp.byte cell i

namespace SameHead

variable {sp' : Space} (h : sp.SameHead cell sp')
include h

theorem entry? (bare : String) : sp'.entry? bare = sp.entry? bare := by
  rw [Space.entry?, Space.entry?, h.names]

theorem number {start count : Nat} (hle : start + count ≤ headSize) :
    sp'.number cell start count = sp.number cell start count := by
  apply number_congr_bytes
  intro i hi
  exact h.head i (by omega)

theorem stage : sp'.stage cell = sp.stage cell := by
  have hnumber : sp'.number cell 16 4 = sp.number cell 16 4 := h.number (by decide)
  simp only [Space.stage, hnumber]

theorem laidOut {l : Layout} (hl : sp.LaidOut cell l) : sp'.LaidOut cell l := by
  have hmagic : sp'.number cell 0 4 = sp.number cell 0 4 := h.number (by decide)
  have hversion : sp'.number cell 4 4 = sp.number cell 4 4 := h.number (by decide)
  have hsize : sp'.number cell 8 8 = sp.number cell 8 8 := h.number (by decide)
  refine ⟨h.stage.trans hl.stage, ?_, ?_, ?_⟩
  · rw [← hl.magic, magicOf, magicOf, hmagic]
  · rw [← hl.version, versionOf, versionOf, hversion]
  · rw [← hl.size, layoutSizeOf, layoutSizeOf, hsize]

end SameHead

theorem sameHead_setBytes (sp : Space) {cell other : Nat} {f : (Nat → UInt8) → Nat → UInt8}
    (hf : other = cell → ∀ old, ∀ i < headSize, f old i = old i) :
    sp.SameHead cell (sp.setBytes other f) where
  names := rfl
  length := length_cells_setBytes sp f other
  size := size_setBytes sp f other cell
  head i hi := by
    rw [byte, byte]
    by_cases hcell : other = cell
    · have hhead := hf hcell
      subst hcell
      by_cases hmade : other < sp.cells.length
      · rw [memory_setBytes_self sp f hmade]
        exact hhead _ i hi
      · have hsame : sp.setBytes other f = sp := by
          simp [setBytes, List.modify_eq_self (Nat.le_of_not_lt hmade)]
        rw [hsame]
    · rw [memory_setBytes_of_ne sp f (Ne.symm hcell)]

theorem overwrite_of_lt {start : Nat} (bytes : List UInt8) (old : Nat → UInt8) {i : Nat}
    (h : i < start) : overwrite start bytes old i = old i :=
  if_neg (Nat.not_le_of_lt h)

theorem sameHead_write (sp : Space) {cell other start : Nat} (bytes : List UInt8)
    (h : other = cell → headSize ≤ start) :
    sp.SameHead cell ((sp.write? other start bytes).getD sp) := by
  rw [write?]
  split_ifs
  · apply sameHead_setBytes
    intro hcell old i hi
    exact overwrite_of_lt bytes old (Nat.lt_of_lt_of_le hi (h hcell))
  · exact ⟨rfl, rfl, rfl, fun _ _ => rfl⟩

/-- An initialiser that fills in contents leaves the head alone. -/
def Initialiser.Contained (initialise : Initialiser) : Prop :=
  ∀ sp cell, SameHead sp cell (initialise sp cell).1

theorem contained_storing (value : Option UInt32) (failName : Option String) :
    Initialiser.Contained (World.storing value failName) := by
  intro sp cell
  cases value with
  | none => exact ⟨rfl, rfl, rfl, fun _ _ => rfl⟩
  | some v =>
    apply sameHead_setBytes
    intro _ old i hi
    exact overwrite_of_lt _ old hi

/-- A head is looked at with success just if the memory is laid out as wanted. -/
theorem check_eq_ok_iff (m : Mapping) (l : Layout) :
    sp.check m l = .ok () ↔ sp.LaidOut m.cell l := by
  constructor
  · intro h
    unfold check at h
    split_ifs at h with hstage hmagic hversion hsize
    exact ⟨not_not.mp hstage, not_not.mp hmagic, not_not.mp hversion, not_not.mp hsize⟩
  · intro h
    exact h.check m.name m.size

theorem LaidOut.layout_eq {l l' : Layout} (h : sp.LaidOut cell l) (h' : sp.LaidOut cell l') :
    l' = l := by
  obtain ⟨version, size⟩ := l
  obtain ⟨version', size'⟩ := l'
  have hversion : version' = version := h'.version.symm.trans h.version
  have hsize : size' = size := h'.size.symm.trans h.size
  rw [hversion, hsize]

theorem LaidOut.check_of_ne {l other : Layout} {m : Mapping} (h : sp.LaidOut m.cell l)
    (hne : other ≠ l) : ∃ f, sp.check m other = .error f := by
  cases hcheck : sp.check m other with
  | error f => exact ⟨f, rfl⟩
  | ok u => exact absurd (h.layout_eq ((check_eq_ok_iff m other).mp hcheck)) hne

/-- A name stands for memory of that size. -/
structure Stands (sp : Space) (bare : String) (cell size : Nat) : Prop where
  bound : sp.entry? bare = some (.memory cell)
  made : cell < sp.cells.length
  size : (sp.memory cell).size = size

theorem Stands.sameHead {sp' : Space} {bare : String} {size : Nat} (h : sp.Stands bare cell size)
    (hs : sp.SameHead cell sp') : sp'.Stands bare cell size where
  bound := (hs.entry? bare).trans h.bound
  made := hs.length ▸ h.made
  size := hs.size.trans h.size

theorem Stands.setNumber {bare : String} {size : Nat} (h : sp.Stands bare cell size)
    (start count n : Nat) : (sp.setNumber cell start count n).Stands bare cell size where
  bound := h.bound
  made := (length_cells_setNumber sp cell start count n).symm ▸ h.made
  size := (size_setBytes sp _ cell cell).trans h.size

theorem Houses.stands {bare : String} {l : Layout} (h : sp.Houses bare cell l) :
    sp.Stands bare cell l.size :=
  ⟨h.bound, h.made, h.size⟩

section calls

variable {given bare : String} (hb : bareName? given = some bare) {size : Nat}
  (h : sp.Stands bare cell size)
include hb h

theorem Stands.create_ok (hpos : 0 < size) :
    sp.create given size = .ok (⟨given, cell, size⟩, sp) := by
  have hcreate := create_of_memory hb h.bound (h.size ▸ hpos)
  rwa [h.size] at hcreate

theorem Stands.create_error {wanted : Nat} (hne : wanted ≠ size) :
    ∃ f, sp.create given wanted = .error f := by
  have hfound : ¬ (sp.memory cell).size = wanted := by
    rw [h.size]
    exact Ne.symm hne
  rw [create_eq hb, h.bound]
  dsimp only
  rw [if_neg hfound]
  split_ifs
  · exact ⟨_, rfl⟩
  · exact ⟨_, rfl⟩

theorem Stands.createAs_error {l : Layout} (hne : l.size ≠ size) :
    ∃ f, ∀ initialise, sp.createAs given l initialise = (.error f, sp) := by
  obtain ⟨f, hf⟩ := h.create_error hb hne
  refine ⟨f, fun initialise => ?_⟩
  rw [createAs, hf]

theorem Stands.createAs_eq (hpos : 0 < size) {l : Layout} (hl : l.size = size)
    (initialise : Initialiser) :
    sp.createAs given l initialise =
      if sp.stage cell = .blank then
        match initialise (sp.claim cell) cell with
        | (sp, none) => (.ok (⟨given, cell, size⟩, true), sp.layOut cell l)
        | (sp, some f) => (.error f, sp.giveUp cell)
      else ((sp.check ⟨given, cell, size⟩ l).map fun _ => (⟨given, cell, size⟩, false), sp) := by
  rw [createAs, hl, h.create_ok hb hpos]
  rfl

theorem Stands.openAs_eq (l : Layout) :
    sp.openAs given l =
      if size < l.size then .error (.layout given (.tooSmall size l.size))
      else (sp.check ⟨given, cell, size⟩ l).map fun _ => ⟨given, cell, size⟩ := by
  rw [openAs, attach_eq hb, h.bound]
  change (if (sp.memory cell).size < l.size then _ else _ : Except Fault Mapping) = _
  rw [h.size]
  rfl

end calls

theorem stage_eq_blank_iff : sp.stage cell = .blank ↔ sp.number cell 16 4 = 0 := by
  unfold stage
  constructor
  · intro h
    split at h
    · assumption
    · cases h
    · cases h
    · cases h
  · intro h
    rw [h]
    rfl

/-- A name stands for memory that nobody has laid out. -/
structure Vacant (sp : Space) (bare : String) (cell size : Nat) : Prop
    extends sp.Stands bare cell size where
  stage : sp.stage cell = .blank

theorem vacant_made (sp : Space) (bare : String) (size : Nat) :
    (sp.made bare size).Vacant bare sp.cells.length size where
  bound := sp.entry?_made_self bare size
  made := by
    rw [length_cells_made]
    exact Nat.lt_succ_self _
  size := by rw [memory_made_self]
  stage := stage_of_zero (by rw [memory_made_self])

theorem Stands.giveUp {bare : String} {size : Nat} (h : sp.Stands bare cell size) :
    (sp.giveUp cell).Vacant bare cell size where
  toStands := h.setNumber 16 4 0
  stage := stage_eq_blank_iff.mpr (stage_setNumber h.made (by decide))

theorem Stands.layOut {bare : String} {l : Layout} (h : sp.Stands bare cell l.size)
    (hle : l.size ≤ largestSize) : (sp.layOut cell l).Houses bare cell l where
  bound := h.bound
  made := (length_cells_layOut sp cell l).symm ▸ h.made
  size := (size_layOut sp cell l cell).trans h.size
  laidOut := laidOut_layOut h.made (Nat.lt_of_le_of_lt hle (by decide))

section blank

variable {bare given : String} {size : Nat} (hb : bareName? given = some bare)
  (h : sp.Vacant bare cell size) {l : Layout}
include hb h

theorem Vacant.openAs_of_le (hle : l.size ≤ size) :
    sp.openAs given l = .error (.notReady given) := by
  have hstage : sp.stage cell ≠ .ready := by
    rw [h.stage]
    exact Stage.noConfusion
  have hcheck : sp.check ⟨given, cell, size⟩ l = .error (.notReady given) := if_pos hstage
  rw [h.openAs_eq hb, if_neg (Nat.not_lt_of_le hle), hcheck]
  rfl

theorem Vacant.openAs_error : ∃ f, sp.openAs given l = .error f := by
  by_cases hle : l.size ≤ size
  · exact ⟨_, h.openAs_of_le hb hle⟩
  · rw [h.openAs_eq hb, if_pos (Nat.lt_of_not_le hle)]
    exact ⟨_, rfl⟩

variable (hpos : 0 < size) (hl : l.size = size) {initialise : Initialiser} {filled : Space}
include hpos hl

theorem Vacant.createAs_of_fault {f : Fault}
    (hi : initialise (sp.claim cell) cell = (filled, some f)) :
    sp.createAs given l initialise = (.error f, filled.giveUp cell) := by
  rw [h.createAs_eq hb hpos hl, if_pos h.stage, hi]

theorem Vacant.createAs_of_done (hi : initialise (sp.claim cell) cell = (filled, none)) :
    sp.createAs given l initialise = (.ok (⟨given, cell, size⟩, true), filled.layOut cell l) := by
  rw [h.createAs_eq hb hpos hl, if_pos h.stage, hi]

end blank

/-- What an initialiser leaves behind stands where the memory stood. -/
theorem Vacant.filled {bare : String} {size : Nat} (h : sp.Vacant bare cell size)
    {initialise : Initialiser} (hi : initialise.Contained) :
    (initialise (sp.claim cell) cell).1.Stands bare cell size :=
  (h.setNumber 16 4 1).sameHead (hi _ _)

section ready

variable {bare given : String} (hb : bareName? given = some bare) {l other : Layout}
  (h : sp.Houses bare cell l)
include hb h

theorem Houses.createAs_of_ne (hpos : 0 < l.size) (hne : other ≠ l) :
    ∃ f, ∀ initialise, sp.createAs given other initialise = (.error f, sp) := by
  by_cases hsize : other.size = l.size
  · have hready : sp.stage cell ≠ .blank := by
      rw [h.laidOut.stage]
      exact Stage.noConfusion
    obtain ⟨f, hf⟩ := LaidOut.check_of_ne (m := ⟨given, cell, l.size⟩) h.laidOut hne
    refine ⟨f, fun initialise => ?_⟩
    rw [h.stands.createAs_eq hb hpos hsize, if_neg hready, hf]
    rfl
  · exact h.stands.createAs_error hb hsize

theorem Houses.openAs_of_ne (hne : other ≠ l) : ∃ f, sp.openAs given other = .error f := by
  rw [h.stands.openAs_eq hb]
  split_ifs
  · exact ⟨_, rfl⟩
  · obtain ⟨f, hf⟩ := LaidOut.check_of_ne (m := ⟨given, cell, l.size⟩) h.laidOut hne
    rw [hf]
    exact ⟨f, rfl⟩

end ready

/-- What is done with a region: somebody maps it with a layout, or writes through a mapping. -/
inductive Use
  | create (given : String) (l : Layout) (initialise : Initialiser)
  | openAs (given : String) (l : Layout)
  | write (m : Mapping) (start : Nat) (bytes : List UInt8)

def used (sp : Space) : Use → Space
  | .create given l initialise => (sp.createAs given l initialise).2
  | .openAs _ _ => sp
  | .write m start bytes => (sp.write? m.cell start bytes).getD sp

/-- The layout that a use of a region has created it with, if the use is that and is answered. -/
def createdAs? (sp : Space) : Use → Option Layout
  | .create given l initialise =>
    match (sp.createAs given l initialise).1 with
    | .ok _ => some l
    | .error _ => none
  | .openAs _ _ => none
  | .write _ _ _ => none

/-- The use is of the region of that name, and leaves the head of its memory alone. -/
def Use.Proper (bare : String) (cell : Nat) : Use → Prop
  | .create given _ initialise => bareName? given = some bare ∧ initialise.Contained
  | .openAs given _ => bareName? given = some bare
  | .write m start _ => m.cell = cell → headSize ≤ start

theorem Houses.sameHead {sp' : Space} {bare : String} {l : Layout} (h : sp.Houses bare cell l)
    (hs : sp.SameHead cell sp') : sp'.Houses bare cell l := by
  have hstands := h.stands.sameHead hs
  exact ⟨hstands.bound, hstands.made, hstands.size, hs.laidOut h.laidOut⟩

theorem Vacant.sameHead {sp' : Space} {bare : String} {size : Nat} (h : sp.Vacant bare cell size)
    (hs : sp.SameHead cell sp') : sp'.Vacant bare cell size :=
  ⟨h.toStands.sameHead hs, hs.stage.trans h.stage⟩

/-- Memory that is laid out stays so, and nobody lays it out otherwise. -/
theorem Houses.used {bare : String} {l : Layout} {u : Use} (hu : u.Proper bare cell)
    (h : sp.Houses bare cell l) (hpos : 0 < l.size) :
    (sp.used u).Houses bare cell l ∧ ∀ other, sp.createdAs? u = some other → other = l := by
  cases u with
  | create given wanted initialise =>
    obtain ⟨hb, -⟩ := hu
    by_cases hsame : wanted = l
    · subst hsame
      have hagain := h.createAs_self hb hpos initialise
      simp only [Space.used, createdAs?, hagain]
      refine ⟨h, ?_⟩
      intro other hother
      exact (Option.some.inj hother).symm
    · obtain ⟨f, hf⟩ := h.createAs_of_ne hb hpos hsame
      simp only [Space.used, createdAs?, hf]
      exact ⟨h, nofun⟩
  | openAs given wanted => exact ⟨h, nofun⟩
  | write m start bytes => exact ⟨h.sameHead (sameHead_write sp bytes hu), nofun⟩

/-- Memory is vacant until a create is answered, and then laid out by the layout of that. -/
theorem Vacant.used {bare : String} {size : Nat} {u : Use} (hu : u.Proper bare cell)
    (h : sp.Vacant bare cell size) (hpos : 0 < size) (hle : size ≤ largestSize) :
    sp.createdAs? u = none ∧ (sp.used u).Vacant bare cell size ∨
      ∃ l, sp.createdAs? u = some l ∧ l.size = size ∧ (sp.used u).Houses bare cell l := by
  cases u with
  | create given l initialise =>
    obtain ⟨hb, hcontained⟩ := hu
    by_cases hl : l.size = size
    · have hfilled := h.filled hcontained
      rcases hi : initialise (sp.claim cell) cell with ⟨filled, _ | f⟩
      · have hdone := h.createAs_of_done hb hpos hl hi
        rw [hi] at hfilled
        subst hl
        refine .inr ⟨l, ?_, rfl, ?_⟩
        · simp only [createdAs?, hdone]
        · simp only [Space.used, hdone]
          exact hfilled.layOut hle
      · have hfault := h.createAs_of_fault hb hpos hl hi
        rw [hi] at hfilled
        simp only [createdAs?, Space.used, hfault]
        exact .inl ⟨trivial, hfilled.giveUp⟩
    · obtain ⟨f, hf⟩ := h.createAs_error hb hl
      simp only [createdAs?, Space.used, hf]
      exact .inl ⟨trivial, h⟩
  | openAs given l => exact .inl ⟨rfl, h⟩
  | write m start bytes => exact .inl ⟨rfl, h.sameHead (sameHead_write sp bytes hu)⟩

/-- The space after the first `n` uses of a region. -/
def afterUses (sp : Space) (uses : List Use) (n : Nat) : Space := (uses.take n).foldl used sp

/-- The layout that use `k` of a region has created it with. -/
def laidAt? (sp : Space) (uses : List Use) (k : Nat) : Option Layout :=
  uses[k]?.bind (sp.afterUses uses k).createdAs?

section history

variable {uses : List Use} {bare : String} {size : Nat}

theorem afterUses_succ {n : Nat} {u : Use} (hn : uses[n]? = some u) :
    sp.afterUses uses (n + 1) = (sp.afterUses uses n).used u := by
  rw [afterUses, List.take_add_one, hn, Option.toList_some, List.foldl_append]
  rfl

theorem afterUses_succ_of_none {n : Nat} (hn : uses[n]? = none) :
    sp.afterUses uses (n + 1) = sp.afterUses uses n := by
  rw [afterUses, List.take_add_one, hn, Option.toList_none, List.append_nil]
  rfl

variable (hu : ∀ u ∈ uses, u.Proper bare cell) {n : Nat}
include hu

theorem Houses.next {l : Layout} (h : (sp.afterUses uses n).Houses bare cell l)
    (hpos : 0 < l.size) :
    (sp.afterUses uses (n + 1)).Houses bare cell l ∧
      ∀ other, sp.laidAt? uses n = some other → other = l := by
  cases hn : uses[n]? with
  | none =>
    rw [afterUses_succ_of_none hn, laidAt?, hn]
    exact ⟨h, nofun⟩
  | some u =>
    rw [afterUses_succ hn, laidAt?, hn]
    exact h.used (hu u (List.mem_of_getElem? hn)) hpos

theorem Vacant.next (h : (sp.afterUses uses n).Vacant bare cell size) (hpos : 0 < size)
    (hle : size ≤ largestSize) :
    sp.laidAt? uses n = none ∧ (sp.afterUses uses (n + 1)).Vacant bare cell size ∨
      ∃ l, sp.laidAt? uses n = some l ∧ l.size = size ∧
        (sp.afterUses uses (n + 1)).Houses bare cell l := by
  cases hn : uses[n]? with
  | none =>
    rw [afterUses_succ_of_none hn, laidAt?, hn]
    exact .inl ⟨rfl, h⟩
  | some u =>
    rw [afterUses_succ hn, laidAt?, hn]
    exact h.used (hu u (List.mem_of_getElem? hn)) hpos hle

/-- At any time the memory is vacant and no create has been answered, or it is laid out by the one
layout that creates have been answered with. -/
theorem Vacant.afterUses (h : sp.Vacant bare cell size) (hpos : 0 < size) (hle : size ≤ largestSize)
    (n : Nat) :
    (sp.afterUses uses n).Vacant bare cell size ∧ (∀ k < n, sp.laidAt? uses k = none) ∨
      ∃ l, l.size = size ∧ (sp.afterUses uses n).Houses bare cell l ∧
        (∃ k < n, sp.laidAt? uses k = some l) ∧
        ∀ k < n, ∀ other, sp.laidAt? uses k = some other → other = l := by
  induction n with
  | zero => exact .inl ⟨h, fun k hk => absurd hk (Nat.not_lt_zero k)⟩
  | succ n ih =>
    simp only [Nat.forall_lt_succ_right]
    rcases ih with ⟨hvacant, hbefore⟩ | ⟨l, hl, hhouses, ⟨k, hk, hlaid⟩, honly⟩
    · rcases hvacant.next hu hpos hle with ⟨hnone, hstill⟩ | ⟨l, hsome, hl, hhouses⟩
      · exact .inl ⟨hstill, hbefore, hnone⟩
      · refine .inr ⟨l, hl, hhouses, ⟨n, Nat.lt_succ_self n, hsome⟩, ?_, ?_⟩
        · intro k hk other hother
          rw [hbefore k hk] at hother
          cases hother
        · intro other hother
          rw [hsome] at hother
          exact (Option.some.inj hother).symm
    · obtain ⟨hstill, hsame⟩ := hhouses.next hu (hl ▸ hpos)
      exact .inr ⟨l, hl, hstill, ⟨k, Nat.lt_succ_of_lt hk, hlaid⟩, honly, hsame⟩

end history

/-- What becomes of memory that nobody has laid out when it is to be mapped with a layout. -/
structure VacantLaws (sp : Space) (bare : String) (cell size : Nat) : Prop where
  state : sp.number cell 16 4 = 0
  opens : ∀ given l, bareName? given = some bare → l.size ≤ size →
    sp.openAs given l = .error (.notReady given)
  /-- A layout of another size finds no room here, or too much. -/
  misfits : ∀ given l, bareName? given = some bare → l.size ≠ size →
    ∃ f, ∀ initialise, sp.createAs given l initialise = (.error f, sp)
  creates : ∀ given l initialise filled, bareName? given = some bare → l.size = size →
    initialise (sp.claim cell) cell = (filled, none) →
    sp.createAs given l initialise = (.ok (⟨given, cell, size⟩, true), filled.layOut cell l)
  /-- An initialiser that fails leaves what it has stored, and the head as if nobody had come. -/
  fails : ∀ given l initialise filled f, bareName? given = some bare → initialise.Contained →
    l.size = size → initialise (sp.claim cell) cell = (filled, some f) →
    sp.createAs given l initialise = (.error f, filled.giveUp cell) ∧
      (filled.giveUp cell).number cell 16 4 = 0 ∧
      ∀ i, i < 16 ∨ 20 ≤ i → (filled.giveUp cell).byte cell i = filled.byte cell i

/-- What becomes of memory that is laid out by `l` when it is to be mapped with a layout: nothing,
and no initialiser makes a difference. -/
structure LaidLaws (sp : Space) (bare : String) (cell : Nat) (l : Layout) : Prop where
  creates : ∀ given initialise, bareName? given = some bare →
    sp.createAs given l initialise = (.ok (⟨given, cell, l.size⟩, false), sp)
  opens : ∀ given, bareName? given = some bare → sp.openAs given l = .ok ⟨given, cell, l.size⟩
  createsOther : ∀ given other, bareName? given = some bare → other ≠ l →
    ∃ f, ∀ initialise, sp.createAs given other initialise = (.error f, sp)
  opensOther : ∀ given other, bareName? given = some bare → other ≠ l →
    ∃ f, sp.openAs given other = .error f

/-- The mapping is of memory that is laid out by `l`, with room for it. -/
structure Fits (sp : Space) (m : Mapping) (l : Layout) : Prop where
  laidOut : sp.LaidOut m.cell l
  size : m.size = (sp.memory m.cell).size
  room : l.size ≤ m.size

/-- Whatever is had with a layout is laid out by it. -/
structure FitLaws (sp : Space) (bare : String) : Prop where
  created : ∀ given l initialise m fresh sp', bareName? given = some bare → initialise.Contained →
    sp.createAs given l initialise = (.ok (m, fresh), sp') → sp'.Fits m l
  opened : ∀ given l m, bareName? given = some bare → sp.openAs given l = .ok m → sp.Fits m l

theorem Vacant.laws {bare : String} {size : Nat} (h : sp.Vacant bare cell size) (hpos : 0 < size) :
    VacantLaws sp bare cell size where
  state := stage_eq_blank_iff.mp h.stage
  opens given l hb hle := h.openAs_of_le hb hle
  misfits given l hb hl := h.createAs_error hb hl
  creates given l initialise filled hb hl hi := h.createAs_of_done hb hpos hl hi
  fails given l initialise filled f hb hcontained hl hi := by
    have hstands := h.filled hcontained
    rw [hi] at hstands
    refine ⟨h.createAs_of_fault hb hpos hl hi, stage_eq_blank_iff.mp hstands.giveUp.stage, ?_⟩
    intro i hi
    exact byte_setNumber_of_apart hstands.made hi

theorem Houses.laws {bare : String} {l : Layout} (h : sp.Houses bare cell l) (hpos : 0 < l.size) :
    LaidLaws sp bare cell l where
  creates _ initialise hb := h.createAs_self hb hpos initialise
  opens _ hb := h.openAs_self hb
  createsOther _ _ hb hne := h.createAs_of_ne hb hpos hne
  opensOther _ _ hb hne := h.openAs_of_ne hb hne

theorem Houses.fits {bare : String} {l : Layout} (h : sp.Houses bare cell l) (given : String) :
    sp.Fits ⟨given, cell, l.size⟩ l :=
  ⟨h.laidOut, h.size.symm, Nat.le_refl _⟩

theorem Vacant.fitLaws {bare : String} {size : Nat} (h : sp.Vacant bare cell size) (hpos : 0 < size)
    (hle : size ≤ largestSize) : FitLaws sp bare where
  created given l initialise m fresh sp' hb hcontained hc := by
    by_cases hl : l.size = size
    · have hfilled := h.filled hcontained
      rcases hi : initialise (sp.claim cell) cell with ⟨filled, _ | f⟩
      · rw [h.createAs_of_done hb hpos hl hi] at hc
        rw [hi] at hfilled
        subst hl
        cases hc
        exact (hfilled.layOut hle).fits given
      · rw [h.createAs_of_fault hb hpos hl hi] at hc
        cases hc
    · obtain ⟨f, hf⟩ := h.createAs_error hb hl
      rw [hf initialise] at hc
      cases hc
  opened given l m hb ho := by
    obtain ⟨f, hf⟩ := h.openAs_error hb (l := l)
    rw [hf] at ho
    cases ho

theorem Houses.fitLaws {bare : String} {l : Layout} (h : sp.Houses bare cell l)
    (hpos : 0 < l.size) : FitLaws sp bare where
  created given other initialise m fresh sp' hb hcontained hc := by
    by_cases hsame : other = l
    · subst hsame
      rw [h.createAs_self hb hpos] at hc
      cases hc
      exact h.fits given
    · obtain ⟨f, hf⟩ := h.createAs_of_ne hb hpos hsame
      rw [hf initialise] at hc
      cases hc
  opened given other m hb ho := by
    by_cases hsame : other = l
    · subst hsame
      rw [h.openAs_self hb] at ho
      cases ho
      exact h.fits given
    · obtain ⟨f, hf⟩ := h.openAs_of_ne hb hsame
      rw [hf] at ho
      cases ho

/-- To create a region that is not there is to make it and then to create it. -/
theorem createAs_of_made {bare given : String} (hb : bareName? given = some bare)
    (hn : sp.entry? bare = none) {l : Layout} (hpos : 0 < l.size) (hle : l.size ≤ largestSize)
    (initialise : Initialiser) :
    sp.createAs given l initialise = (sp.made bare l.size).createAs given l initialise := by
  have hmade := (vacant_made sp bare l.size).create_ok hb hpos
  rw [createAs, createAs, create_of_absent hb hn hpos hle, hmade]

/-- A region is laid out once: until a create is answered it is there for everyone who comes, and
from then on it is what it is. -/
theorem laidOut_once (sp : Space) {bare : String} {size : Nat} (hpos : 0 < size)
    (hle : size ≤ largestSize) {uses : List Use} (hu : ∀ u ∈ uses, u.Proper bare sp.cells.length)
    (n : Nat) :
    (sp.entry? bare = none → ∀ given l initialise, bareName? given = some bare → l.size = size →
      sp.createAs given l initialise = (sp.made bare size).createAs given l initialise) ∧
    ((∀ k < n, (sp.made bare size).laidAt? uses k = none) →
      VacantLaws ((sp.made bare size).afterUses uses n) bare sp.cells.length size) ∧
    (∀ k < n, ∀ l, (sp.made bare size).laidAt? uses k = some l →
      LaidLaws ((sp.made bare size).afterUses uses n) bare sp.cells.length l) ∧
    FitLaws ((sp.made bare size).afterUses uses n) bare := by
  have hstart := vacant_made sp bare size
  refine ⟨?_, ?_⟩
  · intro hn given l initialise hb hl
    subst hl
    exact createAs_of_made hb hn hpos hle initialise
  · rcases hstart.afterUses hu hpos hle n with
      ⟨hvacant, hno⟩ | ⟨l, hl, hhouses, ⟨k, hk, hat⟩, honly⟩
    · refine ⟨fun _ => hvacant.laws hpos, ?_, hvacant.fitLaws hpos hle⟩
      intro k hk l hat
      rw [hno k hk] at hat
      cases hat
    · have hpos' : 0 < l.size := hl ▸ hpos
      refine ⟨?_, ?_, hhouses.fitLaws hpos'⟩
      · intro hno
        rw [hno k hk] at hat
        cases hat
      · intro j hj other hother
        rw [honly j hj other hother]
        exact hhouses.laws hpos'

theorem laidOut_once_of_fault :
    ∃ (sp : Space) (uses : List Use), sp = made {} "r" 32 ∧
      uses = [.create "/r" ⟨1, 32⟩ (World.storing (some 7) (some "forced")), .openAs "r" ⟨1, 32⟩,
        .create "r" ⟨2, 32⟩ (World.storing none none), .write ⟨"r", 0, 32⟩ 28 [9]] ∧
      0 < 32 ∧ 32 ≤ largestSize ∧ (∀ u ∈ uses, u.Proper "r" 0) ∧
      (sp.afterUses uses 1).openAs "r" ⟨1, 32⟩ = .error (.notReady "r") ∧
      (sp.afterUses uses 4).openAs "/r" ⟨2, 32⟩ = .ok ⟨"/r", 0, 32⟩ ∧
      (∃ f, ∀ initialise, (sp.afterUses uses 4).createAs "r" ⟨1, 32⟩ initialise =
        (.error f, sp.afterUses uses 4)) ∧
      (sp.afterUses uses 4).value 0 = 7 := by
  obtain ⟨sp, hsp⟩ : ∃ sp : Space, sp = made {} "r" 32 := ⟨_, rfl⟩
  obtain ⟨uses, huses⟩ : ∃ uses : List Use, uses =
      [.create "/r" ⟨1, 32⟩ (World.storing (some 7) (some "forced")), .openAs "r" ⟨1, 32⟩,
        .create "r" ⟨2, 32⟩ (World.storing none none), .write ⟨"r", 0, 32⟩ 28 [9]] := ⟨_, rfl⟩
  have hbare : bareName? "r" = some "r" := by decide +kernel
  have hslashed : bareName? "/r" = some "r" := by decide +kernel
  have hpos : 0 < 32 := by decide
  have hle : 32 ≤ largestSize := by decide
  have hu : ∀ u ∈ uses, u.Proper "r" 0 := by
    rw [huses]
    simp [Use.Proper, hbare, hslashed, contained_storing, headSize]
  have hfirst : ∀ k < 1, sp.laidAt? uses k = none := by
    rw [hsp, huses]
    decide +kernel
  have hthird : sp.laidAt? uses 2 = some ⟨2, 32⟩ := by
    rw [hsp, huses]
    decide +kernel
  have hvalue : (sp.afterUses uses 4).value 0 = 7 := by
    rw [hsp, huses]
    decide +kernel
  obtain ⟨-, hvacant, -, -⟩ := laidOut_once {} hpos hle hu 1
  obtain ⟨-, -, hlaid, -⟩ := laidOut_once {} hpos hle hu 4
  rw [← hsp] at hvacant hlaid
  have hfour := hlaid 2 (by decide) _ hthird
  exact ⟨sp, uses, hsp, huses, hpos, hle, hu, (hvacant hfirst).opens "r" _ hbare (by decide),
    hfour.opens "/r" hslashed, hfour.createsOther "r" _ hbare (by decide), hvalue⟩

end Rota.Region.Space
