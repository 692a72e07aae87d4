import Rota.Proofs.Region.Cells
import Rota.Region.Layout
import Mathlib.Data.List.GetD

namespace Rota.Region

/-- How many numbers there are of `count` bytes. -/
def numbers : Nat → Nat
  | 0 => 1
  | count + 1 => 256 * numbers count

@[simp]
theorem length_bytesOf (count n : Nat) : (bytesOf count n).length = count := by
  induction count generalizing n with
  | zero => rfl
  | succ count ih => rw [bytesOf, List.length_cons, ih]

theorem numberOf_bytesOf {count n : Nat} (h : n < numbers count) :
    numberOf (bytesOf count n) = n := by
  induction count generalizing n with
  | zero =>
    have hone : n < 1 := h
    rw [bytesOf, numberOf]
    omega
  | succ count ih =>
    have hlt : n < 256 * numbers count := h
    have hrest : n / 256 < numbers count := Nat.div_lt_of_lt_mul hlt
    have hlow : (UInt8.ofNat n).toNat = n % 256 := UInt8.toNat_ofNat'
    rw [bytesOf, numberOf, ih hrest, hlow]
    omega

namespace Space

variable {sp : Space} {cell : Nat}

/-- Reads depend on nothing but the memory that they are made in. -/
theorem number_congr {sp' : Space} (h : sp'.memory cell = sp.memory cell) (start count : Nat) :
    sp'.number cell start count = sp.number cell start count := by
  unfold number byte
  rw [h]

@[simp]
theorem length_cells_setNumber (sp : Space) (cell start count n : Nat) :
    (sp.setNumber cell start count n).cells.length = sp.cells.length :=
  length_cells_setBytes sp _ cell

section writes

variable (hmade : cell < sp.cells.length)
include hmade

theorem byte_setNumber (start count n i : Nat) :
    (sp.setNumber cell start count n).byte cell i =
      overwrite start (bytesOf count n) (sp.memory cell).bytes i := by
  rw [byte, setNumber, memory_setBytes_self sp _ hmade]

theorem number_setNumber_self {start count n : Nat} (hn : n < numbers count) :
    (sp.setNumber cell start count n).number cell start count = n := by
  have hbytes : (List.range count).map (fun i => (sp.setNumber cell start count n).byte cell
      (start + i)) = bytesOf count n := by
    apply List.ext_getElem
    · rw [List.length_map, List.length_range, length_bytesOf]
    · intro i hi hi'
      rw [List.getElem_map, List.getElem_range, byte_setNumber hmade, overwrite,
        if_pos (Nat.le_add_right start i), Nat.add_sub_cancel_left, List.getD_eq_getElem _ _ hi']
  rw [number, hbytes, numberOf_bytesOf hn]

theorem number_setNumber_of_apart {start count n start' count' : Nat}
    (h : start' + count' ≤ start ∨ start + count ≤ start') :
    (sp.setNumber cell start count n).number cell start' count' = sp.number cell start' count' := by
  unfold number
  congr 1
  refine List.map_congr_left fun i hi => ?_
  have hi := List.mem_range.mp hi
  rw [byte_setNumber hmade, overwrite]
  split
  · have hbehind : (bytesOf count n).length ≤ start' + i - start := by
      rw [length_bytesOf]
      omega
    rw [List.getD_eq_default _ _ hbehind]
    rfl
  · rfl

end writes

/-- The head of the memory says that it has been laid out by `l`. -/
structure LaidOut (sp : Space) (cell : Nat) (l : Layout) : Prop where
  stage : sp.stage cell = .ready
  magic : sp.magicOf cell = magic
  version : sp.versionOf cell = l.version
  size : sp.layoutSizeOf cell = l.size

theorem LaidOut.congr {sp' : Space} {l : Layout} (h : sp.LaidOut cell l)
    (hm : sp'.memory cell = sp.memory cell) : sp'.LaidOut cell l where
  stage := by rw [← h.stage, Space.stage, Space.stage, number_congr hm]
  magic := by rw [← h.magic, magicOf, magicOf, number_congr hm]
  version := by rw [← h.version, versionOf, versionOf, number_congr hm]
  size := by rw [← h.size, layoutSizeOf, layoutSizeOf, number_congr hm]

theorem LaidOut.check {l : Layout} (h : sp.LaidOut cell l) (name : String) (size : Nat) :
    sp.check ⟨name, cell, size⟩ l = .ok () := by
  simp only [Space.check, h.stage, h.magic, h.version, h.size, ne_eq, not_true_eq_false, if_false]

theorem laidOut_layOut (hmade : cell < sp.cells.length) {l : Layout} (hl : l.size < UInt64.size) :
    (sp.layOut cell l).LaidOut cell l := by
  obtain ⟨a, ha⟩ : ∃ a, a = sp.setNumber cell 0 4 Region.magic.toNat := ⟨_, rfl⟩
  obtain ⟨b, hb⟩ : ∃ b, b = a.setNumber cell 4 4 l.version.toNat := ⟨_, rfl⟩
  obtain ⟨c, hc⟩ : ∃ c, c = b.setNumber cell 8 8 l.size := ⟨_, rfl⟩
  have hma : cell < a.cells.length := by rwa [ha, length_cells_setNumber]
  have hmb : cell < b.cells.length := by rwa [hb, length_cells_setNumber]
  have hmc : cell < c.cells.length := by rwa [hc, length_cells_setNumber]
  -- each word stays when those behind it are written
  have hmagic : a.number cell 0 4 = Region.magic.toNat := by
    rw [ha]
    exact number_setNumber_self hmade (UInt32.toNat_lt_size _)
  have hversion : b.number cell 4 4 = l.version.toNat := by
    rw [hb]
    exact number_setNumber_self hma (UInt32.toNat_lt_size _)
  have hsize : c.number cell 8 8 = l.size := by
    rw [hc]
    exact number_setNumber_self hmb hl
  rw [layOut, ← ha, ← hb, ← hc]
  refine ⟨?_, ?_, ?_, ?_⟩
  · have hstage : (c.setNumber cell 16 4 2).number cell 16 4 = 2 :=
      number_setNumber_self hmc (by decide)
    rw [stage, hstage]
    rfl
  · rw [magicOf, number_setNumber_of_apart hmc (.inl (by decide)), hc,
      number_setNumber_of_apart hmb (.inl (by decide)), hb,
      number_setNumber_of_apart hma (.inl (by decide)), hmagic, UInt32.ofNat_toNat]
  · rw [versionOf, number_setNumber_of_apart hmc (.inl (by decide)), hc,
      number_setNumber_of_apart hmb (.inl (by decide)), hversion, UInt32.ofNat_toNat]
  · rw [layoutSizeOf, number_setNumber_of_apart hmc (.inl (by decide)), hsize]

/-- Nobody has laid out memory that is all zero. -/
theorem stage_of_zero (h : (sp.memory cell).bytes = fun _ => 0) : sp.stage cell = .blank := by
  unfold stage number byte
  rw [h]
  rfl

theorem entry?_layOut (sp : Space) (cell : Nat) (l : Layout) (bare : String) :
    entry? (sp.layOut cell l) bare = sp.entry? bare := rfl

@[simp]
theorem length_cells_claim (sp : Space) (cell : Nat) :
    (sp.claim cell).cells.length = sp.cells.length :=
  length_cells_setNumber sp cell 16 4 1

theorem entry?_claim (sp : Space) (cell : Nat) (bare : String) :
    entry? (sp.claim cell) bare = sp.entry? bare := rfl

theorem memory_claim_of_ne (sp : Space) {cell other : Nat} (h : other ≠ cell) :
    (sp.claim cell).memory other = sp.memory other :=
  memory_setBytes_of_ne sp _ h

theorem size_claim (sp : Space) (cell other : Nat) :
    ((sp.claim cell).memory other).size = (sp.memory other).size :=
  size_setBytes sp _ cell other

@[simp]
theorem length_cells_layOut (sp : Space) (cell : Nat) (l : Layout) :
    (sp.layOut cell l).cells.length = sp.cells.length := by
  simp only [layOut, length_cells_setNumber]

theorem memory_layOut_of_ne (sp : Space) (l : Layout) {cell other : Nat} (h : other ≠ cell) :
    (sp.layOut cell l).memory other = sp.memory other := by
  simp only [layOut, setNumber, memory_setBytes_of_ne _ _ h]

theorem size_layOut (sp : Space) (cell : Nat) (l : Layout) (other : Nat) :
    ((sp.layOut cell l).memory other).size = (sp.memory other).size := by
  simp only [layOut, setNumber, size_setBytes]

/-- A name stands for memory that has been laid out by `l`. -/
structure Houses (sp : Space) (bare : String) (cell : Nat) (l : Layout) : Prop where
  bound : sp.entry? bare = some (.memory cell)
  made : cell < sp.cells.length
  size : (sp.memory cell).size = l.size
  laidOut : sp.LaidOut cell l

/-- Fills in nothing behind the head. -/
def unfilled : Initialiser := fun sp _ => (sp, none)

theorem houses_made (sp : Space) (bare : String) {l : Layout} (hle : l.size ≤ largestSize) :
    (((sp.made bare l.size).claim sp.cells.length).layOut sp.cells.length l).Houses bare
      sp.cells.length l where
  bound := by rw [entry?_layOut, entry?_claim, entry?_made_self]
  made := by
    rw [length_cells_layOut, length_cells_claim, length_cells_made]
    exact Nat.lt_succ_self _
  size := by rw [size_layOut, size_claim, memory_made_self]
  laidOut := by
    refine laidOut_layOut ?_ (Nat.lt_of_le_of_lt hle (by decide))
    rw [length_cells_claim, length_cells_made]
    exact Nat.lt_succ_self _

section create

variable {given bare : String} (hb : bareName? given = some bare) {l : Layout}
include hb

theorem createAs_of_absent (hn : sp.entry? bare = none) (hpos : 0 < l.size)
    (hle : l.size ≤ largestSize) :
    sp.createAs given l unfilled =
      (.ok (⟨given, sp.cells.length, l.size⟩, true),
        ((sp.made bare l.size).claim sp.cells.length).layOut sp.cells.length l) := by
  have hblank : (sp.made bare l.size).stage sp.cells.length = .blank :=
    stage_of_zero (by rw [memory_made_self])
  rw [createAs, create_of_absent hb hn hpos hle]
  dsimp only
  rw [if_pos hblank]
  rfl

/-- What is laid out is had as it is, without a look at the initialiser. -/
theorem Houses.createAs_self (h : sp.Houses bare cell l) (hpos : 0 < l.size)
    (initialise : Initialiser) :
    sp.createAs given l initialise = (.ok (⟨given, cell, l.size⟩, false), sp) := by
  have hcreate := create_of_memory hb h.bound (h.size ▸ hpos)
  rw [h.size] at hcreate
  have hready : sp.stage cell ≠ .blank := by
    rw [h.laidOut.stage]
    exact Stage.noConfusion
  rw [createAs, hcreate]
  dsimp only
  rw [if_neg hready, h.laidOut.check]
  rfl

theorem Houses.openAs_self (h : sp.Houses bare cell l) :
    sp.openAs given l = .ok ⟨given, cell, l.size⟩ := by
  rw [openAs, attach_eq hb, h.bound]
  change (if (sp.memory cell).size < l.size then _ else _ : Except Fault Mapping) = _
  rw [h.size, if_neg (Nat.lt_irrefl _), h.laidOut.check]
  rfl

end create

theorem Houses.claim {bare : String} {l : Layout} (h : sp.Houses bare cell l) {other : Nat}
    (hne : cell ≠ other) : (sp.claim other).Houses bare cell l where
  bound := h.bound
  made := by
    rw [length_cells_claim]
    exact h.made
  size := by rw [size_claim, h.size]
  laidOut := h.laidOut.congr (memory_claim_of_ne sp hne)

theorem Houses.layOut {bare : String} {l : Layout} (h : sp.Houses bare cell l) (wanted : Layout)
    {other : Nat} (hne : cell ≠ other) : (sp.layOut other wanted).Houses bare cell l where
  bound := h.bound
  made := by
    rw [length_cells_layOut]
    exact h.made
  size := by rw [size_layOut, h.size]
  laidOut := h.laidOut.congr (memory_layOut_of_ne sp wanted hne)

theorem Houses.made_of_ne {bare other : String} {l : Layout} (h : sp.Houses bare cell l) (size : Nat)
    (hne : bare ≠ other) : (sp.made other size).Houses bare cell l where
  bound := by rw [entry?_made_of_ne sp size hne, h.bound]
  made := by
    rw [length_cells_made]
    exact Nat.lt_succ_of_lt h.made
  size := by rw [memory_made_of_lt sp other size h.made, h.size]
  laidOut := h.laidOut.congr (memory_made_of_lt sp other size h.made)

/-- What is laid out stays as it is, whatever else is made, and is not laid out a second time. -/
theorem Houses.createAs {bare : String} {l : Layout} (h : sp.Houses bare cell l) (given : String)
    (wanted : Layout) :
    (sp.createAs given wanted unfilled).2.Houses bare cell l ∧
      ∀ m, (sp.createAs given wanted unfilled).1 = .ok (m, true) → m.cell ≠ cell := by
  rw [Space.createAs]
  cases hcreate : sp.create given wanted.size with
  | error f => exact ⟨h, fun m hm => nomatch hm⟩
  | ok r =>
    obtain ⟨m, sp'⟩ := r
    -- whatever `create` finds or makes, the memory is still there
    have hkept : sp'.Houses bare cell l := by
      obtain ⟨other, hb⟩ := bareName?_of_ok hcreate
      rcases create_cases hb hcreate with ⟨hn, -, -, -, rfl⟩ | ⟨_, -, -, -, -, rfl⟩
      · refine h.made_of_ne _ fun he => ?_
        have hbound := h.bound
        rw [he, hn] at hbound
        cases hbound
      · exact h
    dsimp only
    by_cases hblank : sp'.stage m.cell = .blank
    · have hne : cell ≠ m.cell := by
        rintro rfl
        rw [hkept.laidOut.stage] at hblank
        cases hblank
      rw [if_pos hblank]
      refine ⟨(hkept.claim hne).layOut wanted hne, fun m' hm => ?_⟩
      injection hm with hm
      injection hm with hm
      rw [← hm]
      exact hne.symm
    · rw [if_neg hblank]
      refine ⟨hkept, fun m' hm => ?_⟩
      cases hcheck : sp'.check m wanted with
      | error f =>
        rw [hcheck] at hm
        cases hm
      | ok u =>
        rw [hcheck] at hm
        cases hm

/-- A region is had by its name, made if there was none, and other names stand for what they did. -/
structure Opened (sp : Space) (given bare : String) (m : Mapping) (sp' : Space) : Prop where
  name : m.name = given
  proper : bareName? given = some bare
  bound : sp'.entry? bare = some (.memory m.cell)
  others : ∀ other, other ≠ bare → sp'.entry? other = sp.entry? other
  made : sp.entry? bare = none → m.cell = sp.cells.length
  found : sp.entry? bare ≠ none → sp.entry? bare = some (.memory m.cell)
  length_le : sp.cells.length ≤ sp'.cells.length

theorem create_opened {given : String} {size : Nat} {m : Mapping} {sp' : Space}
    (h : sp.create given size = .ok (m, sp')) :
    ∃ bare, sp.Opened given bare m sp' ∧ (sp.entry? bare = none → sp'.stage m.cell = .blank) := by
  obtain ⟨bare, hb⟩ := bareName?_of_ok h
  refine ⟨bare, ?_⟩
  rcases create_cases hb h with ⟨hn, -, -, rfl, rfl⟩ | ⟨cell, he, -, -, rfl, rfl⟩
  · refine ⟨⟨rfl, hb, sp.entry?_made_self bare size, ?_, fun _ => rfl, fun hs => absurd hn hs, ?_⟩, ?_⟩
    · intro other ho
      exact sp.entry?_made_of_ne size ho
    · rw [length_cells_made]
      exact Nat.le_succ _
    · intro _
      apply stage_of_zero
      rw [memory_made_self]
  · have hs : sp'.entry? bare ≠ none := by simp [he]
    exact ⟨⟨rfl, hb, he, fun _ _ => rfl, fun hn => absurd hn hs, fun _ => he, Nat.le_refl _⟩,
      fun hn => absurd hn hs⟩

theorem Opened.congr {given bare : String} {m : Mapping} {sp' sp'' : Space}
    (h : sp.Opened given bare m sp') (hn : sp''.names = sp'.names)
    (hl : sp''.cells.length = sp'.cells.length) : sp.Opened given bare m sp'' where
  name := h.name
  proper := h.proper
  bound := by
    unfold entry?
    rw [hn]
    exact h.bound
  others other ho := by
    unfold entry?
    rw [hn]
    exact h.others other ho
  made := h.made
  found := h.found
  length_le := hl ▸ h.length_le

theorem createAs_ok {given : String} {l : Layout} {m : Mapping} {fresh : Bool} {sp' : Space}
    (h : sp.createAs given l unfilled = (.ok (m, fresh), sp')) :
    ∃ bare, sp.Opened given bare m sp' ∧ (sp.entry? bare = none → fresh = true) := by
  rw [createAs] at h
  cases hcreate : sp.create given l.size with
  | error f =>
    rw [hcreate] at h
    cases h
  | ok r =>
    obtain ⟨m₁, sp₁⟩ := r
    obtain ⟨bare, hopened, hstage⟩ := create_opened hcreate
    rw [hcreate] at h
    dsimp only at h
    by_cases hblank : sp₁.stage m₁.cell = .blank
    · rw [if_pos hblank] at h
      cases h
      refine ⟨bare, hopened.congr rfl ?_, fun _ => rfl⟩
      rw [length_cells_layOut]
      exact length_cells_claim sp₁ m.cell
    · rw [if_neg hblank] at h
      cases hcheck : sp₁.check m₁ l with
      | error f =>
        rw [hcheck] at h
        cases h
      | ok u =>
        rw [hcheck] at h
        cases h
        exact ⟨bare, hopened, fun hn => absurd (hstage hn) hblank⟩

/-- A region that cannot be had is one that is there, and stays as it is. -/
theorem createAs_error {given : String} {l : Layout} {f : Fault} {sp' : Space}
    (h : sp.createAs given l unfilled = (.error f, sp')) : sp' = sp := by
  rw [createAs] at h
  cases hcreate : sp.create given l.size with
  | error f =>
    rw [hcreate] at h
    cases h
    rfl
  | ok r =>
    obtain ⟨m₁, sp₁⟩ := r
    rw [hcreate] at h
    dsimp only at h
    by_cases hblank : sp₁.stage m₁.cell = .blank
    · rw [if_pos hblank] at h
      cases h
    · rw [if_neg hblank] at h
      have hsp : sp' = sp₁ := (Prod.mk.inj h).2.symm
      rw [hsp]
      obtain ⟨bare, hb⟩ := bareName?_of_ok hcreate
      obtain ⟨bare', hopened, hstage⟩ := create_opened hcreate
      rcases create_cases hb hcreate with ⟨hn, -⟩ | ⟨_, -, -, -, -, rfl⟩
      · have hsame : bare' = bare := Option.some.inj (hopened.proper.symm.trans hb)
        exact absurd (hstage (hsame ▸ hn)) hblank
      · rfl

end Space
end Rota.Region
