import Rota.Region.Space
import Mathlib.Tactic.Common

namespace Rota.Region

/-- The name proper has no slash, and one before it makes no difference. -/
theorem bareName?_eq_some_iff {given bare : String} :
    bareName? given = some bare ↔ (given = bare ∨ given = "/" ++ bare) ∧ bare ≠ "" ∧
      bare.utf8ByteSize ≤ longestName ∧ '/' ∉ bare.toList ∧ '\x00' ∉ bare.toList := by
  constructor
  · intro h
    unfold bareName? at h
    dsimp only at h
    split_ifs at h with hvalid
    rw [← Option.some.inj h, String.toList_ofList]
    simp only [not_or, Nat.not_lt] at hvalid
    obtain ⟨hne, hsize, hslash, hnul⟩ := hvalid
    refine ⟨?_, fun hempty => ?_, hsize, hslash, hnul⟩
    · split
      · next cs hcs =>
        right
        rw [← String.toList_inj, hcs, String.toList_append]
        simp only [String.toList_ofList]
        rfl
      · exact .inl String.ofList_toList.symm
    · rw [← String.toList_inj, String.toList_ofList] at hempty
      rw [hempty] at hne
      exact hne rfl
  · rintro ⟨hgiven, hne, hsize, hslash, hnul⟩
    have hvalid : ¬(bare.toList.isEmpty ∨ longestName < (String.ofList bare.toList).utf8ByteSize ∨
        '/' ∈ bare.toList ∨ '\x00' ∈ bare.toList) := by
      rw [String.ofList_toList, List.isEmpty_iff, String.toList_eq_nil_iff]
      simp only [not_or, Nat.not_lt]
      exact ⟨hne, hsize, hslash, hnul⟩
    unfold bareName?
    rcases hgiven with rfl | rfl
    · split
      · next cs hcs =>
        rw [hcs] at hslash
        exact absurd List.mem_cons_self hslash
      · dsimp only
        rw [if_neg hvalid, String.ofList_toList]
    · have hslashed : ("/" ++ bare).toList = '/' :: bare.toList := String.toList_append
      rw [hslashed]
      simp only
      rw [if_neg hvalid, String.ofList_toList]

/-- What can be mapped, a file can be as large as. -/
theorem largestSize_le_largestFile : largestSize ≤ largestFile := by decide

namespace Space

variable (sp : Space)

@[simp]
theorem entry?_bind_self (bare : String) (e : Entry) : entry? (sp.bind bare e) bare = some e :=
  Register.get?_set_self sp.names bare e

theorem entry?_bind_of_ne {bare other : String} (e : Entry) (h : other ≠ bare) :
    entry? (sp.bind bare e) other = sp.entry? other :=
  Register.get?_set_of_ne sp.names e h

@[simp]
theorem entry?_unbind_self (bare : String) : entry? (sp.unbind bare) bare = none :=
  Register.get?_erase_self sp.names bare

theorem entry?_unbind_of_ne {bare other : String} (h : other ≠ bare) :
    entry? (sp.unbind bare) other = sp.entry? other :=
  Register.get?_erase_of_ne sp.names h

/-- The space once memory has been made for a name that was not in use. -/
def made (bare : String) (size : Nat) : Space :=
  { sp.bind bare (.memory sp.cells.length) with cells := sp.cells ++ [⟨size, fun _ => 0⟩] }

@[simp]
theorem entry?_made_self (bare : String) (size : Nat) :
    entry? (sp.made bare size) bare = some (.memory sp.cells.length) :=
  sp.entry?_bind_self bare _

theorem entry?_made_of_ne {bare other : String} (size : Nat) (h : other ≠ bare) :
    entry? (sp.made bare size) other = sp.entry? other :=
  sp.entry?_bind_of_ne _ h

@[simp]
theorem memory_made_self (bare : String) (size : Nat) :
    (sp.made bare size).memory sp.cells.length = ⟨size, fun _ => 0⟩ := by
  simp [memory, made]

theorem memory_made_of_lt (bare : String) (size : Nat) {cell : Nat} (h : cell < sp.cells.length) :
    (sp.made bare size).memory cell = sp.memory cell := by
  simp [memory, made, List.getElem?_append_left h]

theorem length_cells_made (bare : String) (size : Nat) :
    (sp.made bare size).cells.length = sp.cells.length + 1 := by
  rw [made, List.length_append, List.length_singleton]

variable (f : (Nat → UInt8) → Nat → UInt8)

@[simp]
theorem length_cells_setBytes (cell : Nat) :
    (sp.setBytes cell f).cells.length = sp.cells.length := by
  rw [setBytes, List.length_modify]

theorem memory_setBytes_of_ne {cell other : Nat} (h : other ≠ cell) :
    (sp.setBytes cell f).memory other = sp.memory other := by
  simp [memory, setBytes, h.symm]

theorem memory_setBytes_self {cell : Nat} (h : cell < sp.cells.length) :
    (sp.setBytes cell f).memory cell =
      { sp.memory cell with bytes := f (sp.memory cell).bytes } := by
  simp [memory, setBytes, h]

theorem size_setBytes (cell other : Nat) :
    ((sp.setBytes cell f).memory other).size = (sp.memory other).size := by
  by_cases h : other = cell
  · subst h
    by_cases hmade : other < sp.cells.length
    · rw [memory_setBytes_self sp f hmade]
    · simp [memory, setBytes, hmade]
  · rw [memory_setBytes_of_ne sp f h]

section calls

variable {sp} {given bare : String} (hb : bareName? given = some bare)
include hb

theorem bare_eq : Space.bare given = .ok bare := by rw [Space.bare, hb]

theorem create_eq (size : Nat) :
    sp.create given size =
      if size = 0 then .error (.allocation given .emptySize)
      else match sp.entry? bare with
        | none =>
          if largestFile < size then .error (.allocation given .tooLarge)
          else if largestSize < size then .error (.allocation given .unmappable)
          else .ok (⟨given, sp.cells.length, size⟩, sp.made bare size)
        | some .unsized => .error (.notReady given)
        | some .folder => .error (.allocation given (.unopenableAgain given))
        | some (.memory cell) =>
          if (sp.memory cell).size = size then .ok (⟨given, cell, size⟩, sp)
          else .error (.allocation given (.otherSize (sp.memory cell).size size)) := by
  rw [create, bare_eq hb]
  rfl

theorem create_of_absent (hn : sp.entry? bare = none) {size : Nat} (hpos : 0 < size)
    (hle : size ≤ largestSize) :
    sp.create given size = .ok (⟨given, sp.cells.length, size⟩, sp.made bare size) := by
  have hfile := Nat.le_trans hle largestSize_le_largestFile
  rw [create_eq hb, if_neg (by omega), hn]
  exact (if_neg (by omega)).trans (if_neg (by omega))

theorem create_of_memory {cell : Nat} (hn : sp.entry? bare = some (.memory cell))
    (hpos : 0 < (sp.memory cell).size) :
    sp.create given (sp.memory cell).size = .ok (⟨given, cell, (sp.memory cell).size⟩, sp) := by
  rw [create_eq hb, if_neg (by omega), hn]
  exact if_pos rfl

/-- A region is made where there was none, or is the one that was there. -/
theorem create_cases {size : Nat} {m : Mapping} {sp' : Space}
    (h : sp.create given size = .ok (m, sp')) :
    (sp.entry? bare = none ∧ 0 < size ∧ size ≤ largestSize ∧ m = ⟨given, sp.cells.length, size⟩ ∧
        sp' = sp.made bare size) ∨
      ∃ cell, sp.entry? bare = some (.memory cell) ∧ (sp.memory cell).size = size ∧ 0 < size ∧
        m = ⟨given, cell, size⟩ ∧ sp' = sp := by
  rw [create_eq hb] at h
  cases he : sp.entry? bare with
  | none =>
    rw [he] at h
    split_ifs at h with hsize hfile hlarge
    injection h with h
    injection h with hm hsp
    exact .inl ⟨rfl, Nat.pos_of_ne_zero hsize, Nat.le_of_not_lt hlarge, hm.symm, hsp.symm⟩
  | some e =>
    rw [he] at h
    cases e with
    | memory cell =>
      dsimp only at h
      split_ifs at h with hsize hfound
      injection h with h
      injection h with hm hsp
      exact .inr ⟨cell, rfl, hfound, Nat.pos_of_ne_zero hsize, hm.symm, hsp.symm⟩
    | unsized => split_ifs at h
    | folder => split_ifs at h

theorem attach_eq :
    sp.attach given = match sp.entry? bare with
      | none => .error (.notFound given)
      | some .unsized => .error (.notReady given)
      | some .folder => .error (.allocation given .unopenable)
      | some (.memory cell) => .ok ⟨given, cell, (sp.memory cell).size⟩ := by
  rw [attach, bare_eq hb]
  rfl

theorem attach_cases {m : Mapping} (h : sp.attach given = .ok m) :
    ∃ cell, sp.entry? bare = some (.memory cell) ∧ m = ⟨given, cell, (sp.memory cell).size⟩ := by
  rw [attach_eq hb] at h
  cases he : sp.entry? bare with
  | none =>
    rw [he] at h
    cases h
  | some e =>
    rw [he] at h
    cases e with
    | memory cell =>
      injection h with h
      exact ⟨cell, rfl, h.symm⟩
    | unsized => cases h
    | folder => cases h

theorem remove_eq :
    sp.remove given = match sp.entry? bare with
      | none => .error (.notFound given)
      | some .folder => .error (.remove given .isDirectory)
      | some _ => .ok (sp.unbind bare) := by
  rw [remove, bare_eq hb]
  rfl

theorem remove_cases {sp' : Space} (h : sp.remove given = .ok sp') : sp' = sp.unbind bare := by
  rw [remove_eq hb] at h
  cases he : sp.entry? bare with
  | none =>
    rw [he] at h
    cases h
  | some e =>
    rw [he] at h
    cases e with
    | memory cell => exact (Except.ok.inj h).symm
    | unsized => exact (Except.ok.inj h).symm
    | folder => cases h

end calls

/-- A call that is answered has been given a name. -/
theorem bareName?_of_ok {α : Type} {given : String} {f : String → Except Fault α} {a : α}
    (h : Space.bare given >>= f = .ok a) : ∃ bare, bareName? given = some bare := by
  cases hb : bareName? given with
  | some bare => exact ⟨bare, rfl⟩
  | none =>
    rw [Space.bare, hb] at h
    cases h

end Space
end Rota.Region
