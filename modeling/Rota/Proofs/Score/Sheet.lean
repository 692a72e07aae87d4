import Mathlib.Logic.Function.Iterate
import Rota.Proofs.Text.Cut
import Rota.Score.Sheet

namespace Rota.Score

namespace Entry

variable (e : Entry) (name : String)

theorem counts_rename : (e.rename name).wins = e.wins ∧ (e.rename name).games = e.games := by
  unfold rename
  exact ⟨rfl, rfl⟩

theorem rename_eq :
    e.rename name =
      let text := (Text.bytes (Text.cut nameBytes name)).toArray
      { e with length := .ofNat text.size, bytes := .ofFn fun i => text.getD i (e.bytes.get i) } := by
  rw [rename, Text.bytes_cut]
  rfl

theorem length_rename :
    (e.rename name).length.toNat = (Text.bytes (Text.cut nameBytes name)).length := by
  rw [rename_eq]
  exact Text.toNat_size_bytes_cut (by decide) name

/-- The bytes that are read for the name. -/
def held : List UInt8 := e.bytes.toList.take (min e.length.toNat nameBytes)

/-- The bytes that count as the name are those written last; what was there before is behind
them. -/
theorem held_rename : (e.rename name).held = Text.bytes (Text.cut nameBytes name) := by
  have hfits : (Text.bytes (Text.cut nameBytes name)).length ≤ nameBytes :=
    (Text.isCut_cut nameBytes name).fits
  rw [held, length_rename, Nat.min_eq_left hfits, rename_eq]
  exact Text.take_overwritten _ hfits

theorem name?_eq : e.name? = if e.held = [] then none else some (Text.ofBytes e.held) := by
  have hnil : e.held = [] ↔ min e.length.toNat nameBytes = 0 := by
    rw [held, List.take_eq_nil_iff, or_iff_left]
    exact List.ne_nil_of_length_pos (by rw [Vector.length_toList]; decide)
  exact if_congr hnil.symm rfl rfl

/-- What is read is the name written last, whatever was there before. -/
theorem name?_rename :
    (e.rename name).name? =
      if Text.cut nameBytes name = "" then none else some (Text.cut nameBytes name) := by
  rw [name?_eq, held_rename, Text.ofBytes_bytes]
  exact if_congr Text.bytes_eq_nil_iff rfl rfl

end Entry

namespace Standing

/-- The standing as a sheet shows it at a seat: the name is cut to its room, and a seat left without
one shows the placeholder. -/
def shown (s : Standing) (seat : Nat) : Standing :=
  let name := Text.cut nameBytes s.name
  ⟨if name = "" then placeholder seat else name, s.wins, s.games⟩

theorem placeholder_fits (seat : Fin mostSeats) :
    placeholder seat ≠ "" ∧ (Text.bytes (placeholder seat)).length ≤ nameBytes := by
  revert seat
  decide

/-- What a sheet shows it shows again in the same seat. -/
theorem shown_shown (s : Standing) (seat : Fin mostSeats) :
    (s.shown seat).shown seat = s.shown seat := by
  obtain ⟨hne, hfits⟩ := placeholder_fits seat
  have hcut : (Text.bytes (Text.cut nameBytes s.name)).length ≤ nameBytes :=
    (Text.isCut_cut nameBytes s.name).fits
  rw [shown, shown]
  dsimp only
  by_cases h : Text.cut nameBytes s.name = ""
  · rw [if_pos h, Text.cut_of_fits hfits, if_neg hne]
  · rw [if_neg h, Text.cut_of_fits hcut, if_neg h]

theorem shown_unnamed (seat : Fin mostSeats) : (unnamed seat).shown seat = unnamed seat :=
  shown_shown ⟨"", 0, 0⟩ seat

end Standing

theorem Entry.toStanding_fill (e : Entry) (s : Standing) (seat : Nat) :
    (e.fill s).toStanding seat = s.shown seat := by
  obtain ⟨hwins, hgames⟩ := counts_rename { e with wins := s.wins, games := s.games } s.name
  rw [fill, toStanding, hwins, hgames, name?_rename, Standing.shown, apply_ite (Option.getD · _)]
  rfl

namespace Sheet

variable (t : Sheet)

theorem length_toBoard : t.toBoard.players.length = mostSeats := by
  simp [toBoard]

theorem getElem_toBoard (i : Nat) (h : i < t.toBoard.players.length) (hi : i < mostSeats) :
    t.toBoard.players[i] = (t.entries.get ⟨i, hi⟩).toStanding i := by
  simp [toBoard, Vector.get]

variable (b : Board)

theorem get_load (i : Fin mostSeats) (h : i.val < b.players.length) :
    (t.load b).entries.get i = (t.entries.get i).fill b.players[i.val] := by
  have hget : b.players[i.val]? = some b.players[i.val] := List.getElem?_eq_getElem h
  have hentry : (t.load b).entries.get i = (t.load b).entries[i.val] := rfl
  rw [hentry]
  simp only [load, Vector.getElem_ofFn, hget]
  rfl

theorem get_load_of_le (i : Fin mostSeats) (h : b.players.length ≤ i.val) :
    (t.load b).entries.get i = t.entries.get i := by
  have hget : b.players[i.val]? = none := List.getElem?_eq_none h
  have hentry : (t.load b).entries.get i = (t.load b).entries[i.val] := rfl
  rw [hentry]
  simp only [load, Vector.getElem_ofFn, hget]
  rfl

theorem get_rename (seat : Nat) (name : String) (i : Fin mostSeats) :
    (t.rename seat name).entries.get i =
      if i.val = seat then (t.entries.get i).rename name else t.entries.get i :=
  Vector.getElem_ofFn i.isLt

theorem get_count (seats winner : Nat) (i : Fin mostSeats) :
    (t.count seats winner).entries.get i =
      if i.val < seats then (t.entries.get i).count (i.val = winner) else t.entries.get i :=
  Vector.getElem_ofFn i.isLt

end Sheet

namespace Board

/-- The board that a fresh sheet shows after it has taken over `b`. -/
def kept (b : Board) : Board := (({} : Sheet).load b).toBoard

/-- What a fresh sheet keeps of the board `b`. -/
structure Keeps (b b' : Board) : Prop where
  total : b'.totalGames = b.totalGames
  seats : b'.players.length = mostSeats
  held : ∀ (i : Nat) (h : i < b.players.length) (h' : i < b'.players.length),
    ∃ name, Text.IsCut nameBytes b.players[i].name name ∧
      b'.players[i] = ⟨if name = "" then s!"Player {i}" else name, b.players[i].wins,
        b.players[i].games⟩
  lacking : ∀ (i : Nat) (h' : i < b'.players.length), b.players.length ≤ i →
    b'.players[i] = ⟨s!"Player {i}", 0, 0⟩

variable (b : Board)

theorem length_kept : b.kept.players.length = mostSeats := Sheet.length_toBoard _

theorem getElem_kept_of_lt (i : Nat) (h : i < b.kept.players.length) (hb : i < b.players.length) :
    b.kept.players[i] = b.players[i].shown i := by
  have hi : i < mostSeats := by rwa [← b.length_kept]
  calc b.kept.players[i]
      = ((({} : Sheet).load b).entries.get ⟨i, hi⟩).toStanding i := Sheet.getElem_toBoard _ i h hi
    _ = b.players[i].shown i := by rw [Sheet.get_load _ _ _ hb, Entry.toStanding_fill]

theorem getElem_kept_of_le (i : Nat) (h : i < b.kept.players.length) (hb : b.players.length ≤ i) :
    b.kept.players[i] = Standing.unnamed i := by
  have hi : i < mostSeats := by rwa [← b.length_kept]
  have hentry : ({} : Sheet).entries.get ⟨i, hi⟩ = {} := Vector.getElem_replicate hi
  calc b.kept.players[i]
      = ((({} : Sheet).load b).entries.get ⟨i, hi⟩).toStanding i := Sheet.getElem_toBoard _ i h hi
    _ = Entry.toStanding i {} := by rw [Sheet.get_load_of_le _ _ _ hb, hentry]

theorem keeps_kept : b.Keeps b.kept where
  total := rfl
  seats := b.length_kept
  held i h h' := ⟨_, Text.isCut_cut _ _, b.getElem_kept_of_lt i h' h⟩
  lacking i h' h := b.getElem_kept_of_le i h' h

theorem shown_kept (i : Nat) (h : i < b.kept.players.length) :
    b.kept.players[i].shown i = b.kept.players[i] := by
  have hi : i < mostSeats := by rwa [← b.length_kept]
  rcases Nat.lt_or_ge i b.players.length with hheld | hlacking
  · rw [b.getElem_kept_of_lt i h hheld]
    exact b.players[i].shown_shown ⟨i, hi⟩
  · rw [b.getElem_kept_of_le i h hlacking]
    exact Standing.shown_unnamed ⟨i, hi⟩

/-- A board that a sheet has shown passes through every sheet unchanged. -/
theorem toBoard_load_kept (t : Sheet) : (t.load b.kept).toBoard = b.kept := by
  have hlength : (t.load b.kept).toBoard.players.length = b.kept.players.length := by
    rw [Sheet.length_toBoard, b.length_kept]
  have hplayers : (t.load b.kept).toBoard.players = b.kept.players := by
    apply List.ext_getElem hlength
    intro i h h'
    have hi : i < mostSeats := by rwa [← b.length_kept]
    rw [Sheet.getElem_toBoard _ i h hi, Sheet.get_load _ _ _ h', Entry.toStanding_fill]
    exact b.shown_kept i h'
  calc (t.load b.kept).toBoard
      = ⟨b.kept.totalGames, (t.load b.kept).toBoard.players⟩ := rfl
    _ = b.kept := by rw [hplayers]

theorem kept_settled :
    b.Keeps b.kept ∧ (∀ t : Sheet, (t.load b.kept).toBoard = b.kept) ∧
      ∀ n, Nat.iterate kept n b.kept = b.kept := by
  have hagain (t : Sheet) : (t.load b.kept).toBoard = b.kept := b.toBoard_load_kept t
  exact ⟨b.keeps_kept, hagain, Function.iterate_fixed (hagain {})⟩

end Board
end Rota.Score
