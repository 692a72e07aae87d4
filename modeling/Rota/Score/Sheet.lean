import Rota.Score.Board
import Rota.Text.Cut

namespace Rota.Score

def nameBytes : Nat := 32

structure Entry where
  wins : UInt32 := 0
  games : UInt32 := 0
  /-- How many of the bytes are the name; a seat without a name has none. -/
  length : UInt32 := 0
  bytes : Vector UInt8 nameBytes := Vector.replicate nameBytes 0
  deriving DecidableEq

namespace Entry

/-- Writes a name over the one before it, whose bytes behind a shorter name stay. -/
def rename (e : Entry) (name : String) : Entry :=
  let whole := Text.bytes name
  let text := (whole.take (Text.lastBoundary whole (min whole.length nameBytes))).toArray
  { e with length := .ofNat text.size, bytes := .ofFn fun i => text.getD i e.bytes[i] }

def name? (e : Entry) : Option String :=
  let length := min e.length.toNat nameBytes
  if length = 0 then none else some (Text.ofBytes (e.bytes.toList.take length))

/-- Counts one game; counts go round at their end. -/
def count (e : Entry) (won : Bool) : Entry :=
  { e with games := e.games + 1, wins := if won then e.wins + 1 else e.wins }

def fill (e : Entry) (s : Standing) : Entry :=
  { e with wins := s.wins, games := s.games }.rename s.name

def toStanding (seat : Nat) (e : Entry) : Standing :=
  ⟨e.name?.getD (Standing.placeholder seat), e.wins, e.games⟩

end Entry

/-- The scores kept beside a game: one entry for every seat there can be. -/
structure Sheet where
  totalGames : UInt32 := 0
  entries : Vector Entry mostSeats := Vector.replicate mostSeats {}
  deriving DecidableEq

namespace Sheet

/-- Takes over a board; seats that it lacks keep their entries, seats beyond the sheet are left
out. -/
def load (t : Sheet) (b : Board) : Sheet where
  totalGames := b.totalGames
  entries := .ofFn fun i =>
    match b.players[i.val]? with
    | some s => t.entries[i].fill s
    | none => t.entries[i]

def toBoard (t : Sheet) : Board :=
  ⟨t.totalGames, (t.entries.mapFinIdx fun i e _ => e.toStanding i).toList⟩

def rename (t : Sheet) (seat : Nat) (name : String) : Sheet :=
  { t with entries := .ofFn fun i =>
      if i.val = seat then t.entries[i].rename name else t.entries[i] }

/-- Counts a game that the first `seats` seats took part in and `winner` won. -/
def count (t : Sheet) (seats winner : Nat) : Sheet where
  totalGames := t.totalGames + 1
  entries := .ofFn fun i =>
    if i.val < seats then t.entries[i].count (i.val = winner) else t.entries[i]

end Sheet
end Rota.Score
