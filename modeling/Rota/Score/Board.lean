import Rota.Rules

namespace Rota.Score

/-- What one seat has achieved over all games. -/
structure Standing where
  name : String
  wins : UInt32
  games : UInt32
  deriving DecidableEq, Repr

namespace Standing

def placeholder (seat : Nat) : String := s!"Player {seat}"

def unnamed (seat : Nat) : Standing := ⟨placeholder seat, 0, 0⟩

end Standing

/-- The standings of all seats, in the order of the seats. -/
structure Board where
  totalGames : UInt32
  players : List Standing
  deriving DecidableEq, Repr

namespace Board

def blank : Board := ⟨0, (List.range mostSeats).map Standing.unnamed⟩

/-- Games counted once for every player in them. -/
def gamesPlayed (b : Board) : Nat := b.players.foldr (·.games.toNat + ·) 0

end Board
end Rota.Score
