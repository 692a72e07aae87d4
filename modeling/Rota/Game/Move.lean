import Rota.Game.Seat

namespace Rota

/-- A plain move: sets the money, adds to it, and sets the position, as far as it says. -/
structure Move where
  money : Option Int64 := none
  gain : Int64 := 0
  position : Option UInt32 := none
  deriving DecidableEq, Repr

/-- Sums of money go round at the ends of their range. -/
def Move.apply (m : Move) (p : Purse) : Purse :=
  ⟨m.money.getD p.money + m.gain, m.position.getD p.position⟩

end Rota
