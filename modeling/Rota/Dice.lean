import Rota.Game.Seat

namespace Rota.Dice

/-- Random words: the given ones, over and over. -/
structure Source where
  words : List UInt64
  /-- How many words have been taken. -/
  used : Nat := 0
  deriving DecidableEq, Repr

def Source.next (s : Source) : UInt64 × Source :=
  (s.words.getD (s.used % s.words.length) 0, { s with used := s.used + 1 })

/-- The lowest digit of the next word to the base `size`, scaled to `range`: whole part and
remainder. -/
def Source.scaled (s : Source) (size range : Nat) : Nat × Nat × Source :=
  let (w, s) := s.next
  let product := w.toNat % size * range
  (product / size, product % size, s)

/-- A number below `range` by chance. A remainder that a second word could carry over the end takes
one more word. -/
def Source.below (s : Source) (size range : Nat) : Nat × Source :=
  let (whole, rest, s) := s.scaled size range
  if size - range < rest then
    let (more, _, s) := s.scaled size range
    (if size ≤ rest + more then whole + 1 else whole, s)
  else (whole, s)

/-- The fields of the board, which goes round. -/
def boardSize : Nat := 20

def faces : Nat := 6

/-- What passing the start pays. -/
def bonus : Int := 200

def highestRent : Nat := 150

inductive Overflow
  | add
  | subtract
  deriving DecidableEq, Repr

def Overflow.message : Overflow → String
  | .add => "attempt to add with overflow"
  | .subtract => "attempt to subtract with overflow"

def money? (amount : Int) : Option Int64 :=
  if Int64.minValue.toInt ≤ amount ∧ amount ≤ Int64.maxValue.toInt then some (.ofInt amount)
  else none

structure Roll where
  face : Nat
  purse : Purse
  source : Source
  deriving DecidableEq, Repr

/-- Rolls the die and moves on; who passes the start is paid, and who does not pays rent. -/
def roll (s : Source) (p : Purse) : Except Overflow Roll :=
  let (rolled, s) := s.below UInt32.size faces
  let face := rolled + 1
  if UInt32.size ≤ p.position.toNat + face then .error .add
  else
    let position := UInt32.ofNat ((p.position.toNat + face) % boardSize)
    if position < p.position then
      match money? (p.money.toInt + bonus) with
      | some money => .ok ⟨face, ⟨money, position⟩, s⟩
      | none => .error .add
    else
      let (rent, s) := s.below UInt64.size (highestRent + 1)
      match money? (p.money.toInt - rent) with
      | some money => .ok ⟨face, ⟨money, position⟩, s⟩
      | none => .error .subtract

/-- So many rolls one after the other, up to the first that does not fit. -/
def rolls (s : Source) (p : Purse) : Nat → List (Except Overflow Roll)
  | 0 => []
  | count + 1 =>
    match roll s p with
    | .error o => [.error o]
    | .ok r => .ok r :: rolls r.source r.purse count

end Rota.Dice
