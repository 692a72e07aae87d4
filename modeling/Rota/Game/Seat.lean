namespace Rota

/-- A place at the table. A fresh table has only zeroed seats. -/
structure Seat where
  connected : Bool := false
  active : Bool := false
  bankrupt : Bool := false
  /-- How often the seat has been given the turn. -/
  turns : UInt64 := 0
  money : Int64 := 0
  position : UInt32 := 0
  /-- How many wake-ups wait for the player. -/
  signal : Nat := 0
  deriving DecidableEq, Repr, Inhabited

structure Purse where
  money : Int64
  position : UInt32
  deriving DecidableEq, Repr

namespace Seat

/-- The seat once a player has taken it who is not there yet; its signal stays as it is. -/
def sit (s : Seat) (money : Int64) : Seat :=
  { s with connected := false, active := true, bankrupt := false, turns := 0, money, position := 0 }

def inPlay (s : Seat) : Bool := s.active && !s.bankrupt

def eligible (s : Seat) : Bool := s.connected && s.inPlay

def purse (s : Seat) : Purse := ⟨s.money, s.position⟩

def setPurse (s : Seat) (p : Purse) : Seat := { s with money := p.money, position := p.position }

def ruin (s : Seat) : Seat := { s with bankrupt := true, active := false }

def countTurn (s : Seat) : Seat := { s with turns := s.turns + 1 }

def raise (s : Seat) : Seat := { s with signal := if s.signal = 0 then 1 else s.signal }

/-- Takes the signal down, however high it is. -/
def lower (s : Seat) : Seat := { s with signal := 0 }

end Seat

/-- The seat that the most money lies on among `best`, worth `money`, and the seats numbered from
`i` on; of equals the first. -/
def richestFrom (best : Nat) (money : Int64) (i : Nat) : List Seat → Nat
  | [] => best
  | s :: rest =>
    if money < s.money then richestFrom i s.money (i + 1) rest
    else richestFrom best money (i + 1) rest

def richest : List Seat → Nat
  | [] => 0
  | s :: rest => richestFrom 0 s.money 1 rest

/-- The seats that can still pay, by number. -/
def solvent (seats : List Seat) : List Nat :=
  (List.range seats.length).filter fun i => (seats[i]?).any (!·.bankrupt)

/-- The winner among the seats: the only one that can pay, or else the richest. -/
def champion (seats : List Seat) : Nat :=
  match solvent seats with
  | [sole] => sole
  | _ => richest seats

/-- The seats after `start`, going once round the table and ending with `start` itself. -/
def rotation (size start : Nat) : List Nat :=
  (List.range size).map fun step => (start + step + 1) % size

/-- The seat that gets the turn after `previous`. -/
def nextSeat? (seats : List Seat) (previous : Nat) : Option Nat :=
  (rotation seats.length previous).find? fun i => (seats[i]?).any Seat.eligible

end Rota
