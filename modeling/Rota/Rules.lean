namespace Rota

def mostSeats : Nat := 5

def fewestPlayers : Nat := 3

structure Rules where
  /-- Seats handed out before joining is refused. -/
  maxPlayers : UInt64 := 5
  /-- Connected players needed before the game starts. -/
  minPlayers : UInt64 := 3
  /-- The round at which the richest player wins. -/
  lapCap : UInt32 := 50
  startingMoney : Int64 := 500
  /-- The interval in milliseconds at which turns pass by themselves, if they do. -/
  tickMillis : Option UInt64 := none
  deriving DecidableEq, Repr

namespace Rules

inductive Fault
  | maxPlayers (got : UInt64)
  | minPlayers (most got : UInt64)
  | lapCap
  | startingMoney (got : Int64)
  | tick
  deriving DecidableEq, Repr

def Fault.message : Fault → String
  | .maxPlayers got => s!"max_players must be within {fewestPlayers}..={mostSeats}, got {got}"
  | .minPlayers most got => s!"min_players must be within {fewestPlayers}..={most}, got {got}"
  | .lapCap => "lap_cap must be at least 1"
  | .startingMoney got => s!"starting_money must be positive, got {got}"
  | .tick => "proactive_tick_ms must be positive"

/-- The first fault in the order of the fields. -/
def fault? (r : Rules) : Option Fault :=
  if r.maxPlayers.toNat < fewestPlayers ∨ mostSeats < r.maxPlayers.toNat then
    some (.maxPlayers r.maxPlayers)
  else if r.minPlayers.toNat < fewestPlayers ∨ r.maxPlayers < r.minPlayers then
    some (.minPlayers r.maxPlayers r.minPlayers)
  else if r.lapCap = 0 then some .lapCap
  else if r.startingMoney ≤ 0 then some (.startingMoney r.startingMoney)
  else if r.tickMillis = some 0 then some .tick
  else none

def Valid (r : Rules) : Prop := r.fault? = none

instance (r : Rules) : Decidable r.Valid := inferInstanceAs (Decidable (_ = _))

/-- The rules as a table keeps them, where no interval is recorded. -/
def atTable (r : Rules) : Rules := { r with tickMillis := none }

/-- What a table that nobody has set up holds in place of rules. -/
def blank : Rules := ⟨0, 0, 0, 0, none⟩

end Rules
end Rota
