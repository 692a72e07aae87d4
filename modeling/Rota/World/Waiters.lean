import Rota.World.Tables

namespace Rota.World

/-- Someone who has a mapping of their own of the table begins to wait for the turn of `seat`. -/
def beginWait (label station : String) (seat : Nat) : Act Unit := do
  let s ← stationAt station
  let m ← openTable s.table.name
  let g ← lockedGame m.cell
  let _ ← ofGame (g.seated seat)
  modify fun w => { w with waiters := w.waiters ++ [{ label, cell := m.cell, seat }] }

def wakeOf? (w : World) (x : Waiter) : Option Game.Wake := (w.game x.cell).wake? x.seat

def looks (who : Waiter → Bool) (x : Waiter) : Bool := who x && x.roused

/-- The waiter after those of `who` have looked, unless that ends the wait. -/
def remains? (w : World) (who : Waiter → Bool) (x : Waiter) : Option Waiter :=
  if looks who x then
    match wakeOf? w x with
    | some _ => none
    | none => some { x with roused := false }
  else some x

/-- How the waiter goes home once those of `who` have looked, if the wait ends. -/
def leaves? (w : World) (who : Waiter → Bool) (x : Waiter) : Option (String × Game.Wake) :=
  if looks who x then (wakeOf? w x).map fun wake => (x.label, wake) else none

/-- Those of `who` that are roused look at the table. Sends home those whose wait has ended, and
says how, in the order in which they came. -/
def look (who : Waiter → Bool) : StateM World (List (String × Game.Wake)) := do
  let w ← get
  set { w with waiters := w.waiters.filterMap (remains? w who) }
  return w.waiters.filterMap (leaves? w who)

def wakeWaiters : StateM World (List (String × Game.Wake)) := look fun _ => true

def settle : StateM World (List (String × Game.Wake)) := do
  runLoggers
  wakeWaiters

end Rota.World
