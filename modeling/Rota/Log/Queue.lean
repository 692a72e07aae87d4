import Rota.Log.Frame
import Rota.Sync.Semaphore

namespace Rota.Log

open Sync (Semaphore)

def capacity : Nat := 10

abbrev Slot := Fin capacity

def Slot.first : Slot := ⟨0, by decide⟩

def Slot.next (s : Slot) : Slot := ⟨(s.val + 1) % capacity, Nat.mod_lt _ (by decide)⟩

/-- A ring of records, guarded by counts of the free and of the used slots. -/
structure Queue where
  free : Semaphore := {}
  used : Semaphore := {}
  /-- The slot of the next record to come out. -/
  head : Slot := Slot.first
  /-- The slot of the next record to go in. -/
  tail : Slot := Slot.first
  /-- How many records were turned away. -/
  dropped : UInt64 := 0
  slots : Vector Frame capacity := Vector.replicate capacity {}
  deriving DecidableEq

namespace Queue

abbrev Step (α : Type) := Queue → Except Sync.Fault α × Queue

/-- Makes the queue ready; what lies in its slots stays there. -/
def init (q : Queue) : Queue := { q with free := ⟨true, capacity⟩, used := ⟨true, 0⟩ }

def new : Queue := init {}

/-- Puts a record into the slot at the tail, which has been counted as taken. -/
def store (r : Record) : Step Unit := fun q =>
  let slots := q.slots.set q.tail (q.slots[q.tail].write r)
  let q := { q with slots, tail := Slot.next q.tail }
  let (answer, used) := q.used.post
  (answer, { q with used })

/-- Takes the record from the slot at the head, which has been counted as free. -/
def fetch : Step Record := fun q =>
  let r := q.slots[q.head].read
  let q := { q with head := Slot.next q.head }
  let (answer, free) := q.free.post
  (answer.map fun _ => r, { q with free })

def offer (r : Record) : Step Bool := fun q =>
  match q.free.tryWait with
  | (.error f, _) => (.error f, q)
  | (.ok false, _) => (.ok false, q)
  | (.ok true, free) =>
    let (answer, q) := store r { q with free }
    (answer.map fun _ => true, q)

/-- Puts a record in, or counts it as turned away. -/
def tryPush (r : Record) : Step Bool := fun q =>
  match offer r q with
  | (.ok false, q) => (.ok false, { q with dropped := q.dropped + 1 })
  | result => result

def pop : Step (Option Record) := fun q =>
  match q.used.tryWait with
  | (.error f, _) => (.error f, q)
  | (.ok false, _) => (.ok none, q)
  | (.ok true, used) =>
    let (answer, q) := fetch { q with used }
    (answer.map some, q)

def pending (q : Queue) : Except Sync.Fault Nat := q.used.get.1

def popUpTo : Nat → Step (List Record)
  | 0, q => (.ok [], q)
  | count + 1, q =>
    match q.pop with
    | (.error f, q) => (.error f, q)
    | (.ok none, q) => (.ok [], q)
    | (.ok (some r), q) =>
      let (rest, q) := popUpTo count q
      (rest.map (r :: ·), q)

def popAll : Step (List Record) := fun q =>
  match q.pending with
  | .error f => (.error f, q)
  | .ok count => popUpTo count q

end Queue
end Rota.Log
