import Rota.Log.Consumer
import Rota.World.Basic

namespace Rota.World

/-- The object under a label, seen as one of the kind that `view` picks, with its number. -/
def pick {α : Type} (view : Object → Option α) (label : String) : Act (Nat × α) := do
  match (← get).objects.get? label with
  | some (serial, o) => match view o with
    | some a => return (serial, a)
    | none => throw (.missing label)
  | none => throw (.missing label)

def writeLines (files : Files) (path : String) (records : List Log.Record) : Files × Nat :=
  records.foldl
    (fun (files, written) r =>
      match files.append path (Log.line now r ++ "\n") with
      | .ok files => (files, written + 1)
      | .error _ => (files, written))
    (files, 0)

/-- The logger writes what waits on its queue, up to the first marker. -/
def consume (l : Logger) : StateM World Logger := do
  if l.reading then
    let w ← get
    let intake := Log.drain (w.queue l.queue.cell)
    let (files, written) := writeLines w.files l.path intake.records
    set { w with files }
    setQueue l.queue.cell intake.queue
    return { l with written := l.written + written, reading := !intake.stopped }
  else return l

def runLoggers : StateM World Unit := do
  let step : String × Nat × Object → StateM World (String × Nat × Object)
    | (label, serial, .logger l) => do return (label, serial, .logger (← consume l))
    | entry => pure entry
  let entries ← (← get).objects.entries.mapM step
  modify ({ · with objects := ⟨entries⟩ })

def forget (name : String) : StateM World Unit := do
  match (← get).space.remove name with
  | .ok sp => setSpace sp
  | .error _ => pure ()

/-- Sends the logger the marker and lets it finish. Answers how many lines it has written. -/
def stop (l : Logger) : Act Nat := do
  let l ← consume l
  let _ ← onQueue l.queue.cell (Log.Queue.offer (.marker pid now))
  let l ← consume l
  if l.ownsName then forget l.queue.name
  return l.written

/-- What the end of an object brings with it: its lock is let go, its logger stops. -/
def release (serial : Nat) : Object → StateM World Unit
  | .laidOut m _ => do
    let g := (← get).gate m.cell
    setGate m.cell { g with mutex := (g.mutex.unlock serial).2 }
  | .logger l => ignore (stop l)
  | _ => pure ()

/-- Puts an object under a label; the one that was there ends. -/
def put (label : String) (o : Object) : StateM World Unit := do
  let w ← get
  let serial := w.made + 1
  set { w with made := serial, objects := w.objects.set label (serial, o) }
  match w.objects.get? label with
  | some (serial, old) => release serial old
  | none => pure ()

def take (label : String) : StateM World Unit :=
  modify fun w => { w with objects := w.objects.erase label }

def drop (label : String) : Act Unit := do
  let (serial, o) ← pick some label
  take label
  release serial o

end Rota.World
