import Rota.Region.Find
import Rota.World.Objects

namespace Rota.World

/-- Maps a region under a label, making it if it does not exist. Answers its size. -/
def createRegion (label name : String) (size : Nat) : Act Nat := do
  let (m, sp) ← ofRegion ((← get).space.create name size)
  setSpace sp
  put label (.region m)
  return m.size

def attachRegion (label name : String) : Act Nat := do
  let m ← ofRegion ((← get).space.attach name)
  put label (.region m)
  return m.size

def regionOf (label : String) : Act Region.Mapping := do return (← pick Object.region? label).2

def readBytes (label : String) (start count : Nat) : Act (List UInt8) := do
  let m ← regionOf label
  match (← get).space.read? m.cell start count with
  | some bytes => return bytes
  | none => throw .outOfRange

def writeBytes (label : String) (start : Nat) (bytes : List UInt8) : Act Unit := do
  let m ← regionOf label
  match (← get).space.write? m.cell start bytes with
  | some sp => setSpace sp
  | none => throw .outOfRange

def removeName (name : String) : Act Unit := do setSpace (← ofRegion ((← get).space.remove name))

def makeUnsized (name : String) : StateM World Unit :=
  modify fun w => { w with space := w.space.bind name .unsized }

def makeFolder (name : String) : StateM World Unit :=
  modify fun w => { w with space := w.space.bind name .folder }

def findNames (pattern : String) : Act (List String) := do ofRegion ((← get).space.find pattern)

/-- Frees the names that a pattern stands for, and lists them. Those that are freed before one
cannot be, stay freed. -/
def cleanNames (pattern : String) : Act (List String) := do
  let (names, sp) := (← get).space.cleanUp pattern
  setSpace sp
  ofRegion names

/-- Stores a value in a fresh region, and may then fail over a name. -/
def storing (value : Option UInt32) (failName : Option String) : Region.Space.Initialiser :=
  fun sp cell => (value.elim sp (sp.setValue cell), failName.map .invalidName)

def createLaidOut (label name : String) (layout : Region.Layout) (value : Option UInt32)
    (failName : Option String) : Act Unit := do
  let (answer, sp) := (← get).space.createAs name layout (storing value failName)
  setSpace sp
  let (m, _) ← ofRegion answer
  put label (.laidOut m layout)

def openLaidOut (label name : String) (layout : Region.Layout) : Act Unit := do
  let m ← ofRegion ((← get).space.openAs name layout)
  put label (.laidOut m layout)

def laidOutAt (label : String) : Act Region.Mapping := do return (← pick Object.laidOut? label).2.1

def getValue (label : String) : Act UInt32 := do
  let m ← laidOutAt label
  return (← get).space.value m.cell

def setValue (label : String) (v : UInt32) : Act Unit := do
  let m ← laidOutAt label
  modify fun w => { w with space := w.space.setValue m.cell v }

/-- Ends an object and frees the name of its region. The object ends even if the name does not
go. -/
def destroy (label : String) : Act Unit := do
  let (_, o) ← pick some label
  match o with
  | .region m | .laidOut m _ =>
    drop label
    removeName m.name
  | .station s =>
    drop label
    match (← get).space.remove s.table.name with
    | .ok sp => setSpace sp
    | .error f => throw (.table (.region f))
  | _ => throw (.missing label)

end Rota.World
