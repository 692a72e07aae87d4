import Rota.Region.Fault
import Rota.Register
import Rota.Text.Quoted

namespace Rota.Region

/-- The longest name, in bytes. -/
def longestName : Nat := 254

/-- The name proper, which one slash may lead, unless the text is no name. -/
def bareName? (given : String) : Option String :=
  let cs := match given.toList with
    | '/' :: cs => cs
    | cs => cs
  let bare := String.ofList cs
  if cs.isEmpty ∨ longestName < bare.utf8ByteSize ∨ '/' ∈ cs ∨ '\x00' ∈ cs then none
  else some bare

/-- The memory of one region, which stays as long as somebody maps it. -/
structure Memory where
  size : Nat
  bytes : Nat → UInt8 := fun _ => 0

/-- What a name stands for: memory by its number, a region without a size yet, or a folder. -/
inductive Entry
  | memory (cell : Nat)
  | unsized
  | folder
  deriving DecidableEq, Repr

inductive Kind
  | file
  | folder
  | other
  deriving DecidableEq, Repr

def Entry.kind : Entry → Kind
  | .memory _ | .unsized => .file
  | .folder => .folder

/-- The names in the regions' folder, and all memory that there has ever been, by number. -/
structure Space where
  names : Register String Entry := ⟨[(".", .folder), ("..", .folder)]⟩
  cells : List Memory := []
  /-- What else there is in the file system, by the names that lead there from its root. -/
  others : Register (List String) Kind := {}

/-- A view of a region's memory, with the name that it was opened by. -/
structure Mapping where
  name : String
  cell : Nat
  size : Nat
  deriving DecidableEq, Repr

def Mapping.text (m : Mapping) : String :=
  s!"SharedRegion \x7b name: {Text.quoted m.name}, len: {m.size} \x7d"

def Mapping.laidOutText (m : Mapping) : String :=
  s!"SharedMemoryHandle \x7b region: {m.text} \x7d"

def largestFile : Nat := UInt64.size / 2 - 1

/-- The largest size that can be mapped, which is all of a process's addresses but one page. -/
def largestSize : Nat := UInt64.size / 131072 - 4096

namespace Space

def entry? (sp : Space) (bare : String) : Option Entry := sp.names.get? bare

def bind (sp : Space) (bare : String) (e : Entry) : Space :=
  { sp with names := sp.names.set bare e }

def unbind (sp : Space) (bare : String) : Space :=
  { sp with names := sp.names.erase bare }

def bare (given : String) : Except Fault String :=
  match bareName? given with
  | some b => .ok b
  | none => .error (.invalidName given)

/-- Memory that nobody has made is empty. -/
def memory (sp : Space) (cell : Nat) : Memory := sp.cells.getD cell ⟨0, fun _ => 0⟩

def attach (sp : Space) (given : String) : Except Fault Mapping := do
  match sp.entry? (← bare given) with
  | none => .error (.notFound given)
  | some .unsized => .error (.notReady given)
  | some .folder => .error (.allocation given .unopenable)
  | some (.memory cell) => .ok ⟨given, cell, (sp.memory cell).size⟩

/-- Maps the region of that name and size; one that does not exist is made, all zero. -/
def create (sp : Space) (given : String) (size : Nat) : Except Fault (Mapping × Space) := do
  let b ← bare given
  if size = 0 then .error (.allocation given .emptySize)
  else
    match sp.entry? b with
    | none =>
      if largestFile < size then .error (.allocation given .tooLarge)
      else if largestSize < size then .error (.allocation given .unmappable)
      else
        let cell := sp.cells.length
        .ok (⟨given, cell, size⟩,
          { sp.bind b (.memory cell) with cells := sp.cells ++ [⟨size, fun _ => 0⟩] })
    | some .unsized => .error (.notReady given)
    | some .folder => .error (.allocation given (.unopenableAgain given))
    | some (.memory cell) =>
      let found := (sp.memory cell).size
      if found = size then .ok (⟨given, cell, size⟩, sp)
      else .error (.allocation given (.otherSize found size))

/-- Frees the name; the memory stays for those who map it. -/
def remove (sp : Space) (given : String) : Except Fault Space := do
  let b ← bare given
  match sp.entry? b with
  | none => .error (.notFound given)
  | some .folder => .error (.remove given .isDirectory)
  | some _ => .ok (sp.unbind b)

def byte (sp : Space) (cell i : Nat) : UInt8 := (sp.memory cell).bytes i

def read? (sp : Space) (cell start count : Nat) : Option (List UInt8) :=
  if start + count ≤ (sp.memory cell).size then
    some ((List.range count).map fun i => sp.byte cell (start + i))
  else none

def setBytes (sp : Space) (cell : Nat) (f : (Nat → UInt8) → Nat → UInt8) : Space :=
  { sp with cells := sp.cells.modify cell fun m => { m with bytes := f m.bytes } }

/-- Puts `bytes` over those from `start` on. -/
def overwrite (start : Nat) (bytes : List UInt8) (old : Nat → UInt8) (i : Nat) : UInt8 :=
  if start ≤ i then bytes.getD (i - start) (old i) else old i

def write? (sp : Space) (cell start : Nat) (bytes : List UInt8) : Option Space :=
  if start + bytes.length ≤ (sp.memory cell).size then
    some (sp.setBytes cell (overwrite start bytes))
  else none

/-- Names for regions, sized or not; folders are none. -/
def regionNames (sp : Space) : List String :=
  ((sp.names.entries.filter (·.2 ≠ .folder)).map (·.1)).mergeSort (· ≤ ·)

end Space
end Rota.Region
