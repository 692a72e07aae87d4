import Rota.Region.Space

namespace Rota.Region

structure Layout where
  version : UInt32
  size : Nat
  deriving DecidableEq, Repr

/-- The first word of every region that has been laid out. -/
def magic : UInt32 := 0x5453544c

/-- How far the head says that a region has been laid out. -/
inductive Stage
  | blank
  | underway
  | ready
  | unknown
  deriving DecidableEq, Repr

def headSize : Nat := 24

/-- The number that bytes stand for, the lowest first. -/
def numberOf : List UInt8 → Nat
  | [] => 0
  | b :: bs => b.toNat + 256 * numberOf bs

/-- The lowest `count` bytes of `n`, the lowest first. -/
def bytesOf (count n : Nat) : List UInt8 :=
  match count with
  | 0 => []
  | count + 1 => UInt8.ofNat n :: bytesOf count (n / 256)

namespace Space

def number (sp : Space) (cell start count : Nat) : Nat :=
  numberOf ((List.range count).map fun i => sp.byte cell (start + i))

def setNumber (sp : Space) (cell start count n : Nat) : Space :=
  sp.setBytes cell (overwrite start (bytesOf count n))

def magicOf (sp : Space) (cell : Nat) : UInt32 := .ofNat (sp.number cell 0 4)

def versionOf (sp : Space) (cell : Nat) : UInt32 := .ofNat (sp.number cell 4 4)

def layoutSizeOf (sp : Space) (cell : Nat) : Nat := sp.number cell 8 8

def stage (sp : Space) (cell : Nat) : Stage :=
  match sp.number cell 16 4 with
  | 0 => .blank
  | 1 => .underway
  | 2 => .ready
  | _ => .unknown

def value (sp : Space) (cell : Nat) : UInt32 := .ofNat (sp.number cell headSize 4)

def setValue (sp : Space) (cell : Nat) (v : UInt32) : Space :=
  sp.setNumber cell headSize 4 v.toNat

def check (sp : Space) (m : Mapping) (l : Layout) : Except Fault Unit :=
  if sp.stage m.cell ≠ .ready then .error (.notReady m.name)
  else if sp.magicOf m.cell ≠ magic then .error (.layout m.name (.magic (sp.magicOf m.cell)))
  else if sp.versionOf m.cell ≠ l.version then
    .error (.layout m.name (.version (sp.versionOf m.cell) l.version))
  else if sp.layoutSizeOf m.cell ≠ l.size then
    .error (.layout m.name (.size (sp.layoutSizeOf m.cell) l.size))
  else .ok ()

/-- Marks a region as being laid out, so that nobody else begins to. -/
def claim (sp : Space) (cell : Nat) : Space := sp.setNumber cell 16 4 1

/-- Leaves a region to be laid out by whoever comes next. -/
def giveUp (sp : Space) (cell : Nat) : Space := sp.setNumber cell 16 4 0

/-- Writes the head of a region laid out by `l`. -/
def layOut (sp : Space) (cell : Nat) (l : Layout) : Space :=
  (((sp.setNumber cell 0 4 magic.toNat).setNumber cell 4 4 l.version.toNat).setNumber cell 8 8
    l.size).setNumber cell 16 4 2

def openAs (sp : Space) (given : String) (l : Layout) : Except Fault Mapping := do
  let m ← sp.attach given
  if m.size < l.size then .error (.layout given (.tooSmall m.size l.size))
  else
    sp.check m l
    return m

/-- Fills in the contents of a region, which may fail half done. -/
abbrev Initialiser := Space → Nat → Space × Option Fault

/-- Maps a region of the layout's size, laying it out by `l` if nobody has: then `initialise` is
run, and if it fails the head goes back to blank. Also says whether this call laid it out. -/
def createAs (sp : Space) (given : String) (l : Layout) (initialise : Initialiser) :
    Except Fault (Mapping × Bool) × Space :=
  match sp.create given l.size with
  | .error f => (.error f, sp)
  | .ok (m, sp) =>
    if sp.stage m.cell = .blank then
      match initialise (sp.claim m.cell) m.cell with
      | (sp, none) => (.ok (m, true), sp.layOut m.cell l)
      | (sp, some f) => (.error f, sp.giveUp m.cell)
    else (do sp.check m l; return (m, false), sp)

end Space
end Rota.Region
