import Rota.OsError
import Rota.Text.Glob

namespace Rota.Region

inductive Obstacle
  | emptySize
  | otherSize (found wanted : Nat)
  | unopenable
  | unopenableAgain (name : String)
  | tooLarge
  | unmappable
  deriving DecidableEq, Repr

/-- How the head of a region differs from that of the wanted layout. -/
inductive Mismatch
  | magic (found : UInt32)
  | version (found wanted : UInt32)
  | size (found wanted : Nat)
  | tooSmall (found wanted : Nat)
  deriving DecidableEq, Repr

/-- Why a call on regions fails; names are as the caller gave them. -/
inductive Fault
  | invalidName (name : String)
  | notFound (name : String)
  | allocation (name : String) (obstacle : Obstacle)
  | notReady (name : String)
  | layout (name : String) (mismatch : Mismatch)
  | remove (name : String) (error : OsError)
  | pattern (fault : Text.Glob.Fault)
  deriving DecidableEq, Repr

def hexadecimal (n : Nat) : String := String.ofList (Nat.toDigits 16 n)

def failedToAllocate (name reason : String) : String :=
  s!"failed to allocate shared memory region `{name}`: {reason}"

def Obstacle.message : Obstacle → String
  | .emptySize => "size must be non-zero"
  | .otherSize found wanted => s!"existing region has {found} bytes, requested {wanted}"
  | .unopenable => "Opening the shared memory failed, os error 22"
  | .unopenableAgain name =>
    "region vanished while re-creating: " ++
      failedToAllocate name "Opening the shared memory failed, os error 22"
  | .tooLarge => "An unexpected OS error occurred, os error 22"
  | .unmappable => "Creating the shared memory failed, os error 12"

def Mismatch.message : Mismatch → String
  | .magic found => s!"bad magic 0x{hexadecimal found.toNat}"
  | .version found wanted => s!"version {found}, expected {wanted}"
  | .size found wanted => s!"layout is {found} bytes, expected {wanted}"
  | .tooSmall found wanted => s!"region has {found} bytes, layout needs {wanted}"

def Fault.message : Fault → String
  | .invalidName name => s!"invalid shared memory region name `{name}`"
  | .notFound name => s!"shared memory region `{name}` not found"
  | .allocation name obstacle => failedToAllocate name obstacle.message
  | .notReady name => s!"shared memory region `{name}` is still being initialised"
  | .layout name mismatch =>
    s!"layout mismatch in shared memory region `{name}`: {mismatch.message}"
  | .remove name error => s!"failed to remove shared memory region `{name}`: {error.message}"
  | .pattern fault => s!"invalid region pattern: {fault.message}"

/-- The message of the fault, and that of what lies under it. -/
def Fault.chain (f : Fault) : List String :=
  f.message :: match f with
    | .remove _ error => [error.message]
    | .pattern fault => [fault.message]
    | _ => []

def Fault.recoverable : Fault → Bool
  | .notFound _ | .notReady _ => true
  | _ => false

end Rota.Region
