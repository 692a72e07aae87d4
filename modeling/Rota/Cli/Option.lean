import Rota.Cli.Fault
import Rota.Text.Numeral

namespace Rota.Cli

inductive Kind
  | flag
  | help
  | version
  | text
  /-- A text that is not empty. -/
  | path
  /-- A natural number of 64 bits. -/
  | natural
  /-- A natural number of 32 bits. -/
  | small
  | integer
  deriving DecidableEq, Repr

def Kind.takesValue : Kind → Bool
  | .flag | .help | .version => false
  | _ => true

def Kind.letter? : Kind → Option Char
  | .help => some 'h'
  | .version => some 'V'
  | _ => none

inductive Value
  | set
  | text (s : String)
  | number (n : Int)
  deriving DecidableEq, Repr

structure Opt where
  name : String
  kind : Kind
  about : String
  /-- The environment variable that stands in for it. -/
  envName : Option String := none
  /-- The value if none is given, as it is shown. -/
  standard : Option String := none
  deriving DecidableEq, Repr

/-- The highest number of an option of 32 bits. -/
def smallMost : Int := UInt32.size - 1

namespace Opt

def placeholder (o : Opt) : String :=
  String.ofList (o.name.toList.map fun c => if c = '-' then '_' else c.toUpper)

def shown (o : Opt) : String :=
  if o.kind.takesValue then s!"--{o.name} <{o.placeholder}>" else s!"--{o.name}"

/-- Reads a number of 32 bits: an integer first, which then has to be within the range. -/
def readSmall (given : String) : Except String Int := do
  let n ← (Text.readInt64 given).mapError Text.NumeralFault.message
  if 0 ≤ n.toInt ∧ n.toInt ≤ smallMost then return n.toInt
  else throw s!"{n} is not in 0..={smallMost}"

/-- Reads the value given to the option. -/
def read (o : Opt) (given : String) : Except Fault Value :=
  let number := fun (r : Except String Int) =>
    match r with
    | .ok n => .ok (.number n)
    | .error reason => .error (.invalidValue given o.shown reason)
  match o.kind with
  | .flag | .help | .version => .ok .set
  | .text => .ok (.text given)
  | .path => if given.isEmpty then .error (.valueMissing o.shown) else .ok (.text given)
  | .natural =>
    number (((Text.readUInt64 given).mapError Text.NumeralFault.message).map fun n =>
      Int.ofNat n.toNat)
  | .small => number (readSmall given)
  | .integer =>
    number (((Text.readInt64 given).mapError Text.NumeralFault.message).map fun n => n.toInt)

end Opt
end Rota.Cli
