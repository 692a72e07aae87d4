import Rota.Text.Bytes

namespace Rota.Text

/-- Whether a byte goes on with a character that an earlier one began. -/
def goesOn (b : UInt8) : Bool := 0x80 ≤ b && b ≤ 0xBF

/-- Whether position `i` in the bytes of a text lies at its end or where a character begins. -/
def isBoundary (bs : List UInt8) (i : Nat) : Bool :=
  if i = 0 then true
  else match bs[i]? with
    | some b => !goesOn b
    | none => i = bs.length

def lastBoundary (bs : List UInt8) : Nat → Nat
  | 0 => 0
  | i + 1 => if isBoundary bs (i + 1) then i + 1 else lastBoundary bs i

/-- The text, or as much of it as goes into `limit` bytes without splitting a character. -/
def cut (limit : Nat) (s : String) : String :=
  let bs := bytes s
  if bs.length ≤ limit then s else ofBytes (bs.take (lastBoundary bs limit))

def firstLine (s : String) : String := String.ofList (s.toList.takeWhile (· ≠ '\n'))

end Rota.Text
