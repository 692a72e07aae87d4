import Rota.Text.Cut

namespace Rota.Log

inductive Kind
  | message
  /-- Tells the consumer to stop. -/
  | shutdown
  deriving DecidableEq, Repr, Inhabited

structure Record where
  kind : Kind := .message
  /-- The process that wrote the line. -/
  pid : UInt32 := 0
  /-- When it was written, in milliseconds since 1970 began. -/
  millis : Int64 := 0
  text : String := ""
  deriving DecidableEq, Repr, Inhabited

/-- The bytes of text that a record keeps. -/
def textBytes : Nat := 1023

namespace Record

def kept (r : Record) : Record := { r with text := Text.cut textBytes r.text }

def message (pid : UInt32) (millis : Int64) (text : String) : Record :=
  ⟨.message, pid, millis, Text.cut textBytes text⟩

def marker (pid : UInt32) (millis : Int64) : Record := ⟨.shutdown, pid, millis, ""⟩

end Record
end Rota.Log
