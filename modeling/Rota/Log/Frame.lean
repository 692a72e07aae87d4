import Rota.Log.Record
import Rota.Text.Bytes

namespace Rota.Log

def Kind.code : Kind → UInt32
  | .message => 0
  | .shutdown => 1

/-- The memory of one record. -/
structure Frame where
  kind : UInt32 := 0
  pid : UInt32 := 0
  millis : Int64 := 0
  /-- How many of the bytes are text. -/
  length : UInt32 := 0
  bytes : Vector UInt8 textBytes := Vector.replicate textBytes 0
  deriving DecidableEq

namespace Frame

/-- Writes a record over the one before it, whose bytes behind a shorter text stay. -/
def write (f : Frame) (r : Record) : Frame :=
  let text := (Text.bytes r.kept.text).toArray
  { kind := r.kind.code
    pid := r.pid
    millis := r.millis
    length := .ofNat text.size
    bytes := .ofFn fun i => text.getD i f.bytes[i] }

def read (f : Frame) : Record where
  kind := if f.kind = Kind.shutdown.code then .shutdown else .message
  pid := f.pid
  millis := f.millis
  text := Text.ofBytes (f.bytes.toList.take f.length.toNat)

end Frame
end Rota.Log
