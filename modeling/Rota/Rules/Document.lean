import Rota.Files
import Rota.Rules
import Rota.Yaml.Number

namespace Rota.Rules

open Yaml (Scalar)

def fieldNames : List String :=
  ["max_players", "min_players", "lap_cap", "starting_money", "proactive_tick_ms"]

/-- The value of a field, or the standard one if it is not given. -/
def fieldOr? {α : Type} (fields : List (String × Scalar)) (name : String) (standard : α)
    (read : Scalar → Option α) : Option α :=
  match fields.lookup name with
  | some s => read s
  | none => some standard

def word? (s : Scalar) : Option UInt64 := (s.nat? (UInt64.size - 1)).map UInt64.ofNat

/-- Reads the interval, which may be nothing. -/
def tick? (s : Scalar) : Option (Option UInt64) := do
  if ← s.isNull? then return none else return some (← word? s)

/-- The rules that the fields of a document give. Every field has a known name, and none comes
twice. -/
def ofFields? (fields : List (String × Scalar)) : Option Rules := do
  let names := fields.map (·.1)
  if names.Nodup ∧ ∀ n ∈ names, n ∈ fieldNames then
    let standard : Rules := {}
    return {
      maxPlayers := ← fieldOr? fields "max_players" standard.maxPlayers word?
      minPlayers := ← fieldOr? fields "min_players" standard.minPlayers word?
      lapCap := ← fieldOr? fields "lap_cap" standard.lapCap fun s =>
        (s.nat? (UInt32.size - 1)).map UInt32.ofNat
      startingMoney := ← fieldOr? fields "starting_money" standard.startingMoney fun s =>
        (s.int? (UInt64.size / 2 - 1)).map Int64.ofInt
      tickMillis := ← fieldOr? fields "proactive_tick_ms" standard.tickMillis tick? }
  else none

/-- The rules that a document gives; what it does not say is as usual. -/
def ofDocument? (text : String) : Option Rules := do
  ofFields? ((← Yaml.entries? text).map fun (k, v) => (String.ofList k.text, v))

inductive DocumentFault
  | unreadable
  | malformed
  | invalid (fault : Fault)
  deriving DecidableEq, Repr

def DocumentFault.message : DocumentFault → String
  | .unreadable => "unreadable configuration"
  | .malformed => "malformed configuration"
  | .invalid f => f.message

def read (text : String) : Except DocumentFault Rules :=
  match ofDocument? text with
  | none => .error .malformed
  | some r => match r.fault? with
    | none => .ok r
    | some f => .error (.invalid f)

def load (files : Files) (path : String) : Except DocumentFault Rules :=
  match files.load path with
  | .error _ => .error .unreadable
  | .ok text => read text

end Rota.Rules
