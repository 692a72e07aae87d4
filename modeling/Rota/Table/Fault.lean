import Rota.Game.Basic
import Rota.Region.Fault
import Rota.Rules
import Rota.Score.Store
import Rota.Sync.Fault
import Rota.Text.Quoted

namespace Rota.Table

inductive Fault
  | rules (fault : Rules.Fault)
  | region (fault : Region.Fault)
  /-- The region has never been made ready for play. -/
  | uninitialised (primitive : Sync.Primitive)
  | game (fault : Game.Fault)
  | store (fault : Score.Store.Fault)
  deriving DecidableEq, Repr

def invalidArgument (reason : String) : String := s!"invalid argument: {reason}"

def regionMessage : Region.Fault → String
  | .notFound _ | .notReady _ => "game region not found"
  | .invalidName name => invalidArgument s!"bad region name {Text.quoted name}"
  | _ => "failed to set up the game region"

def Fault.message : Fault → String
  | .rules f => invalidArgument f.message
  | .region f => regionMessage f
  | .uninitialised p => invalidArgument s!"{p.name} is not in an initialised region"
  | .game f => f.message
  | .store f => f.message

def Fault.recoverable : Fault → Bool
  | .rules _ | .uninitialised _ => false
  | .region (.notFound _) | .region (.notReady _) => true
  | .region _ => false
  | .game f => f.recoverable
  | .store _ => true

end Rota.Table
