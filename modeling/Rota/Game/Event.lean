namespace Rota

/-- What players are told about in the game's log. -/
inductive Event
  | connected (seat eligible seated : Nat)
  | started (seated first : Nat)
  | disconnected (seat : Nat)
  | ruined (seat : Nat) (money : Int64)
  | won (seat : Nat) (round : UInt32) (money : Int64)
  deriving DecidableEq, Repr

def Event.text : Event → String
  | .connected seat eligible seated => s!"Player {seat} connected ({eligible}/{seated} active)"
  | .started seated first => s!"Game started with {seated} players, player {first} goes first"
  | .disconnected seat => s!"Player {seat} disconnected"
  | .ruined seat money => s!"Player {seat} is bankrupt with ${money}"
  | .won seat round money => s!"Game over! Player {seat} wins at round {round} with ${money}"

end Rota
