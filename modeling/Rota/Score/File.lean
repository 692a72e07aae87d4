import Rota.Json.Printer
import Rota.Json.Reader
import Rota.Score.Board

namespace Rota.Score

open Json (Value)

/-- A count of 32 bits. -/
def count? (v : Value) : Option UInt32 := (v.nat? (UInt32.size - 1)).map UInt32.ofNat

namespace Standing

def toValue (s : Standing) : Value :=
  .record [("name", .ofText s.name), ("wins", .ofNat s.wins.toNat),
    ("games_played", .ofNat s.games.toNat)]

def ofParts? (name wins games : Value) : Option Standing := do
  return ⟨← name.text?, ← count? wins, ← count? games⟩

/-- Fields go by name or, in a list, by place. -/
def ofValue? : Value → Option Standing
  | .list [name, wins, games] => ofParts? name wins games
  | .object fields => do
    let fields ← Value.named? fields
    ofParts? (← Value.single? fields "name") (← Value.single? fields "wins")
      (← Value.single? fields "games_played")
  | _ => none

end Standing

namespace Board

def toValue (b : Board) : Value :=
  .record [("total_games", .ofNat b.totalGames.toNat),
    ("players", .list (b.players.map Standing.toValue))]

def ofParts? (total players : Value) : Option Board := do
  let .list items := players | none
  return ⟨← count? total, ← items.mapM Standing.ofValue?⟩

def ofValue? : Value → Option Board
  | .list [total, players] => ofParts? total players
  | .object fields => do
    let fields ← Value.named? fields
    ofParts? (← Value.single? fields "total_games") (← Value.single? fields "players")
  | _ => none

def render (b : Board) : String := b.toValue.pretty ++ "\n"

def parse? (text : String) : Option Board := (Json.parse? text).bind ofValue?

end Board
end Rota.Score
