import Rota.Game.Basic
import Rota.Json.Printer

namespace Rota.Service

open Json (Value)

/-! What a host prints once its game is over. Fields go by name. -/

def seatReport (i : Nat) (s : Seat) : Value :=
  .record [("active", .bool s.active), ("bankrupt", .bool s.bankrupt),
    ("connected", .bool s.connected), ("id", .ofNat i), ("money", .ofInt s.money.toInt),
    ("position", .ofNat s.position.toNat), ("turn_count", .ofNat s.turns.toNat)]

def gameReport (g : Game) : Value :=
  .record [("active_player_count", .ofNat g.eligible.toNat), ("current_player", .ofNat g.current),
    ("num_players", .ofNat g.seats.length), ("players", .list (g.seats.mapIdx seatReport)),
    ("round", .ofNat g.round.toNat), ("status", .ofText g.phase.text),
    ("total_moves", .ofNat g.moves.toNat), ("winner", g.winner?.elim .null .ofNat)]

def standingReport (s : Score.Standing) : Value :=
  .record [("games_played", .ofNat s.games.toNat), ("name", .ofText s.name),
    ("wins", .ofNat s.wins.toNat)]

def boardReport (b : Score.Board) : Value :=
  .record [("players", .list (b.players.map standingReport)),
    ("total_games", .ofNat b.totalGames.toNat)]

def report (g : Game) (b : Score.Board) : String :=
  (Value.record [("game", gameReport g), ("scores", boardReport b)]).compact ++ "\n"

end Rota.Service
