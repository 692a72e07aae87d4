import Rota.Game.Move
import Rota.Main
import Rota.Proofs.Game.Ending
import Rota.Proofs.Game.Fairness
import Rota.Proofs.Game.Luck
import Rota.Proofs.Game.Pause
import Rota.Proofs.Game.Presence
import Rota.Proofs.Game.Refusal
import Rota.Proofs.Game.Signals
import Rota.Proofs.Game.Staying
import Rota.Proofs.Game.Walking
import Rota.Proofs.Game.Winner
import Rota.Proofs.Json.Reading
import Rota.Proofs.Log.Identity
import Rota.Proofs.Log.Journal
import Rota.Proofs.Region.Incarnation
import Rota.Proofs.Region.Laying
import Rota.Proofs.Score.Saving
import Rota.Proofs.Score.Sheet
import Rota.Proofs.Service.Handing
import Rota.Proofs.Service.Hosting
import Rota.Proofs.Sync.Deadline
import Rota.Proofs.World.Exclusion
import Rota.Proofs.World.Fifo
import Rota.Proofs.World.Incarnations
import Rota.Proofs.World.Keeping
import Rota.Proofs.World.Logging
import Rota.Proofs.World.Readback
import Rota.Proofs.World.Relay
import Rota.Proofs.World.Semaphores
import Rota.Proofs.World.Sweeping
import Rota.Proofs.World.Tallies
import Rota.Proofs.World.Ticking
import Rota.Proofs.World.Waiting
import Rota.Sync.Deadline
import Rota.World.Gates
import Rota.Proofs.Game.Solvency
import Rota.Proofs.Text.Cut
import Rota.Proofs.Text.Legible
