import Rota.Score.File
import Rota.Files

namespace Rota.Score

inductive Store
  /-- Keeps every board, the latest last. -/
  | memory (saved : List Board)
  /-- Takes no board. -/
  | broken
  /-- Keeps the latest board in a file. -/
  | file (path : String)
  deriving DecidableEq

namespace Store

inductive Fault
  | persistence
  deriving DecidableEq, Repr

def Fault.message : Fault → String
  | .persistence => "score persistence failed"

/-- The board in a score file, if there is a file. -/
def loadFile (files : Files) (path : String) : Except Fault (Option Board) :=
  match files.load path with
  | .error .notFound => .ok none
  | .error _ => .error .persistence
  | .ok text =>
    match Board.parse? text with
    | some b => .ok (some b)
    | none => .error .persistence

def saveFile (files : Files) (path : String) (b : Board) : Except Fault Files :=
  match files.save path b.render with
  | .error _ => .error .persistence
  | .ok files => .ok files

/-- The board saved last, if there is one. -/
def load (files : Files) : Store → Except Fault (Option Board)
  | .memory saved => .ok saved.getLast?
  | .broken => .ok none
  | .file path => loadFile files path

def save (files : Files) (b : Board) : Store → Except Fault (Store × Files)
  | .memory saved => .ok (.memory (saved ++ [b]), files)
  | .broken => .error .persistence
  | .file path => (saveFile files path b).map fun files => (.file path, files)

end Store
end Rota.Score
