import Rota.Cli.Help
import Rota.Service.Failure

namespace Rota.Service

/-- What a process writes, and the code that it exits with. -/
structure Ending where
  output : String := ""
  errors : String := ""
  exitCode : Nat := 0
  deriving DecidableEq, Repr

/-- The lines that tell of a failure and of what lies under it, which is numbered if there is more
than one. -/
def Failure.text (f : Failure) : String :=
  let causes := match f.chain.tail with
    | [] => []
    | [cause] => ["", "Caused by:", s!"    {cause}"]
    | causes => "" :: "Caused by:" :: causes.mapIdx fun i cause => s!"    {i}: {cause}"
  String.intercalate "\n" (("Error: " ++ f.chain.headD "") :: causes) ++ "\n"

namespace Ending

/-- How a process ends whose arguments are at fault. -/
def ofFault (env : Cli.Environment) (f : Cli.Fault) : Ending :=
  let text := f.text env
  if f.isRequest then ⟨text, "", f.exitCode⟩ else ⟨"", text, f.exitCode⟩

def ofOutcome (o : Outcome) : Ending :=
  match o.failure with
  | none => ⟨o.printed, "", 0⟩
  | some f => ⟨o.printed, f.text, 1⟩

/-- Puts what the processes `es` write in front. -/
def after (e : Ending) (es : List Ending) : Ending :=
  { e with
    output := String.join (es.map (·.output)) ++ e.output
    errors := String.join (es.map (·.errors)) ++ e.errors }

end Ending
end Rota.Service
