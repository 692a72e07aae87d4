import Rota.Cli.Command

namespace Rota.Cli

/-- What is said of an option: what it is for, its variable with the value it has, and what stands
for it if it is not given. -/
def Opt.note (env : Environment) (o : Opt) : String :=
  let about := if o.about.isEmpty then [] else [o.about]
  let fromEnv := o.envName.toList.map fun n =>
    let set := (List.lookup n env).getD ""
    s!"[env: {n}={set}]"
  let standard := o.standard.toList.map fun s => s!"[default: {s}]"
  String.intercalate " " (about ++ fromEnv ++ standard)

def Opt.heading (o : Opt) : String :=
  match o.kind.letter? with
  | some c => s!"-{c}, {o.shown}"
  | none => "    " ++ o.shown

def indent (width : Nat) (s : String) : String := String.ofList (List.replicate width ' ') ++ s

def optionLines (env : Environment) (options : List Opt) : List String :=
  "Options:" :: options.flatMap fun o => [indent 2 o.heading, indent 10 (o.note env)]

/-- The commands, what they are for in one column. -/
def commandLines : List String :=
  let rows := Verb.all.map (fun v => (v.name, v.about)) ++ [(helpName, Topic.help.headline)]
  let width := (rows.map (·.1.length)).foldl max 0
  "Commands:" :: rows.map fun (name, about) =>
    indent 2 name ++ indent (width + 2 - name.length) about

def Topic.helpLines (env : Environment) : Topic → List String
  | .program =>
    [Topic.program.headline, ""] ++ commandLines ++ [""] ++ optionLines env programLevel.options
  | .verb v =>
    [v.about, "", s!"Usage: {programName} {v.name} [OPTIONS]", ""] ++
      optionLines env (diagnosticsOption :: v.options ++ [helpOption])
  | .help =>
    [Topic.help.headline, "", s!"Usage: {programName} {helpName} [COMMAND]...", "", "Arguments:",
      "  [COMMAND]...  Print help for the subcommand(s)"]

def unlines (lines : List String) : String := String.join (lines.map (· ++ "\n"))

/-- All that is shown of a fault. -/
def Fault.text (env : Environment) : Fault → String
  | .help topic => unlines (topic.helpLines env)
  | .nothingGiven => unlines (Topic.program.helpLines env)
  | f => f.message ++ "\n"

end Rota.Cli
