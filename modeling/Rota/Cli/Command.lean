import Rota.Cli.Line
import Rota.Rules.Document

namespace Rota.Cli

structure RuleOptions where
  config : Option String := none
  maxPlayers : Option UInt64 := none
  minPlayers : Option UInt64 := none
  lapCap : Option UInt32 := none
  startingMoney : Option Int64 := none
  tickMillis : Option UInt64 := none
  deriving DecidableEq, Repr

structure HostOptions where
  name : String
  logFile : String
  scoresFile : String
  rules : RuleOptions
  /-- Whether leftovers of that name go first. -/
  reset : Bool
  timeoutSecs : Option UInt64
  deriving DecidableEq, Repr

structure PlayerOptions where
  name : String
  playerName : Option String
  /-- How many turns to take at most. -/
  rounds : Option UInt32
  attachMillis : UInt64
  deriving DecidableEq, Repr

structure SimulateOptions where
  name : Option String
  players : UInt64
  logFile : String
  scoresFile : String
  rules : RuleOptions
  timeoutSecs : UInt64
  deriving DecidableEq, Repr

inductive Command
  | host (o : HostOptions)
  | player (o : PlayerOptions)
  | simulate (o : SimulateOptions)
  | cleanShm (pattern : String)
  deriving DecidableEq, Repr

structure Invocation where
  /-- Where reports on the run itself go. -/
  diagnostics : Option String
  command : Command
  deriving DecidableEq, Repr

/-! What stands for an option that is not given. -/

/-- A game that nobody has named is named after the program. -/
def standardName : String := programName

def standardLog : String := "game.log"

def standardScores : String := "scores.json"

def standardAttachMillis : UInt64 := 5000

def standardPlayers : UInt64 := 3

def standardTimeoutSecs : UInt64 := 60

def standardPattern : String := s!"{programName}*"

/-! The options of every command. -/

def diagnosticsOption : Opt :=
  { name := "diagnostics-dir"
    kind := .path
    about := "Also write diagnostics to a daily rolling file in this directory"
    envName := "TURNSTILE_LOG_DIR" }

def ruleOptions : List Opt :=
  [{ name := "config", kind := .path, about := "YAML file with game rules"
     envName := "TURNSTILE_CONFIG" },
    { name := "max-players", kind := .natural, about := "Seats available, 3 to 5" },
    { name := "min-players", kind := .natural, about := "Connected players needed to start" },
    { name := "lap-cap", kind := .small, about := "Round at which the richest player wins" },
    { name := "starting-money", kind := .integer, about := "Money every player starts with" },
    { name := "proactive-tick-ms", kind := .natural
      about := "Advance turns automatically at this interval, in milliseconds"
      envName := "TURNSTILE_PROACTIVE_TICK_MS" }]

def gameNameOption : Opt :=
  { name := "name", kind := .text, about := "Name of the game's shared memory region"
    envName := "TURNSTILE_NAME", standard := standardName }

def hostOptions : List Opt :=
  [gameNameOption,
    { name := "log-file", kind := .path, about := "Game event log"
      envName := "TURNSTILE_LOG_FILE", standard := standardLog },
    { name := "scores-file", kind := .path
      about := "Where wins and games played are kept between games"
      envName := "TURNSTILE_SCORES_FILE", standard := standardScores }] ++
    ruleOptions ++
  [{ name := "reset", kind := .flag
     about := "Remove leftover regions with this name before starting" },
    { name := "timeout-secs", kind := .natural
      about := "Give up if the game has not ended after this many seconds" }]

def playerOptions : List Opt :=
  [gameNameOption,
    { name := "player-name", kind := .text, about := "Name recorded on the score board" },
    { name := "rounds", kind := .small, about := "Leave the game after taking this many turns" },
    { name := "attach-timeout-ms", kind := .natural
      about := "How long to wait for the host to create the game, in milliseconds"
      standard := toString standardAttachMillis }]

def simulateOptions : List Opt :=
  [{ name := "name", kind := .text
     about := "Region name; a unique one is picked when omitted" },
    { name := "players", kind := .natural, about := "Player processes to start, 3 to 5"
      standard := toString standardPlayers },
    { name := "log-file", kind := .path, about := "", standard := standardLog },
    { name := "scores-file", kind := .path, about := "", standard := standardScores }] ++
    ruleOptions ++
  [{ name := "timeout-secs", kind := .natural
     about := "Seconds before the simulation is abandoned"
     standard := toString standardTimeoutSecs }]

def cleanOptions : List Opt :=
  [{ name := "pattern", kind := .text, about := "Glob matched against region names"
     standard := standardPattern }]

def Verb.options : Verb → List Opt
  | .host => hostOptions
  | .player => playerOptions
  | .simulate => simulateOptions
  | .cleanShm => cleanOptions

def Verb.level (v : Verb) : Level :=
  ⟨.verb v, v.options ++ [helpOption, diagnosticsOption]⟩

def programLevel : Level := ⟨.program, [diagnosticsOption, helpOption, versionOption]⟩

/-! The values of the options. -/

namespace Given

def natural? (g : Given) (name : String) : Option UInt64 :=
  (g.number? name).map fun n => .ofNat n.toNat

def small? (g : Given) (name : String) : Option UInt32 :=
  (g.number? name).map fun n => .ofNat n.toNat

def ruleOptions (g : Given) : RuleOptions where
  config := g.text? "config"
  maxPlayers := g.natural? "max-players"
  minPlayers := g.natural? "min-players"
  lapCap := g.small? "lap-cap"
  startingMoney := (g.number? "starting-money").map .ofInt
  tickMillis := g.natural? "proactive-tick-ms"

def gameName (g : Given) : String := (g.text? "name").getD standardName

def logFile (g : Given) : String := (g.text? "log-file").getD standardLog

def scoresFile (g : Given) : String := (g.text? "scores-file").getD standardScores

/-- The command that the options of `v` make up. -/
def command (g : Given) : Verb → Command
  | .host => .host
    { name := g.gameName
      logFile := g.logFile
      scoresFile := g.scoresFile
      rules := g.ruleOptions
      reset := g.isSet "reset"
      timeoutSecs := g.natural? "timeout-secs" }
  | .player => .player
    { name := g.gameName
      playerName := g.text? "player-name"
      rounds := g.small? "rounds"
      attachMillis := (g.natural? "attach-timeout-ms").getD standardAttachMillis }
  | .simulate => .simulate
    { name := g.text? "name"
      players := (g.natural? "players").getD standardPlayers
      logFile := g.logFile
      scoresFile := g.scoresFile
      rules := g.ruleOptions
      timeoutSecs := (g.natural? "timeout-secs").getD standardTimeoutSecs }
  | .cleanShm => .cleanShm ((g.text? "pattern").getD standardPattern)

end Given

/-- What is asked for by the words behind the command for help. -/
def helpFault : List String → Fault
  | [] => .help .program
  | [name] =>
    if name = helpName then .help .help
    else
      match Verb.all.find? (·.name = name) with
      | some v => .help (.verb v)
      | none => .unknownCommand name
  | name :: other :: _ =>
    if commandNames.contains name then .unknownCommand other else .unknownCommand name

/-- The folder for reports. A command's own option goes first, and the line goes before the
environment. -/
def diagnosticsOf (program command : Given) : Option String :=
  let name := diagnosticsOption.name
  let chosen := ((command.line.lookup name).or (program.line.lookup name)).or
    (command.environment.lookup name)
  match chosen with
  | some (.text s) => some s
  | _ => none

/-- Reads the arguments of the program. -/
def parse (env : Environment) (args : List String) : Except Fault Invocation := do
  let (r, found) ← programLevel.read {} args
  match found with
  | none =>
    let g ← programLevel.finish env r
    throw (if g.isEmpty then .nothingGiven else .commandMissing)
  | some (name, rest) =>
    match Verb.all.find? (·.name = name) with
    | none => throw (helpFault rest)
    | some v =>
      let (r', _) ← v.level.read {} rest
      let command ← v.level.finish env r'
      let program ← programLevel.finish env r
      return ⟨diagnosticsOf program command, command.command v⟩

/-! Rules on the line. -/

/-- An option with its value, if there is one. -/
def argument {α : Type} [ToString α] (name : String) : Option α → List String
  | some a => [s!"--{name}", toString a]
  | none => []

namespace RuleOptions

/-- The arguments that give the same rules. -/
def toArgs (o : RuleOptions) : List String :=
  argument "config" o.config ++ argument "max-players" o.maxPlayers ++
    argument "min-players" o.minPlayers ++ argument "lap-cap" o.lapCap ++
    argument "starting-money" o.startingMoney ++ argument "proactive-tick-ms" o.tickMillis

/-- The rules of the file, or the usual ones, with what the line says in their place. -/
def override (o : RuleOptions) (r : Rules) : Rules where
  maxPlayers := o.maxPlayers.getD r.maxPlayers
  minPlayers := o.minPlayers.getD r.minPlayers
  lapCap := o.lapCap.getD r.lapCap
  startingMoney := o.startingMoney.getD r.startingMoney
  tickMillis := o.tickMillis.or r.tickMillis

/-- The rules to play by, which have to be valid. -/
def resolve (o : RuleOptions) (files : Files) : Except Rules.DocumentFault Rules := do
  let r ← match o.config with
    | some path => Rules.load files path
    | none => .ok {}
  let r := o.override r
  match r.fault? with
  | none => return r
  | some f => throw (.invalid f)

end RuleOptions
end Rota.Cli
