import Rota.Text.Cut

namespace Rota.Cli

def programName : String := "turnstile"

def programVersion : String := "0.1.0"

inductive Verb
  | host
  | player
  | simulate
  | cleanShm
  deriving DecidableEq, Repr

namespace Verb

def all : List Verb := [.host, .player, .simulate, .cleanShm]

def name : Verb → String
  | .host => "host"
  | .player => "player"
  | .simulate => "simulate"
  | .cleanShm => "clean-shm"

def about : Verb → String
  | .host => "Create a game and serve it until it ends"
  | .player => "Join a hosted game and play it"
  | .simulate => "Run a host and several players as separate processes"
  | .cleanShm => "Remove shared memory regions left behind by crashed runs"

end Verb

inductive Topic
  | program
  | verb (v : Verb)
  | help
  deriving DecidableEq, Repr

def helpName : String := "help"

def Topic.headline : Topic → String
  | .program => s!"Usage: {programName} [OPTIONS] <COMMAND>"
  | .verb v => v.about
  | .help => "Print this message or the help of the given subcommand(s)"

/-- Why a command line is not carried out; requests for help and version are among the reasons. -/
inductive Fault
  | help (topic : Topic)
  | version
  /-- There is nothing on the line. -/
  | nothingGiven
  | commandMissing
  | unknownCommand (name : String)
  | unknownArgument (arg : String)
  | valueMissing (shown : String)
  | invalidValue (given shown reason : String)
  | repeated (shown : String)
  /-- A flag has been given a value. -/
  | valueUnexpected (given shown : String)
  deriving DecidableEq, Repr

namespace Fault

/-- What is said of a fault behind the word for it. -/
def reason : Fault → String
  | .help topic => topic.headline
  | .version => s!"{programName} {programVersion}"
  | .nothingGiven => Topic.program.headline
  | .commandMissing => s!"'{programName}' requires a subcommand but one was not provided"
  | .unknownCommand name => s!"unrecognized subcommand '{name}'"
  | .unknownArgument arg => s!"unexpected argument '{arg}' found"
  | .valueMissing shown => s!"a value is required for '{shown}' but none was supplied"
  | .invalidValue given shown reason => s!"invalid value '{given}' for '{shown}': {reason}"
  | .repeated shown => s!"the argument '{shown}' cannot be used multiple times"
  | .valueUnexpected given shown =>
    s!"unexpected value '{given}' for '{shown}' found; no more were expected"

/-- Whether the fault is a request that is met. -/
def isRequest : Fault → Bool
  | .help _ | .version => true
  | _ => false

def message (f : Fault) : String :=
  match f with
  | .help _ | .version | .nothingGiven => f.reason
  | _ => Text.firstLine s!"error: {f.reason}"

def exitCode (f : Fault) : Nat := if f.isRequest then 0 else 2

end Fault
end Rota.Cli
