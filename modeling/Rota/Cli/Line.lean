import Rota.Cli.Option

namespace Rota.Cli

inductive Shape
  /-- Only values follow. -/
  | ending
  | long (name : String) (attached : Option String)
  | short (letter : Char)
  | plain
  deriving DecidableEq, Repr

def shapeOf (arg : String) : Shape :=
  match arg.toList with
  | ['-', '-'] => .ending
  | '-' :: '-' :: cs =>
    let attached := match cs.dropWhile (· ≠ '=') with
      | [] => none
      | _ :: value => some (String.ofList value)
    .long (String.ofList (cs.takeWhile (· ≠ '='))) attached
  | '-' :: c :: _ => .short c
  | _ => .plain

/-- The part of a line that belongs to the program itself or to one of its commands. -/
structure Level where
  topic : Topic
  options : List Opt

def Level.isProgram (l : Level) : Bool := l.topic = .program

def helpOption : Opt := { name := "help", kind := .help, about := "Print help" }

def versionOption : Opt := { name := "version", kind := .version, about := "Print version" }

def Level.option? (l : Level) (name : String) : Option Opt := l.options.find? (·.name = name)

def Level.short? (l : Level) (c : Char) : Option Opt := l.options.find? (·.kind.letter? = some c)

/-- The commands that may follow: those of the program, and the one for help. -/
def commandNames : List String := helpName :: Verb.all.map Verb.name

def Level.isCommand (l : Level) (arg : String) : Bool := l.isProgram && commandNames.contains arg

/-- A line read in part. -/
structure Reading where
  given : List (String × Value) := []
  /-- The option whose value is still to be read, and the value if it has come. -/
  pending : Option (Opt × Option String) := none
  /-- Whether only values may follow. -/
  trailing : Bool := false

namespace Reading

def awaits (r : Reading) : Bool := r.pending.any (·.2.isNone)

/-- Notes the value of an option, which is given once at most. -/
def note (r : Reading) (o : Opt) (given : String) : Except Fault Reading := do
  if (r.given.lookup o.name).isSome then throw (.repeated o.shown)
  return { r with given := r.given ++ [(o.name, ← o.read given)] }

def settle (r : Reading) : Except Fault Reading :=
  match r.pending with
  | none => .ok r
  | some (o, none) => .error (.valueMissing o.shown)
  | some (o, some given) => { r with pending := none }.note o given

end Reading

namespace Level

/-- Why an argument that is no option cannot stand where it does. -/
def stray (l : Level) (trailing : Bool) (arg : String) : Fault :=
  if l.isProgram && !(trailing && commandNames.contains arg) then .unknownCommand arg
  else .unknownArgument arg

def takeOption (l : Level) (r : Reading) (o : Opt) (attached : Option String) :
    Except Fault Reading :=
  match o.kind.takesValue, attached with
  | true, some given => do (← r.settle).note o given
  | true, none => do return { ← r.settle with pending := some (o, none) }
  | false, some given => .error (.valueUnexpected given o.shown)
  | false, none => do
    let r ← r.settle
    match o.kind with
    | .help => throw (.help l.topic)
    | .version => throw .version
    | _ => r.note o ""

/-- Reads one argument that is no command. -/
def step (l : Level) (r : Reading) (arg : String) : Except Fault Reading :=
  if r.trailing then .error (l.stray true arg)
  else
    match shapeOf arg with
    | .ending => .ok { r with trailing := true }
    | .long name attached =>
      match l.option? name with
      | some o => l.takeOption r o attached
      | none => .error (.unknownArgument s!"--{name}")
    | .short c =>
      match l.short? c with
      | some o => l.takeOption r o none
      | none => .error (.unknownArgument s!"-{c}")
    | .plain =>
      match r.pending with
      | some (o, none) => .ok { r with pending := some (o, some arg) }
      | _ => .error (l.stray false arg)

/-- Reads up to the first command. Gives it with the arguments behind it. -/
def read (l : Level) :
    Reading → List String → Except Fault (Reading × Option (String × List String))
  | r, [] => .ok (r, none)
  | r, arg :: args =>
    if l.isCommand arg && !r.trailing && !r.awaits then .ok (r, some (arg, args))
    else do l.read (← l.step r arg) args

end Level

abbrev Environment := List (String × String)

/-- The values of the options on one level: those on the line, and those of the environment. -/
structure Given where
  line : List (String × Value) := []
  environment : List (String × Value) := []
  deriving DecidableEq, Repr

namespace Given

def get? (g : Given) (name : String) : Option Value :=
  (g.line.lookup name).or (g.environment.lookup name)

def text? (g : Given) (name : String) : Option String :=
  match g.get? name with
  | some (.text s) => some s
  | _ => none

def number? (g : Given) (name : String) : Option Int :=
  match g.get? name with
  | some (.number n) => some n
  | _ => none

def isSet (g : Given) (name : String) : Bool := (g.get? name).isSome

def isEmpty (g : Given) : Bool := g.line.isEmpty && g.environment.isEmpty

/-- Takes the value of an option from the environment, unless it is on the line. -/
def addVariable (env : Environment) (g : Given) (o : Opt) : Except Fault Given := do
  match o.envName.bind (List.lookup · env) with
  | some given =>
    if (g.line.lookup o.name).isSome then return g
    else return { g with environment := g.environment ++ [(o.name, ← o.read given)] }
  | none => return g

end Given

/-- Ends the part of a line that belongs to the level. -/
def Level.finish (l : Level) (env : Environment) (r : Reading) : Except Fault Given := do
  l.options.foldlM (Given.addVariable env) ⟨(← r.settle).given, []⟩

end Rota.Cli
