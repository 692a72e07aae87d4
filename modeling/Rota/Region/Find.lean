import Rota.Region.Space

namespace Rota.Region

open Text.Glob (Part Pattern Token)

/-- The names that lead to the regions' folder from the root of the file system. -/
def home : List String := ["dev", "shm"]

/-- The path of that folder; positions in patterns count from its start. -/
def folderPath : String := "/dev/shm/"

/-- Whether a folder can have an entry of that name besides itself and the folder above it. -/
def isEntryName (n : String) : Bool := n ≠ "" && n ≠ "." && n ≠ ".." && '/' ∉ n.toList

/-- A place, and the components of a path from the regions' folder that lead there. -/
structure Spot where
  place : List String := home
  route : List String := []
  deriving DecidableEq, Repr

/-- The place that one more component leads to; there is none above the root. -/
def Spot.enter (s : Spot) (n : String) : Spot where
  place := match n with
    | "" | "." => s.place
    | ".." => s.place.dropLast
    | _ => s.place ++ [n]
  route := s.route ++ [n]

/-- The components by which a path is listed: none is empty, and none of those that lead it is the
folder itself. -/
def Spot.steps (s : Spot) : List String := (s.route.filter (· ≠ "")).dropWhile (· = ".")

def Spot.name (s : Spot) : String := "/".intercalate s.steps

namespace Space

variable (sp : Space)

/-- What stands at a place. Of the folders that lead to the regions there is always one. -/
def kind? (place : List String) : Option Kind :=
  if place.isPrefixOf home then some .folder
  else match home.isPrefixOf? place with
    | some [n] => (sp.entry? n).map Entry.kind
    | _ => sp.others.get? place

def isFolder (place : List String) : Bool := sp.kind? place = some .folder

def enter? (s : Spot) (n : String) : Option Spot :=
  let t := s.enter n
  if sp.isFolder s.place && (sp.kind? t.place).isSome then some t else none

def follow? (s : Spot) (route : List String) : Option Spot := route.foldlM sp.enter? s

def places : List (List String) :=
  [[], home.take 1, home] ++ sp.names.entries.map (fun e => home ++ [e.1]) ++
    sp.others.entries.map (·.1)

/-- The names, one below the other, of all that is below a spot. -/
def trails (s : Spot) : List (List String) :=
  (sp.places.filterMap s.place.isPrefixOf?).eraseDups.filter fun ns =>
    ns ≠ [] && ns.all isEntryName && (sp.follow? s ns).isSome

/-- A folder's own entries for itself and for the folder above it, if the tokens stand for them:
these have to begin with a dot. -/
def dots (ts : List Token) : List String :=
  if ts.head? = some (.literal '.') then [".", ".."].filter (Text.Glob.accepts ts ·.toList) else []

/-- The components that one part of a pattern may stand for at a spot. Only a part with wildcards
looks into the folder. -/
def runs (p : Part) (s : Spot) : List (List String) :=
  let fitting := (sp.trails s).filter fun ns =>
    ns.getLast?.any fun n => Text.Glob.accepts p.tokens n.toList
  if p.deep then fitting
  else match Text.Glob.spelled? p.tokens with
    | some cs => [[String.ofList cs]]
    | none => fitting.filter (·.length = 1) ++ (dots p.tokens).map ([·])

def walk : List Part → Spot → List Spot
  | [], s => [s]
  | p :: ps, s => (sp.runs p s).flatMap fun ns => (sp.follow? s ns).toList.flatMap (walk ps)

def matching (p : Pattern) : List Spot :=
  (sp.walk p.parts {}).filter fun s => !p.foldersOnly || sp.isFolder s.place

def listing (p : Pattern) : List String :=
  (((sp.matching p).filter fun s => sp.kind? s.place = some .file).map Spot.name).mergeSort (· ≤ ·)

def find (pattern : String) : Except Fault (List String) :=
  match Text.Glob.parse folderPath.length pattern with
  | .error f => .error (.pattern f)
  | .ok p => .ok (sp.listing p)

/-- Frees names one after the other, until one cannot be freed. A name that is not there any more is
passed over. -/
def sweep (freed : List String) : Space → List String → Except Fault (List String) × Space
  | sp, [] => (.ok freed, sp)
  | sp, n :: ns =>
    match sp.remove n with
    | .ok sp => sweep (freed ++ [n]) sp ns
    | .error (.notFound _) => sweep freed sp ns
    | .error f => (.error f, sp)

/-- Frees the names of all files that the pattern stands for, and lists them. -/
def cleanUp (pattern : String) : Except Fault (List String) × Space :=
  match sp.find pattern with
  | .error f => (.error f, sp)
  | .ok names => sweep [] sp names

end Space
end Rota.Region
