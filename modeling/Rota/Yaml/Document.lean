import Rota.Yaml.Scan

namespace Rota.Yaml

structure Scalar where
  text : List Char
  style : Style := .plain
  tag : Option (List Char) := none
  deriving DecidableEq, Repr

/-- What stands in a place for a single value. -/
inductive Leaf
  | scalar (anchor : Option (List Char)) (s : Scalar)
  | alias (name : List Char)
  deriving DecidableEq, Repr

/-- The beginnings of tags that handles stand for. -/
abbrev Handles := List (List Char × List Char)

/-- The handles that need no directive. -/
def Handles.standard : Handles :=
  [(['!'], ['!']), (['!', '!'], "tag:yaml.org,2002:".toList)]

structure Properties where
  anchor : Option (List Char) := none
  /-- The handle and the rest of the tag. -/
  tag : Option (List Char × List Char) := none

/-- An anchor and a tag, in either order, and the tokens behind them. -/
def properties : List Token → Properties × List Token
  | .anchor a :: .tag h t :: ts => (⟨some a, some (h, t)⟩, ts)
  | .tag h t :: .anchor a :: ts => (⟨some a, some (h, t)⟩, ts)
  | .anchor a :: ts => (⟨some a, none⟩, ts)
  | .tag h t :: ts => (⟨none, some (h, t)⟩, ts)
  | ts => ({}, ts)

def Properties.fullTag? (p : Properties) (hs : Handles) : Option (Option (List Char)) :=
  match p.tag with
  | none => some none
  | some ([], t) => some (some t)
  | some (h, t) => (hs.lookup h).map fun beginning => some (beginning ++ t)

def Properties.isEmpty (p : Properties) : Bool := p.anchor.isNone && p.tag.isNone

/-- The leaf that stands here, and the tokens behind it; no collection may begin. -/
def leaf? (hs : Handles) (ts : List Token) : Option (Leaf × List Token) := do
  match ts with
  | .alias name :: ts => return (.alias name, ts)
  | ts =>
    let (p, ts) := properties ts
    let tag ← p.fullTag? hs
    match ts with
    | .scalar text style :: ts =>
      return (.scalar p.anchor ⟨text, style, if tag = some ['!'] then none else tag⟩, ts)
    | .flowListStart :: _ | .flowMappingStart :: _ | .blockListStart :: _
    | .blockMappingStart :: _ | .blockEntry :: _ => none
    | ts => if p.isEmpty then none else return (.scalar p.anchor ⟨[], .plain, tag⟩, ts)

def Leaf.nothing : Leaf := .scalar none ⟨[], .plain, none⟩

/-- The leaf that stands here, or nothing if one of the tokens `ends` comes first. -/
def leafBefore? (hs : Handles) (ends : List Token) (ts : List Token) :
    Option (Leaf × List Token) :=
  if ts.head?.any (ends.contains ·) then some (.nothing, ts) else leaf? hs ts

def entryValue? (hs : Handles) (ends : List Token) : List Token → Option (Leaf × List Token)
  | .value :: ts => leafBefore? hs ends ts
  | ts => some (.nothing, ts)

def blockEnds : List Token := [.key, .value, .blockEnd]

/-- The entries of a block mapping up to its end, and the tokens behind it. -/
def blockEntriesUpTo (hs : Handles) :
    Nat → List Token → Option (List (Leaf × Leaf) × List Token)
  | _, .blockEnd :: ts => some ([], ts)
  | limit + 1, .key :: ts => do
    let (k, ts) ← leafBefore? hs blockEnds ts
    let (v, ts) ← entryValue? hs blockEnds ts
    let (more, ts) ← blockEntriesUpTo hs limit ts
    return ((k, v) :: more, ts)
  | _, _ => none

/-- An entry of a flow mapping; a key may stand without its sign, and without a value. -/
def flowEntry? (hs : Handles) : List Token → Option ((Leaf × Leaf) × List Token)
  | .key :: ts => do
    let (k, ts) ← leafBefore? hs [.value, .flowEntry, .flowMappingEnd] ts
    let (v, ts) ← entryValue? hs [.flowEntry, .flowMappingEnd] ts
    return ((k, v), ts)
  | ts => do
    let (k, ts) ← leaf? hs ts
    return ((k, .nothing), ts)

/-- The entries of a flow mapping up to its end, and the tokens behind it. -/
def flowEntriesUpTo (hs : Handles) :
    Nat → List Token → Option (List (Leaf × Leaf) × List Token)
  | _, .flowMappingEnd :: ts => some ([], ts)
  | limit + 1, ts => do
    let (e, ts) ← flowEntry? hs ts
    match ts with
    | .flowMappingEnd :: ts => return ([e], ts)
    | .flowEntry :: ts =>
      let (more, ts) ← flowEntriesUpTo hs limit ts
      return (e :: more, ts)
    | _ => none
  | _, _ => none

/-- A document that is a flat mapping, or nothing at all, which counts as one without entries. -/
structure Document where
  /-- The anchor of the mapping itself. -/
  anchor : Option (List Char) := none
  entries : List (Leaf × Leaf) := []
  deriving DecidableEq, Repr

/-- The mapping that stands here, and the tokens behind it. -/
def mapping? (hs : Handles) (ts : List Token) : Option (Document × List Token) := do
  let (p, ts) := properties ts
  let _ ← p.fullTag? hs
  match ts with
  | .blockMappingStart :: ts =>
    let (entries, ts) ← blockEntriesUpTo hs ts.length ts
    return (⟨p.anchor, entries⟩, ts)
  | .flowMappingStart :: ts =>
    let (entries, ts) ← flowEntriesUpTo hs ts.length ts
    return (⟨p.anchor, entries⟩, ts)
  | .scalar .. :: _ | .alias _ :: _ | .flowListStart :: _ | .blockListStart :: _ => none
  | ts => if p.isEmpty then none else return ({}, ts)

def isOver : List Token → Bool
  | [] => true
  | .documentEnd :: ts => isOver ts
  | _ => false

/-- Reads the directives before a document; each may be given once. -/
def directives? : Bool → Handles → List Token → Option (Handles × List Token)
  | versioned, hs, .version major minor :: ts =>
    if versioned ∨ major ≠ 1 ∨ (minor ≠ 1 ∧ minor ≠ 2) then none else directives? true hs ts
  | versioned, hs, .handle h beginning :: ts =>
    if (hs.lookup h).isSome then none else directives? versioned ((h, beginning) :: hs) ts
  | _, hs, ts => some (hs, ts)

/-- The document after its mark; it may be empty. -/
def content? (hs : Handles) (ts : List Token) : Option (Document × List Token) :=
  match ts with
  | [] | .documentStart :: _ | .documentEnd :: _ | .version .. :: _ | .handle .. :: _ =>
    some ({}, ts)
  | ts => mapping? hs ts

def Document.ofTokens? (ts : List Token) : Option Document := do
  match ts with
  | [] => return {}
  | .documentStart :: _ | .version .. :: _ | .handle .. :: _ =>
    let (hs, ts) ← directives? false [] ts
    let .documentStart :: ts := ts | none
    let (d, ts) ← content? (hs ++ Handles.standard) ts
    if isOver ts then return d else none
  | ts =>
    let (d, ts) ← mapping? Handles.standard ts
    if isOver ts then return d else none

/-- The anchors met so far: the number that each name stands for, and what has been numbered, the
latest first. The mapping itself has no scalar. -/
structure Anchors where
  numbers : List (List Char × Nat) := []
  targets : List (Nat × Option Scalar) := []

/-- Gives a name the number of names before it. -/
def Anchors.add (as : Anchors) (name : List Char) (s : Option Scalar) : Anchors :=
  let n := as.numbers.length
  ⟨(name, n) :: as.numbers.filter (·.1 ≠ name), (n, s) :: as.targets⟩

inductive Reference
  | scalar (s : Scalar)
  | number (n : Nat)

def reference? (as : Anchors) : Leaf → Option (Reference × Anchors)
  | .alias name => (as.numbers.lookup name).map fun n => (.number n, as)
  | .scalar none s => some (.scalar s, as)
  | .scalar (some name) s => some (.scalar s, as.add name (some s))

def references? : Anchors → List (Leaf × Leaf) →
    Option (List (Reference × Reference) × Anchors)
  | as, [] => some ([], as)
  | as, (k, v) :: entries => do
    let (k, as) ← reference? as k
    let (v, as) ← reference? as v
    let (more, as) ← references? as entries
    return ((k, v) :: more, as)

/-- What a reference stands for; a number stands for what was given it last. -/
def Anchors.resolve? (as : Anchors) : Reference → Option Scalar
  | .scalar s => some s
  | .number n => (as.targets.lookup n).bind id

def Document.resolved? (d : Document) : Option (List (Scalar × Scalar)) := do
  let as : Anchors := d.anchor.elim {} fun name => Anchors.add {} name none
  let (entries, as) ← references? as d.entries
  entries.mapM fun (k, v) => return (← as.resolve? k, ← as.resolve? v)

/-- The entries of a text that holds one flat mapping or nothing. -/
def entries? (text : String) : Option (List (Scalar × Scalar)) := do
  (← Document.ofTokens? (← tokens? text.toList)).resolved?

end Rota.Yaml
