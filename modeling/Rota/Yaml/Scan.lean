import Rota.Yaml.Scalar
import Rota.Yaml.Tag

namespace Rota.Yaml

/-- A place at which a key may have begun, which only a later colon shows. -/
structure Candidate where
  /-- The number of tokens before it. -/
  place : Nat
  start : Cursor
  /-- Whether nothing else than a key can stand there. -/
  required : Bool

/-- The farthest that a key of its line may reach, in characters. -/
def longestKey : Nat := 1024

structure Scan where
  cursor : Cursor
  tokens : Array Token := #[]
  /-- For each block collection around, from the inside, the column behind that of its entries. -/
  margins : List Nat := []
  /-- For each flow collection around and for the blocks around them, from the inside, where a key
  may have begun. -/
  candidates : List (Option Candidate) := [none]
  /-- Whether a key may begin here. -/
  keyAllowed : Bool := true

namespace Scan

def inFlow (s : Scan) : Bool := 1 < s.candidates.length

def margin (s : Scan) : Nat := s.margins.headD 0

def push (s : Scan) (t : Token) : Scan := { s with tokens := s.tokens.push t }

def insert (s : Scan) (place : Nat) (t : Token) : Scan :=
  { s with tokens := s.tokens.insertIdxIfInBounds place t }

def allowKey (s : Scan) (b : Bool) : Scan := { s with keyAllowed := b }

def pass (s : Scan) (n : Nat) (t : Token) : Scan :=
  { s.push t with cursor := s.cursor.advance n }

/-- Whether a tab is as good as a space here. -/
def tabAllowed (s : Scan) : Bool := s.inFlow || !s.keyAllowed

/-- Passes blanks, comments and line breaks. A new line of a block may begin with a key. -/
def toTokenUpTo : Nat → Scan → Scan
  | 0, s => s
  | limit + 1, s =>
    let c := if s.cursor.index = 0 ∧ s.cursor.rest.head? = some '\ufeff' then s.cursor.advance 1
      else s.cursor
    let c := (c.skip fun x => x = ' ' || (s.tabAllowed && x = '\t')).skipComment
    match c.lineBreak with
    | ([], _) => { s with cursor := c }
    | (_, c) => toTokenUpTo limit { s with cursor := c, keyAllowed := s.keyAllowed || !s.inFlow }

def toToken (s : Scan) : Scan := toTokenUpTo (s.cursor.rest.length + 1) s

/-- Gives up the candidates that are too far away, which fails over one that is required. -/
def forgetStale? (s : Scan) : Option Scan := do
  let c := s.cursor
  let check : Option Candidate → Option (Option Candidate)
    | none => some none
    | some k =>
      if k.start.line < c.line ∨ k.start.index + longestKey < c.index then
        if k.required then none else some none
      else some (some k)
  return { s with candidates := ← s.candidates.mapM check }

/-- Puts another candidate in place of the innermost one, which must not be required. -/
def setCandidate? (s : Scan) (k : Option Candidate) : Option Scan :=
  match s.candidates with
  | some old :: rest => if old.required then none else some { s with candidates := k :: rest }
  | none :: rest => some { s with candidates := k :: rest }
  | [] => some s

def dropCandidate? (s : Scan) : Option Scan := s.setCandidate? none

def noteCandidate? (s : Scan) : Option Scan :=
  if s.keyAllowed then
    s.setCandidate?
      (some ⟨s.tokens.size, s.cursor, !s.inFlow && s.margin = s.cursor.column + 1⟩)
  else some s

/-- Ends the block collections whose entries stand at the column `limit` or later. -/
def unroll (s : Scan) (limit : Nat) : Scan :=
  if s.inFlow then s
  else
    let ended := s.margins.takeWhile (limit < ·)
    { s with
      margins := s.margins.drop ended.length
      tokens := s.tokens ++ Array.replicate ended.length Token.blockEnd }

/-- Begins a block collection with entries at `column`, if that is further in. -/
def roll (s : Scan) (column place : Nat) (t : Token) : Scan :=
  if !s.inFlow && s.margin ≤ column then
    { s.insert place t with margins := (column + 1) :: s.margins }
  else s

/-- Adds a token that only a directive or a mark at the beginning of a line brings. -/
def documentToken? (s : Scan) (t : Token) (c : Cursor) : Option Scan := do
  let s ← (s.unroll 0).dropCandidate?
  return { s.push t with cursor := c, keyAllowed := false }

def flowStart? (s : Scan) (t : Token) : Option Scan := do
  let s ← s.noteCandidate?
  return ({ s with candidates := none :: s.candidates }.pass 1 t).allowKey true

def flowEnd? (s : Scan) (t : Token) : Option Scan := do
  let s ← s.dropCandidate?
  let candidates := if s.inFlow then s.candidates.tail else s.candidates
  return ({ s with candidates }.pass 1 t).allowKey false

def flowEntry? (s : Scan) : Option Scan := do
  return ((← s.dropCandidate?).pass 1 .flowEntry).allowKey true

def open? (s : Scan) (t : Token) : Option Scan :=
  if s.inFlow then some s
  else if s.keyAllowed then some (s.roll s.cursor.column s.tokens.size t)
  else none

def blockEntry? (s : Scan) : Option Scan := do
  let s ← (← s.open? .blockListStart).dropCandidate?
  return (s.pass 1 .blockEntry).allowKey true

def key? (s : Scan) : Option Scan := do
  let s ← (← s.open? .blockMappingStart).dropCandidate?
  return (s.pass 1 .key).allowKey !s.inFlow

/-- A colon makes a key of the candidate, if there is one. -/
def value? (s : Scan) : Option Scan := do
  match s.candidates with
  | some k :: rest =>
    let s := { s with candidates := none :: rest }.insert k.place .key
    return ((s.roll k.start.column k.place .blockMappingStart).pass 1 .value).allowKey false
  | _ => return ((← s.open? .blockMappingStart).pass 1 .value).allowKey !s.inFlow

def leaf? (s : Scan) (read : Cursor → Option (Token × Cursor)) : Option Scan := do
  let s ← s.noteCandidate?
  let (t, c) ← read s.cursor
  return { s.push t with cursor := c, keyAllowed := false }

def flowScalar? (s : Scan) (quote : Char) : Option Scan :=
  s.leaf? fun c => (quotedScalar? quote c).map fun r => (.scalar r.text .quoted, r.cursor)

def plain? (s : Scan) : Option Scan := do
  let s ← s.noteCandidate?
  let r ← plainScalar? s.inFlow s.margin s.cursor
  return { s.push (.scalar r.text .plain) with cursor := r.cursor, keyAllowed := r.broken }

def block? (s : Scan) : Option Scan := do
  let s ← s.dropCandidate?
  let r ← blockScalar? s.margin s.cursor
  let style := if s.cursor.rest.head? = some '|' then Style.literal else .quoted
  return { s.push (.scalar r.text style) with cursor := r.cursor, keyAllowed := true }

def indicators : List Char := "-?:,[]\x7b\x7d#&*!|>'\"%@`".toList

/-- Whether a plain scalar begins here. A dash begins one if no gap follows; so do a question mark
and a colon outside of flow collections. -/
def plainBegins (s : Scan) (c : Char) (cs : List Char) : Bool :=
  !(isGap c || indicators.contains c) || (c = '-' && !cs.head?.any isBlank) ||
    (!s.inFlow && (c = '?' || c = ':') && !gapFollows cs)

/-- Reads the token that begins with `c`. -/
def token? (s : Scan) (c : Char) (cs : List Char) : Option Scan :=
  if s.cursor.column = 0 && c = '%' then do
    let (t, after) ← directiveToken? s.cursor
    s.documentToken? t after
  else if s.cursor.isMark '-' then s.documentToken? .documentStart (s.cursor.advance 3)
  else if s.cursor.isMark '.' then s.documentToken? .documentEnd (s.cursor.advance 3)
  else
    match c with
    | '[' => s.flowStart? .flowListStart
    | '\x7b' => s.flowStart? .flowMappingStart
    | ']' => s.flowEnd? .flowListEnd
    | '\x7d' => s.flowEnd? .flowMappingEnd
    | ',' => s.flowEntry?
    | '*' => s.leaf? fun c => (anchorName? c).map fun (name, c) => (.alias name, c)
    | '&' => s.leaf? fun c => (anchorName? c).map fun (name, c) => (.anchor name, c)
    | '!' => s.leaf? (tagToken? s.inFlow)
    | '\'' | '"' => s.flowScalar? c
    | c =>
      if c = '-' && gapFollows cs then s.blockEntry?
      else if c = '?' && (s.inFlow || gapFollows cs) then s.key?
      else if c = ':' && (s.inFlow || gapFollows cs) then s.value?
      else if (c = '|' || c = '>') && !s.inFlow then s.block?
      else if s.plainBegins c cs then s.plain?
      else none

def finishUpTo : Nat → Scan → Option (List Token)
  | 0, _ => none
  | limit + 1, s => do
    let s ← s.toToken.forgetStale?
    match s.cursor.rest with
    | [] => return ((← (s.unroll 0).dropCandidate?).tokens).toList
    | c :: cs => finishUpTo limit (← (s.unroll (s.cursor.column + 1)).token? c cs)

end Scan

/-- The tokens of a text, if it has any meaning. A mark of the byte order may lead. -/
def tokens? (text : List Char) : Option (List Token) :=
  let text := if text.head? = some '\ufeff' then text.tail else text
  if text.all isPrintable then Scan.finishUpTo (text.length + 1) { cursor := { rest := text } }
  else none

end Rota.Yaml
